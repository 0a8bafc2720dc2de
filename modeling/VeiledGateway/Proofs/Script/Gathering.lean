/-
  What gathering finds out about a well-formed tree.

  `exists_gather` says that gathering succeeds, and all that it finds: every place that opens a scope
  is given one, inside the scopes around it, and the names that are declared and pinned are those of
  the places that are gone through, each in the scope of its form.  Scopes of different places have
  different numbers.
-/
import VeiledGateway.Proofs.Script.Declaring

set_option autoImplicit false

namespace VeiledGateway.Script

/-! ## Steps lead to different children -/

theorem pairwise_zipIdx (items : List Tree) : items.zipIdx.Pairwise fun a b => a.2 ≠ b.2 := by
  have hnodup : (items.zipIdx.map Prod.snd).Nodup := by
    rw [List.zipIdx_map_snd]
    exact List.nodup_range'
  exact List.pairwise_map.mp hnodup

theorem pairwise_held (field : Text) (value : Tree) :
    (held field value).Pairwise fun c d => c.1 ≠ d.1 := by
  unfold held
  split
  · rename_i items
    rw [List.pairwise_map]
    refine List.Pairwise.filter _ ((pairwise_zipIdx items).imp fun hne heq => ?_)
    exact hne (Prod.mk.inj heq).2
  · split
    · exact List.pairwise_singleton _ _
    · exact .nil

theorem Fits.pairwise_children {t : Tree} (h : Fits t) :
    (children t).Pairwise fun c d => c.1 ≠ d.1 := by
  rw [children_eq, List.pairwise_flatMap]
  constructor
  · intro field _
    split
    · exact .nil
    · exact pairwise_held _ _
  · refine (List.pairwise_map.mp h.once).imp fun {a b} hne c hc d hd heq => ?_
    have hfield : ∀ {f : Text × Tree} {e : Child},
        e ∈ (if Text.eqString f.1 "range" || Text.eqString f.1 "loc" then [] else held f.1 f.2) →
          e.1.1 = f.1 := by
      intro f e he
      split at he
      · cases he
      · exact (mem_held.mp he).1
    refine hne ?_
    rw [← hfield hc, ← hfield hd, heq]

/-- Ways that go on with different steps do not meet again. -/
theorem ne_of_suffix_cons {step other : Text × Nat} {path way way' : Path} (hne : step ≠ other)
    (hway : (step :: path) <:+ way) (hway' : (other :: path) <:+ way') : way ≠ way' := by
  rintro rfl
  have hsuffix : (step :: path) <:+ (other :: path) :=
    List.suffix_of_suffix_length_le hway hway' (by simp)
  have heq := hsuffix.eq_of_length (by simp)
  exact hne (List.cons.inj heq).1

/-! ## Chains that stay -/

/-- The scopes inside a place. -/
def Bindings.insideOf (b : Bindings) (p : Place) : Chain :=
  b.opened p.path p.node ++ b.standing p.outer

/-- A node that opens no scope has the chain inside in which it stands. -/
theorem insideOf_of_not_scope {b : Bindings} {p : Place} (h : ¬ isScopeKind p.node.kind = true) :
    b.insideOf p = b.standing p.outer := by
  rw [Bindings.insideOf, Bindings.opened, if_neg h]
  rfl

/-- The entries for the names that a place declares. -/
def Bindings.entriesAt (b : Bindings) (p : Place) : List (Nat × Text) :=
  entriesOf (b.standing p.outer) (b.insideOf p) (declaredBy p.node)

/-- A place and the nodes around it have the same chains in both bindings. -/
structure SameAt (b b' : Bindings) (p : Place) : Prop where
  here : b'.chain? p.path = b.chain? p.path
  around : ∀ o ∈ p.outer, b'.chain? o.path = b.chain? o.path

variable {b b' b'' : Bindings} {p q : Place}

theorem chain?_of_new {new : List (Path × Chain)} {path : Path}
    (h : b'.scopes = new ++ b.scopes) (hne : ∀ e ∈ new, e.1 ≠ path) :
    b'.chain? path = b.chain? path := by
  have hnone : new.lookup path = none := by
    refine List.lookup_eq_none_iff.mpr fun e he => ?_
    exact bne_iff_ne.mpr (hne e he).symm
  rw [Bindings.chain?, h, List.lookup_append, hnone, Option.none_or]
  rfl

theorem standing_congr {outer : List Outer}
    (h : ∀ o ∈ outer, b'.chain? o.path = b.chain? o.path) :
    b'.standing outer = b.standing outer := by
  induction outer with
  | nil => rfl
  | cons o rest ih =>
    have hrest := ih fun o' ho' => h o' (List.mem_cons_of_mem _ ho')
    have hopened : b'.opened o.path o.node = b.opened o.path o.node := by
      rw [Bindings.opened, Bindings.opened, h o List.mem_cons_self]
    simp only [Bindings.standing, List.flatMap_cons] at hrest ⊢
    rw [hrest, hopened]

namespace SameAt

theorem standing (h : SameAt b b' p) : b'.standing p.outer = b.standing p.outer :=
  standing_congr h.around

theorem insideOf (h : SameAt b b' p) : b'.insideOf p = b.insideOf p := by
  rw [Bindings.insideOf, Bindings.insideOf, h.standing, Bindings.opened, Bindings.opened, h.here]

theorem entriesAt (h : SameAt b b' p) : b'.entriesAt p = b.entriesAt p := by
  rw [Bindings.entriesAt, Bindings.entriesAt, h.standing, h.insideOf]

end SameAt

/-- The nodes around a place are less far from the root than the place. -/
def Place.Proper (p : Place) : Prop :=
  ∀ o ∈ p.outer, o.path.length < p.path.length

theorem Place.Proper.inside (h : p.Proper) (c : Child) : (p.inside c).Proper := by
  intro o ho
  obtain rfl | ho := List.mem_cons.mp ho
  · exact Nat.lt_succ_self _
  · exact Nat.lt_succ_of_lt (h o ho)

/-! ## What is gathered -/

/-- The children that gathering goes on to. -/
def gatheredKids (p : Place) : List Child :=
  gatheredChildren p.node

/-- The scopes are numbered in the order in which they were opened. -/
def Bindings.Numbered (b : Bindings) : Prop :=
  b.scopes.map (fun e => e.2.head?.map Frame.id) = (List.range b.scopes.length).reverse.map some

/-- What going through places adds to the bindings, with new scopes at some ways only. -/
structure Gathered (isModule : Bool) (within : Path → Prop) (ps : List Place) (b b' : Bindings) :
    Prop where
  grown : ∃ new, b'.scopes = new ++ b.scopes ∧ ∀ e ∈ new, within e.1
  opened : ∀ q ∈ ps, isScopeKind q.node.kind = true →
    ∃ id, b'.chain? q.path = some (openScope isModule (b'.standing q.outer) q.node.kind id)
  mem_declared : ∀ d, d ∈ b'.declared ↔ d ∈ b.declared ∨ ∃ q ∈ ps, d ∈ b'.entriesAt q
  mem_pinned : ∀ name, name ∈ b'.pinned ↔ name ∈ b.pinned ∨ ∃ q ∈ ps, name ∈ pinnedBy q.node
  numbered : b.Numbered → b'.Numbered

namespace Gathered

variable {isModule : Bool} {within within' : Path → Prop} {ps ps' : List Place}

theorem nothing (b : Bindings) : Gathered isModule within [] b b where
  grown := ⟨[], rfl, nofun⟩
  opened := nofun
  mem_declared d := by simp
  mem_pinned name := by simp
  numbered := id

/-- A place that neither opens, declares nor pins anything. -/
theorem leaf (b : Bindings) (hkind : isScopeKind q.node.kind = false)
    (hdeclared : declaredBy q.node = []) (hpinned : pinnedBy q.node = []) :
    Gathered isModule within [q] b b where
  grown := ⟨[], rfl, nofun⟩
  opened r hr hscope := by
    obtain rfl := List.mem_singleton.mp hr
    rw [hkind] at hscope
    cases hscope
  mem_declared d := by simp [Bindings.entriesAt, hdeclared, entriesOf]
  mem_pinned name := by simp [hpinned]
  numbered := id

theorem imp (h : Gathered isModule within ps b b') (himp : ∀ path, within path → within' path) :
    Gathered isModule within' ps b b' where
  grown := by
    obtain ⟨new, hnew, hwithin⟩ := h.grown
    exact ⟨new, hnew, fun e he => himp _ (hwithin e he)⟩
  opened := h.opened
  mem_declared := h.mem_declared
  mem_pinned := h.mem_pinned
  numbered := h.numbered

/-- Going through more places, whose scopes are none of those that stand around the first ones. -/
theorem append (h : Gathered isModule within ps b b') (h' : Gathered isModule within ps' b' b'')
    (hsame : ∀ q ∈ ps, SameAt b' b'' q) : Gathered isModule within (ps ++ ps') b b'' where
  grown := by
    obtain ⟨new, hnew, hwithin⟩ := h.grown
    obtain ⟨new', hnew', hwithin'⟩ := h'.grown
    refine ⟨new' ++ new, by rw [hnew', hnew, List.append_assoc], fun e he => ?_⟩
    exact (List.mem_append.mp he).elim (hwithin' e) (hwithin e)
  opened q hq hscope := by
    obtain hq | hq := List.mem_append.mp hq
    · obtain ⟨id, hid⟩ := h.opened q hq hscope
      exact ⟨id, by rw [(hsame q hq).here, (hsame q hq).standing, hid]⟩
    · exact h'.opened q hq hscope
  mem_declared d := by
    rw [h'.mem_declared, h.mem_declared, or_assoc]
    refine or_congr_right ?_
    simp only [List.mem_append, or_and_right, exists_or]
    refine or_congr_left (exists_congr fun q => and_congr_right fun hq => ?_)
    rw [(hsame q hq).entriesAt]
  mem_pinned name := by
    rw [h'.mem_pinned, h.mem_pinned, or_assoc]
    simp only [List.mem_append, or_and_right, exists_or]
  numbered hb := h'.numbered (h.numbered hb)

end Gathered

/-- The nodes around a place that a traversal comes to are those around its start, or inside. -/
theorem outer_path_of_mem {kids : Place → List Child} {fuel : Nat}
    (h : q ∈ placesFrom kids fuel p) {o : Outer} (ho : o ∈ q.outer) :
    o ∈ p.outer ∨ p.path <:+ o.path := by
  induction fuel generalizing p with
  | zero => cases h
  | succ fuel ih =>
    obtain rfl | ⟨c, -, hq⟩ := mem_placesFrom_succ.mp h
    · exact .inl ho
    · obtain hmem | hsuffix := ih hq
      · obtain rfl | hmem := List.mem_cons.mp hmem
        · exact .inr (List.suffix_refl _)
        · exact .inl hmem
      · exact .inr ((List.suffix_cons _ _).trans hsuffix)

/-! ## Going through the children of a node -/

/-- Scopes opened elsewhere than at a place and around it leave its chains as they are. -/
theorem sameAt_of_new {new : List (Path × Chain)} (h : b'.scopes = new ++ b.scopes)
    (hhere : ∀ e ∈ new, e.1 ≠ p.path) (haround : ∀ o ∈ p.outer, ∀ e ∈ new, e.1 ≠ o.path) :
    SameAt b b' p :=
  ⟨chain?_of_new h hhere, fun o ho => chain?_of_new h (haround o ho)⟩

/-- Scopes opened inside a place leave its chains as they are. -/
theorem sameAt_of_inside (hproper : p.Proper) {new : List (Path × Chain)}
    (h : b'.scopes = new ++ b.scopes) (hnew : ∀ e ∈ new, p.path.length < e.1.length) :
    SameAt b b' p := by
  refine sameAt_of_new h (fun e he heq => ?_) fun o ho e he heq => ?_
  · exact absurd (hnew e he) (by rw [heq]; exact Nat.lt_irrefl _)
  · have hlong := hnew e he
    rw [heq] at hlong
    exact absurd (hproper o ho) (Nat.lt_asymm hlong)

/-- Scopes opened inside other children of a node leave the chains inside a child as they are. -/
theorem sameAt_of_siblings {kids : Place → List Child} {fuel : Nat} {c : Child}
    (hproper : p.Proper) (hq : q ∈ placesFrom kids fuel (p.inside c))
    {new : List (Path × Chain)} (h : b'.scopes = new ++ b.scopes)
    (hnew : ∀ e ∈ new, ∃ step, step ≠ c.1 ∧ (step :: p.path) <:+ e.1) : SameAt b b' q := by
  refine sameAt_of_new h (fun e he => ?_) fun o ho e he => ?_
  · obtain ⟨step, hne, hsuffix⟩ := hnew e he
    exact ne_of_suffix_cons hne hsuffix (path_suffix_of_mem hq)
  · obtain ⟨step, hne, hsuffix⟩ := hnew e he
    obtain hmem | hinside := outer_path_of_mem hq ho
    · intro heq
      have hlong : p.path.length < e.1.length := hsuffix.length_le
      obtain rfl | hmem := List.mem_cons.mp hmem
      · exact absurd hlong (by rw [heq]; exact Nat.lt_irrefl _)
      · have hshort := hproper o hmem
        rw [heq] at hlong
        exact absurd hshort (Nat.lt_asymm hlong)
    · exact ne_of_suffix_cons hne hsuffix hinside

/-- Children gone through one after the other, each of which is gathered in the chain inside the
node. -/
theorem exists_foldlM_children {isModule : Bool} {fuel : Nat} {inner : Chain}
    (hproper : p.Proper) {cs : List Child} (hsteps : cs.Pairwise fun c d => c.1 ≠ d.1)
    (heach : ∀ c ∈ cs, ∀ b, b.insideOf p = inner →
      ∃ b', gather isModule fuel inner (c.1 :: p.path) c.2 b = .ok b' ∧
        Gathered isModule ((c.1 :: p.path) <:+ ·) (placesFrom gatheredKids fuel (p.inside c)) b b')
    (hinner : b.insideOf p = inner) :
    ∃ b', cs.foldlM (fun b c => gather isModule fuel inner (c.1 :: p.path) c.2 b) b = .ok b' ∧
      Gathered isModule (fun path => ∃ c ∈ cs, (c.1 :: p.path) <:+ path)
        (cs.flatMap fun c => placesFrom gatheredKids fuel (p.inside c)) b b' := by
  induction cs generalizing b with
  | nil => exact ⟨b, rfl, .nothing b⟩
  | cons c rest ih =>
    obtain ⟨hfirst, hrest⟩ := List.pairwise_cons.mp hsteps
    obtain ⟨b₁, hgather, hgathered⟩ := heach c List.mem_cons_self b hinner
    have hinner₁ : b₁.insideOf p = inner := by
      obtain ⟨new, hnew, hwithin⟩ := hgathered.grown
      rw [(sameAt_of_inside hproper hnew fun e he => (hwithin e he).length_le).insideOf, hinner]
    obtain ⟨b₂, hfold, hgathered₂⟩ :=
      ih hrest (fun d hd => heach d (List.mem_cons_of_mem _ hd)) hinner₁
    refine ⟨b₂, ?_, ?_⟩
    · rw [List.foldlM_cons, hgather]
      exact hfold
    · rw [List.flatMap_cons]
      refine (hgathered.imp ?_).append (hgathered₂.imp ?_) fun q hq => ?_
      · exact fun path hsuffix => ⟨c, List.mem_cons_self, hsuffix⟩
      · exact fun path ⟨d, hd, hsuffix⟩ => ⟨d, List.mem_cons_of_mem _ hd, hsuffix⟩
      · obtain ⟨new, hnew, hwithin⟩ := hgathered₂.grown
        refine sameAt_of_siblings hproper hq hnew fun e he => ?_
        obtain ⟨d, hd, hsuffix⟩ := hwithin e he
        exact ⟨d.1, (hfirst d hd).symm, hsuffix⟩

/-! ## Going through a tree -/

variable {isModule : Bool}

theorem mem_children_of_gatheredChildren {t : Tree} (h : Fits t) {c : Child}
    (hc : c ∈ gatheredChildren t) : c ∈ children t ∨ c.2 = .null := by
  unfold gatheredChildren at hc
  split at hc
  · cases hc
  · rename_i hkind
    exact (h.of_child_optional (slot_mem hkind rfl) hc).symm.imp_left And.right
  · exact .inl hc

theorem pairwise_gatheredChildren {t : Tree} (h : Fits t) :
    (gatheredChildren t).Pairwise fun c d => c.1 ≠ d.1 := by
  unfold gatheredChildren
  split
  · exact .nil
  · unfold child
    split
    · exact List.pairwise_singleton _ _
    · exact .nil
  · exact h.pairwise_children

theorem SameAt.of_scopes (h : b'.scopes = b.scopes) (p : Place) : SameAt b b' p :=
  sameAt_of_new (h.trans (List.nil_append _).symm) nofun fun _ _ => nofun

theorem SameAt.trans (h : SameAt b b' p) (h' : SameAt b' b'' p) : SameAt b b'' p :=
  ⟨h'.here.trans h.here, fun o ho => (h'.around o ho).trans (h.around o ho)⟩

/-- The bindings with the chain of one more place. -/
def Bindings.withScope (b : Bindings) (path : Path) (chain : Chain) : Bindings :=
  { b with scopes := (path, chain) :: b.scopes }

theorem Bindings.Numbered.withScope (h : b.Numbered) {path : Path} {frame : Frame} {outer : Chain}
    (hid : frame.id = b.scopes.length) : (b.withScope path (frame :: outer)).Numbered := by
  unfold Bindings.Numbered at h ⊢
  simp [Bindings.withScope, List.range_succ, h, hid]

theorem chain?_withScope (b : Bindings) (path : Path) (chain : Chain) :
    (b.withScope path chain).chain? path = some chain := by
  simp [Bindings.chain?, Bindings.withScope]

theorem around_withScope (hproper : p.Proper) (chain : Chain) :
    ∀ o ∈ p.outer, (b.withScope p.path chain).chain? o.path = b.chain? o.path := by
  intro o ho
  refine chain?_of_new (show _ = [(p.path, chain)] ++ b.scopes from rfl) fun e he heq => ?_
  obtain rfl := List.mem_singleton.mp he
  have hshort := hproper o ho
  rw [← heq] at hshort
  exact absurd hshort (Nat.lt_irrefl _)

/-- A node that has been entered, with the scope that it opens and its name in the scope around. -/
structure Entered (isModule : Bool) (p : Place) (b b' : Bindings) : Prop where
  inside : b'.insideOf p ≠ []
  around : ∀ o ∈ p.outer, b'.chain? o.path = b.chain? o.path
  grown : ∃ new, b'.scopes = new ++ b.scopes ∧ ∀ e ∈ new, e.1 = p.path
  opened : isScopeKind p.node.kind = true →
    ∃ id, b'.chain? p.path = some (openScope isModule (b.standing p.outer) p.node.kind id)
  mem_declared : ∀ d, d ∈ b'.declared ↔
    d ∈ b.declared ∨ d ∈ entriesOf (b.standing p.outer) (b'.insideOf p) (declaredOutside p.node)
  mem_pinned : ∀ name, name ∈ b'.pinned ↔ name ∈ b.pinned
  numbered : b.Numbered → b'.Numbered

/-- A node opens its scope in the chain that it stands in; a program stands in none. -/
theorem exists_openScope (isModule : Bool) {chain : Chain} {kind : String} (id : Nat)
    (h : kind = "Program" → chain = []) :
    ∃ frame, openScope isModule chain kind id = frame :: chain ∧ frame.id = id := by
  unfold openScope
  split
  · rename_i hkind
    exact ⟨_, by rw [h (beq_iff_eq.mp hkind)], rfl⟩
  · exact ⟨_, rfl, rfl⟩

theorem exists_declareName_of_outer {chain inner : Chain} {t : Tree} (h : WellFormed t)
    (hchain : t.kind = "Program" ∨ chain ≠ []) (b : Bindings) :
    ∃ b', declareName chain t b = .ok b' ∧
      Adds (entriesOf chain inner (declaredOutside t)) [] b b' := by
  obtain hkind | hchain := hchain
  · have hnot : ¬ (t.kind == "FunctionDeclaration") = true := by
      rw [hkind]
      decide
    rw [declareName, declaredOutside, if_neg hnot, if_neg hnot]
    exact ⟨b, rfl, .refl b⟩
  · exact exists_declareName hchain h b

/-- A scope that is opened at a place stands there in front of those around it. -/
theorem insideOf_withScope (hproper : p.Proper) (hscope : isScopeKind p.node.kind = true)
    (frame : Frame) (outer : Chain) :
    (b.withScope p.path (frame :: outer)).insideOf p = frame :: b.standing p.outer := by
  rw [Bindings.insideOf, standing_congr (around_withScope hproper _), Bindings.opened,
    if_pos hscope, chain?_withScope]
  rfl

theorem isScopeKind_program : isScopeKind "Program" = true := by
  decide

theorem isScopeKind_functionDeclaration : isScopeKind "FunctionDeclaration" = true := by
  decide

theorem exists_enter (isModule : Bool) (hproper : p.Proper) (h : WellFormed p.node)
    (hroot : p.node.kind = "Program" → p.outer = [])
    (hchain : p.node.kind = "Program" ∨ b.standing p.outer ≠ []) :
    ∃ b', enter isModule (b.standing p.outer) p.path p.node b = .ok (b'.insideOf p, b') ∧
      Entered isModule p b b' := by
  unfold enter
  split
  · rename_i hscope
    obtain ⟨frame, hopen, hid⟩ := exists_openScope isModule b.scopes.length
      fun hkind => show b.standing p.outer = [] by rw [hroot hkind]; rfl
    obtain ⟨b₀, hname, hadds⟩ := exists_declareName_of_outer h hchain b
    have hinside := insideOf_withScope (b := b₀) hproper hscope frame (b.standing p.outer)
    rw [(SameAt.of_scopes hadds.scopes p).standing] at hinside
    refine ⟨b₀.withScope p.path (frame :: b.standing p.outer), ?_, ?_⟩
    · rw [hname, hopen, hinside]
      rfl
    · exact {
        inside := by rw [hinside]; exact List.cons_ne_nil _ _
        around := fun o ho => by
          rw [around_withScope hproper _ o ho]
          exact (SameAt.of_scopes hadds.scopes p).around o ho
        grown := ⟨[(p.path, frame :: b.standing p.outer)], by rw [← hadds.scopes]; rfl, by simp⟩
        opened := fun _ => ⟨b.scopes.length, by rw [hopen, chain?_withScope]⟩
        mem_declared := fun d => by rw [hinside]; exact hadds.mem_declared d
        mem_pinned := fun name => (hadds.mem_pinned name).trans (by simp)
        numbered := fun hb => by
          have hb₀ : b₀.Numbered := by
            rw [Bindings.Numbered, hadds.scopes]
            exact hb
          exact hb₀.withScope (hid.trans (congrArg List.length hadds.scopes).symm) }
  · rename_i hscope
    have hinside : b.insideOf p = b.standing p.outer := by
      rw [Bindings.insideOf, Bindings.opened, if_neg hscope]
      rfl
    have hnone : declaredOutside p.node = [] := by
      rw [declaredOutside, if_neg]
      intro hkind
      rw [beq_iff_eq.mp hkind] at hscope
      exact hscope isScopeKind_functionDeclaration
    refine ⟨b, by rw [hinside]; rfl, ?_⟩
    exact {
      inside := by
        rw [hinside]
        refine hchain.resolve_left fun hkind => ?_
        rw [hkind] at hscope
        exact hscope isScopeKind_program
      around := fun _ _ => rfl
      grown := ⟨[], rfl, nofun⟩
      opened := fun h => absurd h hscope
      mem_declared := fun d => by simp [hnone, entriesOf]
      mem_pinned := fun name => Iff.rfl
      numbered := id }

/-- Names have no children. -/
theorem Fits.children_eq_nil {t : Tree} (h : Fits t) (hslots : slotsOf t.kind = []) :
    children t = [] := by
  refine List.eq_nil_iff_forall_not_mem.mpr fun c hc => ?_
  obtain ⟨slot, hslot, -⟩ := h.mem_children_iff.mp hc
  rw [hslots] at hslot
  cases hslot

theorem gather_identifier {t : Tree} (h : Fits t) (hkind : t.kind = "Identifier") (fuel : Nat)
    (chain : Chain) (path : Path) (b : Bindings) : gather isModule fuel chain path t b = .ok b := by
  cases fuel with
  | zero => rfl
  | succ fuel =>
    have hchildren : gatheredChildren t = [] := by
      simp only [gatheredChildren, hkind]
      exact h.children_eq_nil (by rw [hkind]; rfl)
    simp only [gather, h.isTruthy, enter, declarations, hkind, hchildren, pinSpecifiers]
    rfl

theorem gather_null (fuel : Nat) (chain : Chain) (path : Path) (b : Bindings) :
    gather isModule fuel chain path .null b = .ok b := by
  cases fuel <;> rfl

/-- A child that adds nothing to the bindings. -/
theorem gathered_leaf {within : Path → Prop} (fuel : Nat) (b : Bindings)
    (hkids : gatheredKids p = []) (hkind : isScopeKind p.node.kind = false)
    (hdeclared : declaredBy p.node = []) (hpinned : pinnedBy p.node = []) :
    Gathered isModule within (placesFrom gatheredKids fuel p) b b := by
  cases fuel with
  | zero => exact .nothing b
  | succ fuel =>
    rw [placesFrom, hkids]
    exact .leaf b hkind hdeclared hpinned

theorem kind_of_namesFunction {c : Child} (h : Fits p.node) (hc : c ∈ children p.node)
    (hnames : Outer.namesFunction ⟨p.path, p.node, c.1⟩ = true) : c.2.kind = "Identifier" := by
  obtain ⟨hkind, hstep⟩ := Bool.and_eq_true_iff.mp hnames
  obtain ⟨slot, hslot, hkinds, hstands⟩ := h.mem_children_iff.mp hc
  have hname : Text.ofString slot.1 = Text.ofString "id" := by
    rw [← beq_iff_eq.mp hstep]
    exact (step_of_mem_slotChildren hstands).symm
  have htable : ∀ slot ∈ slotsOf "FunctionDeclaration", Text.ofString slot.1 = Text.ofString "id" →
      slot.2.kinds = ["Identifier"] := by
    decide
  rw [beq_iff_eq.mp hkind] at hslot
  rw [htable slot hslot hname] at hkinds
  exact kind_eq_of_isOfKinds hkinds

theorem kind_ne_program {t : Tree} (h : Fits t) {c : Child} (hc : c ∈ children t) :
    c.2.kind ≠ "Program" := by
  obtain ⟨slot, hslot, hkinds, -⟩ := h.mem_children_iff.mp hc
  intro hkind
  have hmem := kind_of_isOfKinds hkinds
  rw [hkind] at hmem
  exact (slots_not_skipped hslot).2.2 hmem

/-- The chain in which a child stands is the one inside its parent; the name of a function that is
declared stands in the chain around. -/
theorem standing_inside (b : Bindings) (p : Place) {c : Child}
    (hnames : Outer.namesFunction ⟨p.path, p.node, c.1⟩ = false) :
    b.standing (p.inside c).outer = b.insideOf p := by
  simp [Place.inside, Bindings.standing, Bindings.insideOf, hnames]

/-- Gathering a tree of this depth, from any bindings. -/
def GathersWithin (isModule : Bool) (fuel : Nat) : Prop :=
  ∀ {p : Place} {b : Bindings}, p.node.depth ≤ fuel → WellFormed p.node → p.Proper →
    (p.node.kind = "Program" → p.outer = []) →
    (p.node.kind = "Program" ∨ b.standing p.outer ≠ []) →
    ∃ b', gather isModule fuel (b.standing p.outer) p.path p.node b = .ok b' ∧
      Gathered isModule (p.path <:+ ·) (placesFrom gatheredKids fuel p) b b'

/-- Gathering the children of a node. -/
theorem exists_gather_child {fuel : Nat} (ih : GathersWithin isModule fuel)
    (hdepth : p.node.depth ≤ fuel + 1) (h : WellFormed p.node) (hproper : p.Proper) {c : Child}
    (hc : c ∈ gatheredChildren p.node) (hinner : b.insideOf p ≠ []) :
    ∃ b', gather isModule fuel (b.insideOf p) (c.1 :: p.path) c.2 b = .ok b' ∧
      Gathered isModule ((c.1 :: p.path) <:+ ·) (placesFrom gatheredKids fuel (p.inside c)) b b' := by
  obtain hc | hnull := mem_children_of_gatheredChildren h.fits hc
  · have hwell := h.inside hc
    cases hnames : Outer.namesFunction ⟨p.path, p.node, c.1⟩ with
    | true =>
      have hkind := kind_of_namesFunction h.fits hc hnames
      refine ⟨b, gather_identifier hwell.fits hkind fuel _ _ b, gathered_leaf fuel b ?_ ?_ ?_ ?_⟩
      · simp only [gatheredKids, gatheredChildren, Place.inside, hkind]
        exact hwell.fits.children_eq_nil (by rw [hkind]; rfl)
      all_goals
        simp only [Place.inside, declaredBy, declaredOutside, declaredInside, pinnedBy,
          pinnedInside, pinnedLast, hkind]
        rfl
    | false =>
      have hstanding := standing_inside b p hnames
      have hlt := depth_lt_of_mem_children hc
      rw [← hstanding] at hinner ⊢
      refine ih (p := p.inside c) (Nat.le_of_lt_succ (Nat.lt_of_lt_of_le hlt hdepth)) hwell
        (hproper.inside c) (fun hkind => ?_) (.inr hinner)
      exact absurd hkind (kind_ne_program h.fits hc)
  · refine ⟨b, by rw [hnull]; exact gather_null fuel _ _ b, gathered_leaf fuel b ?_ ?_ ?_ ?_⟩
    all_goals
      simp only [Place.inside, gatheredKids, hnull]
      rfl

/-- What a node adds, and what its children add, together. -/
theorem Gathered.node {ps : List Place} {b₁ b₂ b₃ b₄ : Bindings} (hproper : p.Proper)
    (hentered : Entered isModule p b b₁)
    (hadds : Adds (entriesOf (b.standing p.outer) (b₁.insideOf p) (declaredInside p.node))
      (pinnedInside p.node) b₁ b₂)
    (hgathered : Gathered isModule (fun path => ∃ c : Child, (c.1 :: p.path) <:+ path) ps b₂ b₃)
    (hpins : Adds [] (pinnedLast p.node) b₃ b₄) :
    Gathered isModule (p.path <:+ ·) (p :: ps) b b₄ := by
  obtain ⟨new, hnew, hhere⟩ := hentered.grown
  obtain ⟨new', hnew', hwithin⟩ := hgathered.grown
  have hsame : SameAt b₁ b₄ p := by
    refine (SameAt.of_scopes hadds.scopes p).trans (.trans ?_ (.of_scopes hpins.scopes p))
    refine sameAt_of_inside hproper hnew' fun e he => ?_
    obtain ⟨c, hsuffix⟩ := hwithin e he
    exact hsuffix.length_le
  have hstanding : b₄.standing p.outer = b.standing p.outer := by
    rw [hsame.standing]
    exact standing_congr hentered.around
  have hlast := SameAt.of_scopes hpins.scopes
  exact {
    grown := by
      refine ⟨new' ++ new, by rw [hpins.scopes, hnew', hadds.scopes, hnew, List.append_assoc], ?_⟩
      intro e he
      obtain he | he := List.mem_append.mp he
      · obtain ⟨c, hsuffix⟩ := hwithin e he
        exact (List.suffix_cons _ _).trans hsuffix
      · exact hhere e he ▸ List.suffix_refl _
    opened := fun q hq hscope => by
      obtain rfl | hq := List.mem_cons.mp hq
      · obtain ⟨id, hid⟩ := hentered.opened hscope
        exact ⟨id, by rw [hsame.here, hstanding, hid]⟩
      · obtain ⟨id, hid⟩ := hgathered.opened q hq hscope
        exact ⟨id, by rw [(hlast q).here, (hlast q).standing, hid]⟩
    mem_declared := fun d => by
      have hentries : b₄.entriesAt p =
          entriesOf (b.standing p.outer) (b₁.insideOf p) (declaredOutside p.node)
            ++ entriesOf (b.standing p.outer) (b₁.insideOf p) (declaredInside p.node) := by
        rw [Bindings.entriesAt, hsame.insideOf, hstanding, declaredBy, entriesOf_append]
      have hrest : (∃ q ∈ ps, d ∈ b₃.entriesAt q) ↔ ∃ q ∈ ps, d ∈ b₄.entriesAt q :=
        exists_congr fun q => by rw [(hlast q).entriesAt]
      rw [hpins.mem_declared, hgathered.mem_declared, hadds.mem_declared, hentered.mem_declared,
        hrest]
      simp only [List.mem_cons, exists_eq_or_imp, hentries, List.mem_append, List.not_mem_nil,
        or_false, or_assoc]
    mem_pinned := fun name => by
      rw [hpins.mem_pinned, hgathered.mem_pinned, hadds.mem_pinned, hentered.mem_pinned]
      simp only [List.mem_cons, exists_eq_or_imp, pinnedBy, List.mem_append, or_assoc]
      refine or_congr_right (or_congr_right or_comm)
    numbered := fun hb => by
      have hb₂ : b₂.Numbered := by
        rw [Bindings.Numbered, hadds.scopes]
        exact hentered.numbered hb
      rw [Bindings.Numbered, hpins.scopes]
      exact hgathered.numbered hb₂ }

/-- Gathering a well-formed tree succeeds, and finds what stands at each of its places. -/
theorem exists_gather (isModule : Bool) (fuel : Nat) : GathersWithin isModule fuel := by
  induction fuel with
  | zero =>
    intro p b hdepth
    exact absurd (depth_pos p.node) (by omega)
  | succ fuel ih =>
    intro p b hdepth h hproper hroot hchain
    obtain ⟨b₁, henter, hentered⟩ := exists_enter isModule hproper h hroot hchain
    obtain ⟨b₂, hdeclarations, hadds⟩ :=
      exists_declarations (b.standing p.outer) hentered.inside h b₁
    have hinner := (SameAt.of_scopes hadds.scopes p).insideOf
    obtain ⟨b₃, hfold, hgathered⟩ := exists_foldlM_children hproper
      (pairwise_gatheredChildren h.fits)
      (fun c hc b hb => hb ▸ exists_gather_child ih hdepth h hproper hc (hb ▸ hentered.inside)) hinner
    obtain ⟨b₄, hpin, hpins⟩ := exists_pinSpecifiers h b₃
    refine ⟨b₄, ?_, .node hproper hentered hadds (hgathered.imp ?_) hpins⟩
    · rw [gather, h.fits.isTruthy]
      simp only [Bool.not_true, Bool.false_eq_true, if_false]
      refine Outcome.bind_eq_ok.mpr ⟨_, henter, ?_⟩
      refine Outcome.bind_eq_ok.mpr ⟨b₂, hdeclarations, ?_⟩
      exact Outcome.bind_eq_ok.mpr ⟨b₃, hfold, hpin⟩
    · exact fun path ⟨c, _, hsuffix⟩ => ⟨c, hsuffix⟩

/-! ## Whole scripts -/

/-- The places that gathering goes through. -/
def gatheredPlaces (t : Tree) : List Place :=
  placesFrom gatheredKids t.depth (.root t)

/-- What the bindings of a script say of its places. -/
structure Describes (isModule : Bool) (t : Tree) (b : Bindings) : Prop where
  opened : ∀ q ∈ gatheredPlaces t, isScopeKind q.node.kind = true →
    ∃ id, b.chain? q.path = some (openScope isModule (b.standing q.outer) q.node.kind id)
  mem_declared : ∀ d, d ∈ b.declared ↔ ∃ q ∈ gatheredPlaces t, d ∈ b.entriesAt q
  mem_pinned : ∀ name, name ∈ b.pinned ↔ ∃ q ∈ gatheredPlaces t, name ∈ pinnedBy q.node
  numbered : b.Numbered

/-- The bindings of a script can be found, and say what stands at each of its places. -/
theorem exists_bindingsOf {t : Tree} (h : IsProgram t) (isModule : Bool) :
    ∃ b, bindingsOf isModule t = .ok b ∧ Describes isModule t b := by
  obtain ⟨b, hgather, hgathered⟩ := exists_gather isModule t.depth (p := .root t)
    (b := Bindings.empty) (Nat.le_refl _) h.wellFormed nofun (fun _ => rfl) (.inl h.kind)
  refine ⟨b, hgather, hgathered.opened, fun d => ?_, fun name => ?_, hgathered.numbered rfl⟩
  · rw [hgathered.mem_declared]
    exact or_iff_right List.not_mem_nil
  · rw [hgathered.mem_pinned]
    exact or_iff_right List.not_mem_nil

end VeiledGateway.Script
