/-
  Which scope the gathered bindings find for a name.

  Gathering gives each node that opens a scope a frame, and records a name in the frame of one node
  around its declaration.  `Place.recordedIn` says which node that is, and `resolve_eq` that a name is
  found in the innermost frame around it in which it is recorded.
-/
import Mathlib.Data.List.Find
import Mathlib.Data.List.Nodup
import Mathlib.Data.List.Pairwise
import VeiledGateway.Proofs.Script.Scoping

set_option autoImplicit false

namespace VeiledGateway.Script

/-! ## Gathering passes by no declaration -/

/-- Kinds of nodes that declare nothing and open no scope. -/
def quietKinds : List String :=
  ["ImportSpecifier", "ImportDefaultSpecifier", "ImportNamespaceSpecifier", "ExportSpecifier",
    "Identifier", "Literal"]

theorem declaredBy_of_quiet {t : Tree} (h : t.kind ∈ quietKinds) : declaredBy t = [] := by
  simp only [quietKinds, List.mem_cons, List.not_mem_nil, or_false] at h
  rcases h with h | h | h | h | h | h <;> simp [declaredBy, declaredOutside, declaredInside, h]

theorem not_scope_of_quiet {kind : String} (h : kind ∈ quietKinds) : isScopeKind kind = false := by
  have hall : ∀ kind ∈ quietKinds, isScopeKind kind = false := by decide
  exact hall kind h

/-- The nodes of the slots of a quiet kind are quiet. -/
theorem quiet_of_slot {kind : String} (h : kind ∈ quietKinds) {slot : String × Slot}
    (hslot : slot ∈ slotsOf kind) : ∀ kind ∈ slot.2.kinds, kind ∈ quietKinds := by
  have hall : ∀ kind ∈ quietKinds, ∀ slot ∈ slotsOf kind, ∀ kind ∈ slot.2.kinds,
      kind ∈ quietKinds := by
    decide
  exact hall kind h slot hslot

variable {t : Tree} {p q r : Place} {levels : Nat}

theorem quiet_of_mem (hp : WellFormed p.node) (h : p.node.kind ∈ quietKinds)
    (hq : q ∈ placesFrom allKids levels p) : q.node.kind ∈ quietKinds := by
  induction levels generalizing p with
  | zero => cases hq
  | succ levels ih =>
    obtain rfl | ⟨c, hc, hq⟩ := mem_placesFrom_succ.mp hq
    · exact h
    · obtain ⟨slot, hslot, hkinds, -⟩ := hp.fits.mem_children_iff.mp hc
      refine ih (hp.inside hc) ?_ hq
      exact quiet_of_slot h hslot _ (kind_of_isOfKinds hkinds)

/-- Children that gathering does not go on to are quiet. -/
theorem gathered_or_quiet_child (h : Fits p.node) {c : Child} (hc : c ∈ children p.node) :
    c ∈ gatheredKids p ∨ c.2.kind ∈ quietKinds := by
  obtain ⟨slot, hslot, hkinds, hstands⟩ := h.mem_children_iff.mp hc
  have hkind := kind_of_isOfKinds hkinds
  unfold gatheredKids gatheredChildren
  split
  · rename_i himport
    rw [himport] at hslot
    have hall : ∀ slot ∈ slotsOf "ImportDeclaration", ∀ kind ∈ slot.2.kinds, kind ∈ quietKinds := by
      decide
    exact .inr (hall slot hslot _ hkind)
  · rename_i hexport
    rw [hexport] at hslot
    have hall : ∀ slot ∈ slotsOf "ExportNamedDeclaration",
        (slot.1 = "declaration" ∧ slot.2.isList = false) ∨
          ∀ kind ∈ slot.2.kinds, kind ∈ quietKinds := by
      decide
    obtain ⟨hfield, hone⟩ | hquiet := hall slot hslot
    · rw [slotChildren, hone, hfield] at hstands
      exact .inl hstands
    · exact .inr (hquiet _ hkind)
  · exact .inl hc

/-- What gathering does not come to is quiet. -/
theorem gathered_or_quiet (hp : WellFormed p.node) (hq : q ∈ placesFrom allKids levels p) :
    q ∈ placesFrom gatheredKids levels p ∨ q.node.kind ∈ quietKinds := by
  induction levels generalizing p with
  | zero => cases hq
  | succ levels ih =>
    obtain rfl | ⟨c, hc, hq⟩ := mem_placesFrom_succ.mp hq
    · exact .inl (mem_placesFrom_succ.mpr (.inl rfl))
    · obtain hkid | hquiet := gathered_or_quiet_child hp.fits hc
      · refine (ih (hp.inside hc) hq).imp_left fun hgathered => ?_
        exact mem_placesFrom_succ.mpr (.inr ⟨c, hkid, hgathered⟩)
      · exact .inr (quiet_of_mem (p := p.inside c) (hp.inside hc) hquiet hq)

theorem gathered_of_scope (h : IsProgram t) (hq : q ∈ places t)
    (hscope : isScopeKind q.node.kind = true) : q ∈ gatheredPlaces t := by
  refine (gathered_or_quiet (p := .root t) h.wellFormed hq).resolve_right fun hquiet => ?_
  rw [not_scope_of_quiet hquiet] at hscope
  cases hscope

theorem gathered_of_declares (h : IsProgram t) (hq : q ∈ places t) {d : Form × Text}
    (hd : d ∈ declaredBy q.node) : q ∈ gatheredPlaces t := by
  refine (gathered_or_quiet (p := .root t) h.wellFormed hq).resolve_right fun hquiet => ?_
  rw [declaredBy_of_quiet hquiet] at hd
  cases hd

/-- Gathering comes to places of the tree, and to children that are missing. -/
theorem mem_or_null_of_gathered (hp : WellFormed p.node) (hq : q ∈ placesFrom gatheredKids levels p) :
    q ∈ placesFrom allKids levels p ∨ q.node = .null := by
  induction levels generalizing p with
  | zero => cases hq
  | succ levels ih =>
    obtain rfl | ⟨c, hc, hq⟩ := mem_placesFrom_succ.mp hq
    · exact .inl (mem_placesFrom_succ.mpr (.inl rfl))
    · obtain hchild | hnull := mem_children_of_gatheredChildren hp.fits hc
      · refine (ih (hp.inside hchild) hq).imp_left fun hall => ?_
        exact mem_placesFrom_succ.mpr (.inr ⟨c, hchild, hall⟩)
      · right
        cases levels with
        | zero => cases hq
        | succ levels =>
          obtain rfl | ⟨d, hd, -⟩ := mem_placesFrom_succ.mp hq
          · exact hnull
          · have hkids : gatheredKids (p.inside c) = [] := by
              simp [gatheredKids, Place.inside, hnull]
              rfl
            rw [hkids] at hd
            cases hd

theorem mem_places_of_gathered (h : IsProgram t) (hq : q ∈ gatheredPlaces t) {d : Form × Text}
    (hd : d ∈ declaredBy q.node) : q ∈ places t := by
  refine (mem_or_null_of_gathered (p := .root t) h.wellFormed hq).resolve_right fun hnull => ?_
  rw [hnull] at hd
  cases hd

/-! ## Places and their paths -/

/-- Places of one path are one. -/
theorem place_eq_of_path (hp : WellFormed p.node) (hq : q ∈ placesFrom allKids levels p)
    (hr : r ∈ placesFrom allKids levels p) (hpath : q.path = r.path) : q = r := by
  induction levels generalizing p with
  | zero => cases hq
  | succ levels ih =>
    have hlonger : ∀ {c : Child} {q : Place}, q ∈ placesFrom allKids levels (p.inside c) →
        p.path.length < q.path.length := fun hq => (path_suffix_of_mem hq).length_le
    obtain rfl | ⟨c, hc, hq⟩ := mem_placesFrom_succ.mp hq
    · obtain rfl | ⟨d, -, hr⟩ := mem_placesFrom_succ.mp hr
      · rfl
      · exact absurd (congrArg List.length hpath) (Nat.ne_of_lt (hlonger hr))
    · obtain rfl | ⟨d, hd, hr⟩ := mem_placesFrom_succ.mp hr
      · exact absurd (congrArg List.length hpath) (Nat.ne_of_gt (hlonger hq))
      · have hstep : c.1 = d.1 := by
          by_contra hne
          exact ne_of_suffix_cons hne (path_suffix_of_mem hq) (path_suffix_of_mem hr) hpath
        have hsame : c = d := by
          by_contra hne
          have : Std.Symm fun c d : Child => c.1 ≠ d.1 := ⟨fun _ _ h => h.symm⟩
          exact hp.fits.pairwise_children.forall hc hd hne hstep
        subst hsame
        exact ih (hp.inside hc) hq hr

/-- The place of a node around a place. -/
theorem exists_place_of_outer {o : Outer} (hp : p ∈ places t) (ho : o ∈ p.outer) :
    ∃ q ∈ places t, q.path = o.path ∧ q.node = o.node := by
  obtain ⟨near, far, houter⟩ := List.append_of_mem ho
  exact ⟨_, mem_placesFrom_of_outer hp houter (Nat.zero_le _), rfl, rfl⟩

/-- A node around a place that has the path of another place is the node of that. -/
theorem node_eq_of_path {o : Outer} (h : IsProgram t) (hp : p ∈ places t) (ho : o ∈ p.outer)
    (hq : q ∈ places t) (hpath : q.path = o.path) : q.node = o.node := by
  obtain ⟨r, hr, hrpath, hnode⟩ := exists_place_of_outer hp ho
  rw [← hnode, place_eq_of_path (p := .root t) h.wellFormed hq hr (hpath.trans hrpath.symm)]

theorem exists_place_of_around {isScope : String → Bool} {path : Path} (hp : p ∈ places t)
    (h : around isScope p.outer = some path) :
    ∃ q ∈ places t, q.path = path ∧ isScope q.node.kind = true := by
  obtain ⟨o, ho, rfl⟩ := Option.map_eq_some_iff.mp h
  obtain ⟨q, hq, hpath, hnode⟩ := exists_place_of_outer hp (List.mem_of_find?_eq_some ho)
  have hscope := List.find?_some ho
  exact ⟨q, hq, hpath, hnode ▸ (Bool.and_eq_true_iff.mp hscope).2⟩

/-! ## The frames of nodes -/

/-- The frame of the scope that the node at a path opens. -/
def Bindings.frameAt (b : Bindings) (path : Path) : Option Frame :=
  (b.chain? path).bind List.head?

/-- The nodes that open scopes have frames, and those of functions and of the script say so. -/
def Framed (b : Bindings) (path : Path) (kind : String) : Prop :=
  isScopeKind kind = true →
    ∃ frame, b.frameAt path = some frame ∧ frame.isFunction = isVariableScope kind

variable {b : Bindings} {isModule : Bool} {name : Text}

theorem framed_of_mem (h : IsProgram t) (hb : Describes isModule t b) (hq : q ∈ places t) :
    Framed b q.path q.node.kind := by
  intro hscope
  obtain ⟨id, hchain⟩ := hb.opened q (gathered_of_scope h hq hscope) hscope
  rw [Bindings.frameAt, hchain, openScope]
  split
  · rename_i hprogram
    refine ⟨_, rfl, ?_⟩
    rw [beq_iff_eq.mp hprogram]
    rfl
  · rename_i hother
    refine ⟨_, rfl, ?_⟩
    simp [isVariableScope, hother]

/-- The nodes around a place have frames. -/
theorem framed_of_mem_outer (h : IsProgram t) (hb : Describes isModule t b) (hp : p ∈ places t)
    {o : Outer} (ho : o ∈ p.outer) : Framed b o.path o.node.kind := by
  obtain ⟨near, far, houter⟩ := List.append_of_mem ho
  exact framed_of_mem h hb (mem_placesFrom_of_outer hp houter (Nat.zero_le _))

theorem mem_scopes_of_chain? {path : Path} {chain : Chain} (h : b.chain? path = some chain) :
    (path, chain) ∈ b.scopes := by
  obtain ⟨before, after, hscopes, -⟩ := List.lookup_eq_some_iff.mp h
  rw [hscopes]
  exact List.mem_append_right _ List.mem_cons_self

/-- Different nodes have different frames. -/
theorem path_eq_of_frameAt (hb : Describes isModule t b) {path other : Path} {frame frame' : Frame}
    (hframe : b.frameAt path = some frame) (hframe' : b.frameAt other = some frame')
    (hid : frame.id = frame'.id) : path = other := by
  obtain ⟨chain, hchain, hhead⟩ := Option.bind_eq_some_iff.mp hframe
  obtain ⟨chain', hchain', hhead'⟩ := Option.bind_eq_some_iff.mp hframe'
  have hmem := mem_scopes_of_chain? hchain
  have hmem' := mem_scopes_of_chain? hchain'
  have hnodup : (b.scopes.map fun e => e.2.head?.map Frame.id).Nodup := by
    rw [hb.numbered]
    exact (List.nodup_reverse.mpr List.nodup_range).map fun _ _ => Option.some.inj
  have hsame := List.inj_on_of_nodup_map hnodup hmem hmem' (by simp [hhead, hhead', hid])
  exact congrArg Prod.fst hsame

/-! ## Chains are the nodes around a place -/

theorem opened_eq (path : Path) (node : Tree) :
    b.opened path node = if isScopeKind node.kind then (b.frameAt path).toList else [] :=
  rfl

/-- To look for a frame in a chain is to look for the node that it belongs to. -/
theorem find?_standing (outer : List Outer) (f : Frame → Bool) :
    (b.standing outer).find? f =
      (outer.find? fun o => !o.namesFunction && isScopeKind o.node.kind
        && (b.frameAt o.path).any f).bind fun o => b.frameAt o.path := by
  induction outer with
  | nil => rfl
  | cons o outer ih =>
    rw [Bindings.standing, List.flatMap_cons, ← Bindings.standing, List.find?_append, ih,
      List.find?_cons, opened_eq]
    cases o.namesFunction
    · cases isScopeKind o.node.kind
      · rfl
      · cases hframe : b.frameAt o.path with
        | none => rfl
        | some frame => cases hf : f frame <;> simp [hf, hframe]
    · rfl

/-- Looking for nodes, told by their paths. -/
theorem around_bind (isScope : String → Bool) (outer : List Outer) :
    (around isScope outer).bind b.frameAt =
      (outer.find? fun o => !o.namesFunction && isScope o.node.kind).bind fun o =>
        b.frameAt o.path := by
  rw [around]
  cases outer.find? _ <;> rfl

/-- A chain that holds a frame of a function is hoisted to the innermost such. -/
theorem hoist_eq_find? {chain : Chain} (h : ∃ frame ∈ chain, frame.isFunction = true) :
    chain.hoist = chain.find? Frame.isFunction := by
  induction chain with
  | nil =>
    obtain ⟨frame, hframe, -⟩ := h
    cases hframe
  | cons frame outer ih =>
    rw [List.find?_cons]
    cases outer with
    | nil =>
      obtain ⟨other, hother, hfunction⟩ := h
      rw [List.mem_singleton.mp hother] at hfunction
      rw [hfunction]
      rfl
    | cons next rest =>
      rw [Chain.hoist]
      · cases hfunction : frame.isFunction with
        | true => rfl
        | false =>
          refine ih ?_
          obtain ⟨other, hother, hother'⟩ := h
          obtain rfl | hother := List.mem_cons.mp hother
          · rw [hfunction] at hother'
            cases hother'
          · exact ⟨other, hother, hother'⟩
      · simp

/-- The innermost scope of a chain is that of the innermost node with a scope. -/
theorem head?_standing {outer : List Outer} (h : ∀ o ∈ outer, Framed b o.path o.node.kind) :
    (b.standing outer).head? = (around isScopeKind outer).bind b.frameAt := by
  rw [around_bind, ← List.find?_congr fun o ho => ?_, ← find?_standing outer fun _ => true]
  · cases b.standing outer <;> rfl
  · cases hscope : isScopeKind o.node.kind
    · rw [Bool.and_false, Bool.false_and]
    · obtain ⟨frame, hframe, -⟩ := h o ho hscope
      simp [hframe]

theorem isScopeKind_of_variable {kind : String} (h : isVariableScope kind = true) :
    isScopeKind kind = true := by
  unfold isVariableScope at h
  unfold isScopeKind
  obtain h | h := Bool.or_eq_true_iff.mp h
  · rw [h]
    rfl
  · rw [h, Bool.or_true]

/-- A chain is hoisted to the innermost function, or to the script. -/
theorem hoist_standing {outer : List Outer} (h : ∀ o ∈ outer, Framed b o.path o.node.kind)
    (hroot : ∃ o ∈ outer, o.node.kind = "Program") :
    (b.standing outer).hoist = (around isVariableScope outer).bind b.frameAt := by
  have hcongr : ∀ o ∈ outer, (!o.namesFunction && isScopeKind o.node.kind
      && (b.frameAt o.path).any Frame.isFunction) = (!o.namesFunction && isVariableScope o.node.kind) := by
    intro o ho
    cases hscope : isScopeKind o.node.kind
    · cases hvariable : isVariableScope o.node.kind
      · rw [Bool.and_false, Bool.false_and]
      · rw [isScopeKind_of_variable hvariable] at hscope
        cases hscope
    · obtain ⟨frame, hframe, hfunction⟩ := h o ho hscope
      rw [hframe, Option.any_some, hfunction, Bool.and_true]
  rw [hoist_eq_find?, find?_standing, List.find?_congr hcongr, around_bind]
  obtain ⟨o, ho, hprogram⟩ := hroot
  obtain ⟨frame, hframe, hfunction⟩ := h o ho (hprogram ▸ isScopeKind_program)
  refine ⟨frame, List.mem_flatMap.mpr ⟨o, ho, ?_⟩, ?_⟩
  · have hnames : o.namesFunction = false := by
      simp [Outer.namesFunction, Tree.isKind, hprogram]
    rw [hnames, opened_eq, hprogram, isScopeKind_program, hframe]
    exact List.mem_singleton.mpr rfl
  · rw [hfunction, hprogram]
    rfl

/-! ## Where names are recorded -/

/-- The kinds of the nodes that declare names in a form. -/
def Form.kinds : Form → List String
  | .parameter => functionKinds
  | .ownName => ["FunctionExpression", "ClassExpression"]
  | .function => ["FunctionDeclaration"]
  | .variable => ["VariableDeclaration"]
  | .lexical => ["VariableDeclaration", "ClassDeclaration"]
  | .caught => ["CatchClause"]
  | .imported => ["ImportDeclaration"]

theorem eq_of_mem_map_form {form : Form} {names : List Text} {d : Form × Text}
    (h : d ∈ names.map (form, ·)) : d.1 = form := by
  obtain ⟨name, -, rfl⟩ := List.mem_map.mp h
  rfl

theorem kind_of_declared {t : Tree} {d : Form × Text} (h : d ∈ declaredBy t) :
    t.kind ∈ d.1.kinds := by
  obtain h | h := List.mem_append.mp h
  · unfold declaredOutside at h
    split at h
    · rename_i hkind
      rw [eq_of_mem_map_form h, beq_iff_eq.mp hkind]
      decide
    · cases h
  · unfold declaredInside at h
    split at h
    · rename_i hkind
      rw [eq_of_mem_map_form h, hkind]
      decide
    · rename_i hkind
      rw [eq_of_mem_map_form h, hkind]
      decide
    · rename_i hkind
      obtain h | h := List.mem_append.mp h <;> rw [eq_of_mem_map_form h, hkind] <;> decide
    · rename_i hkind
      rw [eq_of_mem_map_form h, hkind]
      split <;> decide
    · rename_i hkind
      rw [eq_of_mem_map_form h, hkind]
      decide
    · rename_i hkind
      rw [eq_of_mem_map_form h, hkind]
      decide
    · rename_i hkind
      rw [eq_of_mem_map_form h, hkind]
      decide
    · rename_i hkind
      rw [eq_of_mem_map_form h, hkind]
      decide
    · cases h

/-- The node in whose frame a declaration at a place is recorded. -/
def Place.recordedIn (r : Place) : Form → Option Path
  | .function | .variable => around isVariableScope r.outer
  | .parameter | .ownName | .lexical | .caught | .imported =>
    if isScopeKind r.node.kind then some r.path else around isScopeKind r.outer

/-- A name is recorded in the frame of a node around it. -/
def Outer.Records (t : Tree) (name : Text) (o : Outer) : Prop :=
  o.namesFunction = false ∧
    ∃ r ∈ places t, ∃ d ∈ declaredBy r.node, d.2 = name ∧ r.recordedIn d.1 = some o.path

instance (t : Tree) (name : Text) (o : Outer) : Decidable (o.Records t name) :=
  inferInstanceAs (Decidable (_ ∧ _))

/-- All places but the root stand in the script. -/
theorem program_mem_outer {kids : Place → List Child} (hq : q ∈ placesFrom kids levels p) :
    q = p ∨ ∃ o ∈ q.outer, o.node = p.node := by
  cases levels with
  | zero => cases hq
  | succ levels =>
    refine (mem_placesFrom_succ.mp hq).imp_right ?_
    rintro ⟨c, -, hq⟩
    exact ⟨_, mem_outer_of_mem_inside hq, rfl⟩

theorem insideOf_of_scope {frame : Frame} (hscope : isScopeKind r.node.kind = true)
    (hframe : b.frameAt r.path = some frame) :
    b.insideOf r = frame :: b.standing r.outer := by
  rw [Bindings.insideOf, opened_eq, if_pos hscope, hframe]
  rfl

/-- The innermost frame inside a place. -/
theorem head?_insideOf (hhere : Framed b r.path r.node.kind)
    (houter : ∀ o ∈ r.outer, Framed b o.path o.node.kind) :
    (b.insideOf r).head? =
      (if isScopeKind r.node.kind then some r.path else around isScopeKind r.outer).bind
        b.frameAt := by
  split
  · rename_i hscope
    obtain ⟨frame, hframe, -⟩ := hhere hscope
    rw [insideOf_of_scope hscope hframe, Option.bind_some, hframe]
    rfl
  · rename_i hscope
    rw [insideOf_of_not_scope hscope, head?_standing houter]

/-- The frame in which a name is declared is that of the node in which it is recorded. -/
theorem homeOf_eq (h : IsProgram t) (hb : Describes isModule t b) (hr : r ∈ places t)
    {d : Form × Text} (hd : d ∈ declaredBy r.node) :
    homeOf (b.standing r.outer) (b.insideOf r) d.1 = (r.recordedIn d.1).bind b.frameAt := by
  have houter : ∀ o ∈ r.outer, Framed b o.path o.node.kind := fun o ho =>
    framed_of_mem_outer h hb hr ho
  have hprogram : ∃ o ∈ r.outer, o.node.kind = "Program" := by
    obtain rfl | ⟨o, ho, hnode⟩ := program_mem_outer hr
    · have hnone : declaredBy t = [] := by
        simp [declaredBy, declaredOutside, declaredInside, h.kind]
      rw [Place.root, hnone] at hd
      cases hd
    · exact ⟨o, ho, hnode ▸ h.kind⟩
  have hother : d.1 ≠ .function → d.1 ≠ .variable →
      homeOf (b.standing r.outer) (b.insideOf r) d.1 = (r.recordedIn d.1).bind b.frameAt := by
    intro hfunction hvariable
    have hhead := head?_insideOf (framed_of_mem h hb hr) houter
    cases hform : d.1 <;> first | exact hhead | contradiction
  by_cases hfunction : d.1 = .function
  · rw [hfunction]
    exact hoist_standing houter hprogram
  by_cases hvariable : d.1 = .variable
  · have hkind := kind_of_declared hd
    rw [hvariable] at hkind
    have hscope : ¬ isScopeKind r.node.kind = true := by
      rw [List.mem_singleton.mp hkind]
      decide
    rw [hvariable, homeOf, insideOf_of_not_scope hscope]
    exact hoist_standing houter hprogram
  · exact hother hfunction hvariable

/-- What is declared in the frame of a node is what is recorded there. -/
theorem isDeclared_iff (h : IsProgram t) (hb : Describes isModule t b) {path : Path} {frame : Frame}
    (hframe : b.frameAt path = some frame) :
    b.isDeclared frame name = true ↔
      ∃ r ∈ places t, ∃ d ∈ declaredBy r.node, d.2 = name ∧ r.recordedIn d.1 = some path := by
  have hmem : b.isDeclared frame name = true ↔ (frame.id, name) ∈ b.declared := by
    simp [Bindings.isDeclared]
  rw [hmem, hb.mem_declared]
  constructor
  · rintro ⟨r, hr, hentry⟩
    obtain ⟨d, hd, hhome⟩ := List.mem_filterMap.mp hentry
    obtain ⟨other, hother, heq⟩ := Option.map_eq_some_iff.mp hhome
    obtain ⟨hid, hname⟩ := Prod.mk.inj heq
    have hplace := mem_places_of_gathered h hr hd
    rw [homeOf_eq h hb hplace hd] at hother
    obtain ⟨way, hway, hframe'⟩ := Option.bind_eq_some_iff.mp hother
    rw [path_eq_of_frameAt hb hframe' hframe hid] at hway
    exact ⟨r, hplace, d, hd, hname, hway⟩
  · rintro ⟨r, hr, d, hd, rfl, hpath⟩
    refine ⟨r, gathered_of_declares h hr hd, List.mem_filterMap.mpr ⟨d, hd, ?_⟩⟩
    rw [homeOf_eq h hb hr hd, hpath, Option.bind_some, hframe]
    rfl

theorem mem_kinds_of_ownScope {r : Place} {form : Form} (hkind : r.node.kind ∈ form.kinds)
    (hform : form = .parameter ∨ form = .ownName ∨ form = .caught ∨ form = .function) :
    isScopeKind r.node.kind = true := by
  have hall : ∀ kind ∈ form.kinds, isScopeKind kind = true := by
    obtain rfl | rfl | rfl | rfl := hform <;> decide
  exact hall _ hkind

/-- Names are recorded in the frames of nodes that open scopes. -/
theorem exists_place_of_recordedIn {form : Form} {path : Path} (hr : r ∈ places t)
    (h : r.recordedIn form = some path) :
    ∃ q ∈ places t, q.path = path ∧ isScopeKind q.node.kind = true := by
  have hvariable : around isVariableScope r.outer = some path →
      ∃ q ∈ places t, q.path = path ∧ isScopeKind q.node.kind = true := by
    intro haround
    obtain ⟨q, hq, hpath, hscope⟩ := exists_place_of_around hr haround
    exact ⟨q, hq, hpath, isScopeKind_of_variable hscope⟩
  have hother : (if isScopeKind r.node.kind then some r.path else around isScopeKind r.outer)
      = some path → ∃ q ∈ places t, q.path = path ∧ isScopeKind q.node.kind = true := by
    intro hplace
    split at hplace
    · rename_i hscope
      exact ⟨r, hr, Option.some.inj hplace, hscope⟩
    · exact exists_place_of_around hr hplace
  cases form <;> first | exact hvariable h | exact hother h

/-- A name is found in the innermost frame around it in which it is recorded. -/
theorem resolve_eq (h : IsProgram t) (hb : Describes isModule t b) (hp : p ∈ places t)
    (name : Text) :
    b.resolve (b.standing p.outer) name =
      (p.outer.find? fun o => decide (o.Records t name)).bind fun o => b.frameAt o.path := by
  rw [Bindings.resolve, find?_standing]
  congr 1
  refine List.find?_congr fun o ho => ?_
  rw [Bool.eq_iff_iff, decide_eq_true_iff, Outer.Records]
  simp only [Bool.and_eq_true, Bool.not_eq_true']
  constructor
  · rintro ⟨⟨hnames, hscope⟩, hdeclared⟩
    obtain ⟨frame, hframe, -⟩ := framed_of_mem_outer h hb hp ho hscope
    rw [hframe, Option.any_some] at hdeclared
    exact ⟨hnames, (isDeclared_iff h hb hframe).mp hdeclared⟩
  · rintro ⟨hnames, r, hr, d, hd, hname, hpath⟩
    obtain ⟨q, hq, hsame, hscope⟩ := exists_place_of_recordedIn hr hpath
    rw [node_eq_of_path h hp ho hq hsame] at hscope
    obtain ⟨frame, hframe, -⟩ := framed_of_mem_outer h hb hp ho hscope
    refine ⟨⟨hnames, hscope⟩, ?_⟩
    rw [hframe, Option.any_some]
    exact (isDeclared_iff h hb hframe).mpr ⟨r, hr, d, hd, hname, hpath⟩

end VeiledGateway.Script
