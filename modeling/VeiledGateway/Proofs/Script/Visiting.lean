/-
  What visiting does to a well-formed tree, place by place.

  `visit` goes through a tree and does everything at once.  Here the two are taken apart:
  `visitedKids` says where it goes on to, and `actAt` what it does at a place, which is something only
  for names and literals.  `visit_eq_actsFrom` says that visiting is going to all these places, in
  order, and doing at each what is done there.
-/
import VeiledGateway.Proofs.Rewriting.Ensuring
import VeiledGateway.Proofs.Script.Gathering

set_option autoImplicit false

namespace VeiledGateway.Script

/-! ## Where visiting goes -/

/-- The step leads to the value of a property whose key it is too. -/
def Outer.isShorthand (o : Outer) : Bool :=
  o.node.isKind "Property" && (part? o.node "shorthand").isSome && Text.eqString o.step.1 "value"

/-- The value of a property whose key it is too, with what stands for it when it is missing. -/
def Place.isShorthandValue (p : Place) : Bool :=
  p.outer.head?.any Outer.isShorthand

/-- A name that is the key and the value of a property at once. -/
def Place.isShorthandName (p : Place) : Bool :=
  p.isShorthandValue
    || ((p.outer.head?.any fun o =>
        o.node.isKind "AssignmentPattern" && Text.eqString o.step.1 "left")
      && (p.outer.tail.head?.any Outer.isShorthand))

/-- The callee of a call. -/
def calleeOf (t : Tree) : Tree :=
  (part? t "callee").getD (.object [])

/-- The children that visiting goes on to, with those that are missing. -/
def takenKids (p : Place) : List Child :=
  match p.node.kind with
  | "FunctionDeclaration" => child p.node "id" ++ visitedChildren p.node
  | "Property" =>
    if (part? p.node "shorthand").isSome then child p.node "value"
    else computedChild p.node "key" ++ child p.node "value"
  | "CallExpression" =>
    child p.node "callee"
      ++ (listed p.node "arguments").drop (if loadsModule (calleeOf p.node) then 1 else 0)
  | "AssignmentPattern" =>
    if p.isShorthandValue then child p.node "left" ++ child p.node "right" else children p.node
  | _ => visitedChildren p.node

/-- The nodes among children. -/
def nodesOf (cs : List Child) : List Child :=
  cs.filter (Tree.isNode ·.2)

theorem nodesOf_cons_of_node {c : Child} (h : c.2.isNode = true) (cs : List Child) :
    nodesOf (c :: cs) = c :: nodesOf cs :=
  List.filter_cons_of_pos h

theorem nodesOf_cons_of_not {c : Child} (h : ¬ c.2.isNode = true) (cs : List Child) :
    nodesOf (c :: cs) = nodesOf cs :=
  List.filter_cons_of_neg h

theorem nodesOf_append (cs ds : List Child) : nodesOf (cs ++ ds) = nodesOf cs ++ nodesOf ds :=
  List.filter_append cs ds

/-- The children that visiting goes on to. -/
def visitedKids (p : Place) : List Child :=
  nodesOf (takenKids p)

/-- The places that visiting comes to. -/
def visitedPlaces (t : Tree) : List Place :=
  placesFrom visitedKids t.depth (.root t)

/-! ## What is done at a place -/

/-- What is done to the only argument of a call that looks something up. -/
def Place.lookup? (v : View) (p : Place) : Option (Rewriting (List Mark)) :=
  match p.outer with
  | [] => none
  | o :: _ =>
    if o.node.isKind "CallExpression" && Text.eqString o.step.1 "arguments"
        && (o.node.items "arguments").length == 1 && !loadsModule (calleeOf o.node) then
      lookupArgument? v (calleeOf o.node) p.node
    else none

/-- What is done at a place itself. -/
def actAt (v : View) (p : Place) : Rewriting (List Mark) :=
  match p.node.kind with
  | "Identifier" =>
    if p.isShorthandName then visitShorthand v (v.bindings.standing p.outer) p.node
    else visitName v (v.bindings.standing p.outer) p.node
  | "Literal" => (p.lookup? v).getD (visitString v p.node)
  | _ => return []

/-- What is done at all places that visiting comes to from a place. -/
def actsFrom (v : View) (fuel : Nat) (p : Place) : Rewriting (List Mark) :=
  List.flatten <$> (placesFrom visitedKids fuel p).mapM (actAt v)

/-- What is done in children of a place. -/
def actsEach (v : View) (fuel : Nat) (p : Place) (cs : List Child) : Rewriting (List Mark) :=
  List.flatten <$> cs.mapM fun c => actsFrom v fuel (p.inside c)

variable {v : View} {p : Place} {fuel : Nat}

theorem actsEach_nil : actsEach v fuel p [] = pure [] := by
  rw [actsEach, List.mapM_nil, map_pure]
  rfl

theorem actsEach_cons (c : Child) (cs : List Child) :
    actsEach v fuel p (c :: cs) = do
      let first ← actsFrom v fuel (p.inside c)
      let others ← actsEach v fuel p cs
      return first ++ others := by
  simp only [actsEach, List.mapM_cons, map_eq_pure_bind, bind_assoc, pure_bind, List.flatten_cons]

theorem actsEach_append (cs ds : List Child) :
    actsEach v fuel p (cs ++ ds) = do
      let first ← actsEach v fuel p cs
      let others ← actsEach v fuel p ds
      return first ++ others := by
  induction cs with
  | nil => simp [actsEach_nil]
  | cons c cs ih =>
    simp only [List.cons_append, actsEach_cons, ih, bind_assoc, pure_bind, List.append_assoc]

theorem actsFrom_succ :
    actsFrom v (fuel + 1) p = do
      let here ← actAt v p
      let inside ← actsEach v fuel p (visitedKids p)
      return here ++ inside := by
  have hflat : ∀ cs : List Child,
      List.flatten <$> (cs.flatMap fun c => placesFrom visitedKids fuel (p.inside c)).mapM (actAt v)
        = actsEach v fuel p cs := by
    intro cs
    induction cs with
    | nil => rfl
    | cons c cs ih =>
      simp only [actsEach_cons, ← ih, List.flatMap_cons, List.mapM_append, actsFrom,
        map_eq_pure_bind, bind_assoc, pure_bind, List.flatten_append]
  rw [actsFrom, placesFrom, ← hflat]
  simp only [List.mapM_cons, map_eq_pure_bind, bind_assoc, pure_bind, List.flatten_cons]

/-! ## Visiting takes children -/

section Taken

variable {t : Tree} (h : Fits t) {c : Child}
include h

/-- A child in a field that must hold a node. -/
theorem taken_of_one {field : String} {kinds : List String}
    (hslot : (field, Slot.one kinds) ∈ slotsOf t.kind) (hc : c ∈ child t field) :
    c ∈ children t ∨ c.2 = .null :=
  .inl (h.of_child_one hslot hc).2

theorem taken_of_optional {field : String} {kinds : List String}
    (hslot : (field, Slot.optional kinds) ∈ slotsOf t.kind) (hc : c ∈ child t field) :
    c ∈ children t ∨ c.2 = .null :=
  ((h.of_child_optional hslot hc).imp_right And.right).symm

theorem taken_of_many {field : String} {kinds : List String}
    (hslot : (field, Slot.many kinds) ∈ slotsOf t.kind) (hc : c ∈ listed t field) :
    c ∈ children t ∨ c.2 = .null :=
  .inl (h.of_listed_many hslot hc).2

omit h in
theorem mem_child_of_computed {field : String} (hc : c ∈ computedChild t field) :
    c ∈ child t field := by
  unfold computedChild at hc
  split at hc
  · exact hc
  · cases hc

theorem taken_of_visitedChildren (hc : c ∈ visitedChildren t) :
    c ∈ children t ∨ c.2 = .null := by
  unfold visitedChildren at hc
  split at hc
  · rename_i hkind
    obtain hc | hc := List.mem_append.mp hc
    · exact taken_of_many h (slot_mem hkind rfl) hc
    · exact taken_of_one h (slot_mem hkind rfl) hc
  · rename_i hkind
    obtain hc | hc := List.mem_append.mp hc
    · exact taken_of_one h (slot_mem hkind rfl) hc
    · exact taken_of_one h (slot_mem hkind rfl) (mem_child_of_computed hc)
  · rename_i hkind
    obtain hc | hc := List.mem_append.mp hc
    · exact taken_of_one h (slot_mem hkind rfl) (mem_child_of_computed hc)
    · exact taken_of_optional h (slot_mem hkind rfl) hc
  · rename_i hkind
    exact taken_of_one h (slot_mem hkind rfl) hc
  · rename_i hkind
    exact taken_of_optional h (slot_mem hkind rfl) hc
  · rename_i hkind
    split at hc
    · cases hc
    · exact taken_of_one h (slot_mem hkind rfl) hc
  · split at hc
    · cases hc
    · exact .inl hc

end Taken

theorem taken_of_takenKids (h : Fits p.node) {c : Child} (hc : c ∈ takenKids p) :
    c ∈ children p.node ∨ c.2 = .null := by
  unfold takenKids at hc
  split at hc
  · rename_i hkind
    obtain hc | hc := List.mem_append.mp hc
    · exact taken_of_optional h (slot_mem hkind rfl) hc
    · exact taken_of_visitedChildren h hc
  · rename_i hkind
    have hvalue : ("value", Slot.one targetKinds) ∈ slotsOf p.node.kind :=
      slot_mem hkind rfl
    split at hc
    · exact taken_of_one h hvalue hc
    · obtain hc | hc := List.mem_append.mp hc
      · exact taken_of_one h (slot_mem hkind rfl) (mem_child_of_computed hc)
      · exact taken_of_one h hvalue hc
  · rename_i hkind
    obtain hc | hc := List.mem_append.mp hc
    · exact taken_of_one h (slot_mem hkind rfl) hc
    · exact taken_of_many h (slot_mem hkind rfl) (List.mem_of_mem_drop hc)
  · rename_i hkind
    split at hc
    · obtain hc | hc := List.mem_append.mp hc
      · exact taken_of_one h (slot_mem hkind rfl) hc
      · exact taken_of_one h (slot_mem hkind rfl) hc
    · exact .inl hc
  · exact taken_of_visitedChildren h hc

/-- Visiting goes on to children. -/
theorem mem_children_of_visitedKids (h : Fits p.node) {c : Child} (hc : c ∈ visitedKids p) :
    c ∈ children p.node := by
  obtain ⟨htaken, hnode⟩ := List.mem_filter.mp hc
  refine (taken_of_takenKids h htaken).resolve_right fun hnull => ?_
  exact ne_null_of_isNode hnode hnull

/-! ## Visiting is going to places and acting there -/

/-- A place at which a name or a literal is treated as such. -/
structure Plain (v : View) (p : Place) : Prop where
  name : p.isShorthandName = false
  lookup : p.lookup? v = none

/-- A node that opens a scope was given the chain in which the scope stands. -/
def Scoped (b : Bindings) (p : Place) : Prop :=
  isScopeKind p.node.kind = true → b.chain? p.path = some (b.insideOf p)

theorem Plain.isShorthandValue (h : Plain v p) : p.isShorthandValue = false :=
  (Bool.or_eq_false_iff.mp h.name).1

theorem plain_inside (h : Plain v p) {c : Child}
    (hshorthand : Outer.isShorthand ⟨p.path, p.node, c.1⟩ = false)
    (hcall : p.node.kind ≠ "CallExpression") : Plain v (p.inside c) where
  name := by
    have hvalue : p.outer.head?.any Outer.isShorthand = false := h.isShorthandValue
    simp [Place.isShorthandName, Place.isShorthandValue, Place.inside, hshorthand, hvalue]
  lookup := by
    simp [Place.lookup?, Place.inside, Tree.isKind, hcall]

/-- Visiting with so many levels does what is done at the places. -/
def VisitsWithin (v : View) (fuel : Nat) : Prop :=
  ∀ {levels : Nat} {p : Place}, p.node.depth ≤ fuel → p.node.depth ≤ levels → WellFormed p.node →
    Plain v p → (∀ q ∈ placesFrom visitedKids levels p, Scoped v.bindings q) →
    visit v fuel (v.bindings.standing p.outer) p.path p.node = actsFrom v levels p

/-- A node seen by visiting, with the levels that are left for its children. -/
structure Visited (v : View) (fuel levels : Nat) (p : Place) : Prop where
  within : VisitsWithin v fuel
  withinFuel : p.node.depth ≤ fuel + 1
  withinLevels : p.node.depth ≤ levels + 1
  wellFormed : WellFormed p.node
  chains : ∀ q ∈ placesFrom visitedKids (levels + 1) p, Scoped v.bindings q

namespace Visited

variable {levels : Nat} (h : Visited v fuel levels p)
include h

/-- What is done in a child. -/
theorem visit_child {c : Child} (hc : c ∈ visitedKids p) (hplain : Plain v (p.inside c)) :
    visit v fuel (v.bindings.standing (p.inside c).outer) (c.1 :: p.path) c.2
      = actsFrom v levels (p.inside c) := by
  have hchild := mem_children_of_visitedKids h.wellFormed.fits hc
  have hlt := depth_lt_of_mem_children hchild
  have hwithin : VisitsWithin v fuel := h.within
  refine hwithin (p := p.inside c) ?_ ?_ (h.wellFormed.inside hchild) hplain fun q hq => ?_
  · exact Nat.le_of_lt_succ (Nat.lt_of_lt_of_le hlt h.withinFuel)
  · exact Nat.le_of_lt_succ (Nat.lt_of_lt_of_le hlt h.withinLevels)
  · exact h.chains q (mem_placesFrom_succ.mpr (.inr ⟨c, hc, hq⟩))

/-- What is done in children. -/
theorem visitEach_eq {chain : Chain} {cs : List Child} (hcs : ∀ c ∈ cs, c ∈ takenKids p)
    (hplain : ∀ c ∈ cs, Plain v (p.inside c))
    (hchain : ∀ c ∈ cs, v.bindings.standing (p.inside c).outer = chain) :
    visitEach (visit v fuel) chain p.path cs = actsEach v levels p (nodesOf cs) := by
  induction cs with
  | nil => exact actsEach_nil.symm
  | cons c cs ih =>
    have hrest := ih (fun d hd => hcs d (List.mem_cons_of_mem _ hd))
      (fun d hd => hplain d (List.mem_cons_of_mem _ hd))
      (fun d hd => hchain d (List.mem_cons_of_mem _ hd))
    have hcons : visitEach (visit v fuel) chain p.path (c :: cs) = do
        let first ← visit v fuel chain (c.1 :: p.path) c.2
        let others ← visitEach (visit v fuel) chain p.path cs
        return first ++ others := by
      simp only [visitEach, List.mapM_cons, bind_assoc, pure_bind, List.flatten_cons]
    have htaken := hcs c List.mem_cons_self
    rw [hcons, hrest]
    by_cases hnode : c.2.isNode = true
    · have hkid : c ∈ visitedKids p := List.mem_filter.mpr ⟨htaken, hnode⟩
      have hfirst := h.visit_child hkid (hplain c List.mem_cons_self)
      rw [hchain c List.mem_cons_self] at hfirst
      rw [nodesOf_cons_of_node hnode, actsEach_cons, hfirst]
    · have hnull : c.2 = .null :=
        (taken_of_takenKids h.wellFormed.fits htaken).resolve_left fun hchild =>
          hnode (h.wellFormed.inside hchild).fits.isNode
      have hfirst : visit v fuel chain (c.1 :: p.path) .null = pure [] := by
        cases fuel <;> rfl
      rw [nodesOf_cons_of_not hnode, hnull, hfirst]
      simp only [pure_bind, List.nil_append, bind_pure]

end Visited

/-- The name of a function that is declared is not among what is visited in the scope of the function. -/
theorem namesFunction_of_visitedChildren {c : Child} (hc : c ∈ visitedChildren p.node) :
    Outer.namesFunction ⟨p.path, p.node, c.1⟩ = false := by
  cases hfunction : p.node.isKind "FunctionDeclaration" with
  | false => rw [Outer.namesFunction, hfunction, Bool.false_and]
  | true =>
    have hstep : Text.eqString c.1.1 "id" = false := by
      simp only [visitedChildren, beq_iff_eq.mp hfunction] at hc
      obtain hc | hc := List.mem_append.mp hc
      · rw [(mem_listed.mp hc).1]
        decide
      · rw [(mem_child.mp hc).1]
        decide
    rw [Outer.namesFunction, hstep, Bool.and_false]

/-- What is done at a place that is neither a name nor a literal. -/
theorem actAt_of_other (hname : p.node.kind ≠ "Identifier") (hliteral : p.node.kind ≠ "Literal") :
    actAt v p = pure [] := by
  unfold actAt
  split <;> first | contradiction | rfl

/-- A place where nothing is done itself, but in its children. -/
theorem actsFrom_succ_of_other {levels : Nat} (hname : p.node.kind ≠ "Identifier")
    (hliteral : p.node.kind ≠ "Literal") :
    actsFrom v (levels + 1) p = actsEach v levels p (visitedKids p) := by
  rw [actsFrom_succ, actAt_of_other hname hliteral]
  simp only [pure_bind, List.nil_append, bind_pure]

/-- Nothing stands inside a name or a literal. -/
theorem actsFrom_succ_of_leaf {levels : Nat} (h : Fits p.node)
    (hkind : p.node.kind = "Identifier" ∨ p.node.kind = "Literal") :
    actsFrom v (levels + 1) p = actAt v p := by
  have hkids : visitedKids p = [] := by
    refine List.eq_nil_iff_forall_not_mem.mpr fun c hc => ?_
    have hchild := mem_children_of_visitedKids h hc
    rw [h.children_eq_nil (by obtain hkind | hkind := hkind <;> rw [hkind] <;> rfl)] at hchild
    cases hchild
  rw [actsFrom_succ, hkids, actsEach_nil]
  simp only [pure_bind, List.append_nil, bind_pure]

/-- The name of a property whose key is its value too. -/
theorem actAt_shorthand (hkind : p.node.kind = "Identifier") (hname : p.isShorthandName = true) :
    actAt v p = visitShorthand v (v.bindings.standing p.outer) p.node := by
  simp only [actAt, hkind, hname, if_true]

theorem actAt_name (hkind : p.node.kind = "Identifier") (hname : p.isShorthandName = false) :
    actAt v p = visitName v (v.bindings.standing p.outer) p.node := by
  simp only [actAt, hkind, hname, Bool.false_eq_true, if_false]

theorem actAt_literal (hkind : p.node.kind = "Literal") :
    actAt v p = (p.lookup? v).getD (visitString v p.node) := by
  simp only [actAt, hkind]

/-- A child that has been come to, with one level less. -/
theorem Visited.inside {levels : Nat} (h : Visited v fuel levels p) {c : Child}
    (hc : c ∈ visitedKids p) : ∃ fewer, levels = fewer + 1 ∧ Visited v fuel fewer (p.inside c) := by
  have hchild := mem_children_of_visitedKids h.wellFormed.fits hc
  have hlt := depth_lt_of_mem_children hchild
  have hfuel := h.withinFuel
  have hlevels := h.withinLevels
  have hpos := depth_pos c.2
  obtain ⟨fewer, rfl⟩ : ∃ fewer, levels = fewer + 1 := ⟨levels - 1, by omega⟩
  refine ⟨fewer, rfl, h.within, ?_, ?_, h.wellFormed.inside hchild, fun q hq => ?_⟩
  · exact Nat.le_trans (Nat.le_of_lt hlt) hfuel
  · exact Nat.le_of_lt_succ (Nat.lt_of_lt_of_le hlt hlevels)
  · exact h.chains q (mem_placesFrom_succ.mpr (.inr ⟨c, hc, hq⟩))

namespace Visited

variable {levels : Nat} (h : Visited v fuel levels p) (hplain : Plain v p)
include h hplain

/-- A node without a rule of its own. -/
theorem visitEach_visitedChildren
    (hkind : p.node.kind ∉ ["Identifier", "Literal", "Property", "CallExpression",
      "FunctionDeclaration"]) :
    visitEach (visit v fuel) (v.bindings.insideOf p) p.path (visitedChildren p.node)
      = actsFrom v (levels + 1) p := by
  simp only [List.mem_cons, List.not_mem_nil, or_false, not_or] at hkind
  obtain ⟨hname, hliteral, hproperty, hcall, hfunction⟩ := hkind
  have hkids : takenKids p = visitedChildren p.node := by
    unfold takenKids
    split
    · contradiction
    · contradiction
    · contradiction
    · rename_i hassignment
      rw [hplain.isShorthandValue, visitedChildren, hassignment]
      rfl
    · rfl
  rw [actsFrom_succ_of_other hname hliteral, visitedKids, hkids]
  refine h.visitEach_eq (fun c hc => hkids ▸ hc) (fun c _ => ?_) (fun c _ => ?_)
  · exact plain_inside hplain (by simp [Outer.isShorthand, Tree.isKind, hproperty]) hcall
  · exact standing_inside _ _ (by simp [Outer.namesFunction, Tree.isKind, hfunction])

/-- The declaration of a function: its name outside its scope, the rest inside. -/
theorem visit_functionDeclaration (hkind : p.node.kind = "FunctionDeclaration") :
    (do
        let name ← visitEach (visit v fuel) (v.bindings.standing p.outer) p.path (child p.node "id")
        let inside ← visitEach (visit v fuel) (v.bindings.insideOf p) p.path (visitedChildren p.node)
        return name ++ inside)
      = actsFrom v (levels + 1) p := by
  have hkids : takenKids p = child p.node "id" ++ visitedChildren p.node := by
    simp only [takenKids, hkind]
  have hinside : ∀ c : Child, Plain v (p.inside c) := fun c =>
    plain_inside hplain (by simp [Outer.isShorthand, Tree.isKind, hkind]) (by simp [hkind])
  have hname : visitEach (visit v fuel) (v.bindings.standing p.outer) p.path (child p.node "id")
      = actsEach v levels p (nodesOf (child p.node "id")) := by
    refine h.visitEach_eq (fun c hc => hkids ▸ List.mem_append_left _ hc) (fun c _ => hinside c) ?_
    intro c hc
    have hnames : Outer.namesFunction ⟨p.path, p.node, c.1⟩ = true := by
      rw [(mem_child.mp hc).1, Outer.namesFunction, Tree.isKind, hkind]
      rfl
    simp [Place.inside, Bindings.standing, hnames]
  have hrest : visitEach (visit v fuel) (v.bindings.insideOf p) p.path (visitedChildren p.node)
      = actsEach v levels p (nodesOf (visitedChildren p.node)) := by
    refine h.visitEach_eq (fun c hc => hkids ▸ List.mem_append_right _ hc) (fun c _ => hinside c) ?_
    intro c hc
    exact standing_inside _ _ (namesFunction_of_visitedChildren hc)
  rw [hname, hrest, actsFrom_succ_of_other (by simp [hkind]) (by simp [hkind]), visitedKids, hkids,
    nodesOf_append, actsEach_append]

/-- A property whose key and value are written apart. -/
theorem visit_property (hkind : p.node.kind = "Property")
    (hapart : (part? p.node "shorthand").isSome = false) :
    visitEach (visit v fuel) (v.bindings.insideOf p) p.path
        (computedChild p.node "key" ++ child p.node "value")
      = actsFrom v (levels + 1) p := by
  have hkids : takenKids p = computedChild p.node "key" ++ child p.node "value" := by
    simp only [takenKids, hkind, hapart, Bool.false_eq_true, if_false]
  rw [actsFrom_succ_of_other (by simp [hkind]) (by simp [hkind]), visitedKids, hkids]
  refine h.visitEach_eq (fun c hc => hkids ▸ hc) (fun c _ => ?_) (fun c _ => ?_)
  · exact plain_inside hplain (by simp [Outer.isShorthand, hapart]) (by simp [hkind])
  · exact standing_inside _ _ (by simp [Outer.namesFunction, Tree.isKind, hkind])

omit hplain in
/-- The value of a property whose key it is too, with what stands for it when it is missing. -/
theorem visit_shorthandDefault (hkind : p.node.kind = "AssignmentPattern")
    (hvalue : p.isShorthandValue = true)
    (hleft : (p.node.get? "left").any (Tree.isKind · "Identifier") = true) :
    (do
        let name ← visitShorthand v (v.bindings.standing p.outer) ((p.node.get? "left").getD .null)
        let default ← visitEach (visit v fuel) (v.bindings.standing p.outer) p.path
          (child p.node "right")
        return name ++ default)
      = actsFrom v (levels + 1) p := by
  obtain ⟨left, hget, -, hwell⟩ := h.wellFormed.one "left" (slot_mem hkind rfl)
  rw [hget] at hleft
  have hname : Tree.kind left = "Identifier" := beq_iff_eq.mp hleft
  have hkids : takenKids p = child p.node "left" ++ child p.node "right" := by
    simp only [takenKids, hkind, hvalue, if_true]
  have hinside : v.bindings.insideOf p = v.bindings.standing p.outer := by
    simp [Bindings.insideOf, Bindings.opened, hkind, isScopeKind, functionKinds, blockKinds]
  have hstanding : ∀ c : Child, v.bindings.standing (p.inside c).outer
      = v.bindings.standing p.outer := fun c => by
    rw [standing_inside _ _ (by simp [Outer.namesFunction, Tree.isKind, hkind]), hinside]
  have hleftNodes : nodesOf (child p.node "left") = [((Text.ofString "left", 0), left)] := by
    rw [child, hget]
    exact nodesOf_cons_of_node hwell.fits.isNode []
  have hmem : ((Text.ofString "left", 0), left) ∈ visitedKids p := by
    rw [visitedKids, hkids, nodesOf_append, hleftNodes]
    exact List.mem_cons_self
  obtain ⟨fewer, rfl, -⟩ := h.inside hmem
  have hfirst : actsEach v (fewer + 1) p (nodesOf (child p.node "left"))
      = visitShorthand v (v.bindings.standing p.outer) left := by
    have hisName : (p.inside ((Text.ofString "left", 0), left)).isShorthandName = true := by
      have hvalue' : p.outer.head?.any Outer.isShorthand = true := hvalue
      simp [Place.isShorthandName, Place.inside, Tree.isKind, hkind, hvalue', Text.eqString]
    rw [hleftNodes, actsEach_cons, actsEach_nil]
    simp only [pure_bind, List.append_nil, bind_pure]
    rw [actsFrom_succ_of_leaf (p := p.inside ((Text.ofString "left", 0), left)) hwell.fits (.inl hname),
      actAt_shorthand hname hisName, hstanding]
    rfl
  have hrest : visitEach (visit v fuel) (v.bindings.standing p.outer) p.path (child p.node "right")
      = actsEach v (fewer + 1) p (nodesOf (child p.node "right")) := by
    refine h.visitEach_eq (fun c hc => hkids ▸ List.mem_append_right _ hc) (fun c hc => ?_)
      (fun c _ => hstanding c)
    have hstep : Text.eqString c.1.1 "left" = false := by
      rw [(mem_child.mp hc).1]
      decide
    exact {
      name := by
        simp [Place.isShorthandName, Place.isShorthandValue, Place.inside, Outer.isShorthand,
          Tree.isKind, hkind, hstep]
      lookup := by simp [Place.lookup?, Place.inside, Tree.isKind, hkind] }
  rw [actsFrom_succ_of_other (by simp [hkind]) (by simp [hkind]), visitedKids, hkids,
    nodesOf_append, actsEach_append, hfirst, ← hrest, hget, Option.getD_some]

omit hplain in
/-- A property whose key is its value too. -/
theorem visit_shorthand (hkind : p.node.kind = "Property")
    (hshorthand : (part? p.node "shorthand").isSome = true) :
    visitShorthandValue v (visit v fuel) (v.bindings.insideOf p) p.path
        ((part? p.node "value").getD (.object []))
      = actsFrom v (levels + 1) p := by
  obtain ⟨value, hvalue, -, hwell⟩ := h.wellFormed.one "value" (slot_mem hkind rfl)
  have hform := (h.wellFormed.fits.shorthand hkind hshorthand).2
  have hpart : part? p.node "value" = some value := by
    rw [part?, hvalue]
    simp [hwell.fits.isTruthy]
  have hkids : visitedKids p = [((Text.ofString "value", 0), value)] := by
    simp only [visitedKids, takenKids, hkind, hshorthand, if_true, child, hvalue]
    exact nodesOf_cons_of_node hwell.fits.isNode []
  have hmem : ((Text.ofString "value", 0), value) ∈ visitedKids p := by
    rw [hkids]
    exact List.mem_singleton.mpr rfl
  obtain ⟨fewer, rfl, hinside⟩ := h.inside hmem
  have hstanding : v.bindings.standing (p.inside ((Text.ofString "value", 0), value)).outer
      = v.bindings.insideOf p :=
    standing_inside _ _ (by simp [Outer.namesFunction, Tree.isKind, hkind])
  have hisValue : (p.inside ((Text.ofString "value", 0), value)).isShorthandValue = true := by
    simp [Place.isShorthandValue, Place.inside, Outer.isShorthand, Tree.isKind, hkind, hshorthand,
      Text.eqString]
  rw [hpart, actsFrom_succ_of_other (by simp [hkind]) (by simp [hkind]), hkids, actsEach_cons,
    actsEach_nil, Option.getD_some, ← hstanding]
  simp only [pure_bind, List.append_nil, bind_pure]
  rw [hvalue] at hform
  unfold visitShorthandValue
  obtain hname | hdefault := Bool.or_eq_true_iff.mp (show isShorthandValue value = true from hform)
  · have hvalueKind : Tree.kind value = "Identifier" := beq_iff_eq.mp hname
    rw [if_neg (by rw [Tree.isKind, hvalueKind]; decide),
      actsFrom_succ_of_leaf (p := p.inside ((Text.ofString "value", 0), value)) hwell.fits
        (.inl hvalueKind),
      actAt_shorthand hvalueKind (Bool.or_eq_true_iff.mpr (.inl hisValue))]
    rfl
  · obtain ⟨hpattern, hleft⟩ := Bool.and_eq_true_iff.mp hdefault
    rw [if_pos hpattern]
    exact hinside.visit_shorthandDefault (beq_iff_eq.mp hpattern) hisValue hleft

end Visited

/-! ### Calls -/

theorem length_listed (t : Tree) (field : String) :
    (listed t field).length = (t.items field).length := by
  simp [listed]

theorem kind_of_string {t : Tree} {value : Text} (h : stringValue? t = some value) :
    t.kind = "Literal" := by
  unfold stringValue? at h
  split at h
  · rename_i hliteral
    exact beq_iff_eq.mp (Bool.and_eq_true_iff.mp hliteral).1
  · cases h

/-- A string that is looked up is a literal. -/
theorem kind_of_lookupArgument? {callee argument : Tree} {marks : Rewriting (List Mark)}
    (h : lookupArgument? v callee argument = some marks) : argument.kind = "Literal" := by
  unfold lookupArgument? at h
  split at h
  · rename_i hvalue _
    exact kind_of_string hvalue
  · cases h

/-- What is looked up at an argument of a call. -/
theorem lookup?_argument (hkind : p.node.kind = "CallExpression") {c : Child}
    (hc : c ∈ listed p.node "arguments") :
    (p.inside c).lookup? v =
      if (p.node.items "arguments").length == 1 && !loadsModule (calleeOf p.node) then
        lookupArgument? v (calleeOf p.node) c.2
      else none := by
  have hstep : Text.eqString c.1.1 "arguments" = true := by
    rw [(mem_listed.mp hc).1]
    decide
  simp [Place.lookup?, Place.inside, Tree.isKind, hkind, hstep]

/-- No name of a call is the key of a property. -/
theorem isShorthandName_of_call (hkind : p.node.kind = "CallExpression") (c : Child) :
    (p.inside c).isShorthandName = false := by
  simp [Place.isShorthandName, Place.isShorthandValue, Place.inside, Outer.isShorthand,
    Tree.isKind, hkind]

namespace Visited

variable {levels : Nat} (h : Visited v fuel levels p) (hkind : p.node.kind = "CallExpression")
include h hkind

/-- Arguments that are visited as they are. -/
theorem visitEach_arguments {cs : List Child}
    (hcs : ∀ c ∈ cs, c ∈ takenKids p ∧ c ∈ listed p.node "arguments")
    (hlookup : ∀ c ∈ cs, (p.inside c).lookup? v = none) :
    visitEach (visit v fuel) (v.bindings.insideOf p) p.path cs
      = actsEach v levels p (nodesOf cs) := by
  refine h.visitEach_eq (fun c hc => (hcs c hc).1) (fun c hc => ?_) (fun c _ => ?_)
  · exact ⟨isShorthandName_of_call hkind c, hlookup c hc⟩
  · exact standing_inside _ _ (by simp [Outer.namesFunction, Tree.isKind, hkind])

/-- The arguments of a call. -/
theorem visitArguments_eq :
    visitArguments v (visit v fuel) (v.bindings.insideOf p) p.path (calleeOf p.node)
        (listed p.node "arguments")
      = actsEach v levels p (nodesOf ((listed p.node "arguments").drop
          (if loadsModule (calleeOf p.node) then 1 else 0))) := by
  have hkids : takenKids p = child p.node "callee" ++ (listed p.node "arguments").drop
      (if loadsModule (calleeOf p.node) then 1 else 0) := by
    simp only [takenKids, hkind]
  unfold visitArguments
  by_cases hloads : loadsModule (calleeOf p.node) = true
  · rw [if_pos hloads, if_pos hloads]
    rw [if_pos hloads] at hkids
    refine h.visitEach_arguments hkind (fun c hc => ⟨?_, List.mem_of_mem_drop hc⟩) fun c hc => ?_
    · rw [hkids]
      exact List.mem_append_right _ hc
    · rw [lookup?_argument hkind (List.mem_of_mem_drop hc), hloads]
      simp
  · rw [if_neg hloads, if_neg hloads, List.drop_zero]
    rw [if_neg hloads, List.drop_zero] at hkids
    have hall : ∀ c ∈ listed p.node "arguments",
        c ∈ takenKids p ∧ c ∈ listed p.node "arguments" := fun c hc =>
      ⟨hkids ▸ List.mem_append_right _ hc, hc⟩
    split
    · rename_i argument hone
      have hmem : argument ∈ listed p.node "arguments" := by
        rw [hone]
        exact List.mem_singleton.mpr rfl
      have hlookup : (p.inside argument).lookup? v
          = lookupArgument? v (calleeOf p.node) argument.2 := by
        have hlength : (p.node.items "arguments").length = 1 := by
          rw [← length_listed, hone]
          rfl
        rw [lookup?_argument hkind hmem, hlength]
        simp [hloads]
      split
      · rename_i marks hmarks
        have hwell := (h.wellFormed.fits.of_listed_many (slot_mem hkind rfl) hmem).2
        have hfits := (h.wellFormed.inside hwell).fits
        have hkid : argument ∈ visitedKids p :=
          List.mem_filter.mpr ⟨(hall argument hmem).1, hfits.isNode⟩
        obtain ⟨fewer, rfl, -⟩ := h.inside hkid
        have hliteral := kind_of_lookupArgument? hmarks
        rw [hone, nodesOf_cons_of_node hfits.isNode, nodesOf, List.filter_nil, actsEach_cons,
          actsEach_nil]
        simp only [pure_bind, List.append_nil, bind_pure]
        rw [actsFrom_succ_of_leaf (p := p.inside argument) hfits (.inr hliteral),
          actAt_literal (p := p.inside argument) hliteral, hlookup, hmarks, Option.getD_some]
      · rename_i hnone
        refine h.visitEach_arguments hkind hall fun c hc => ?_
        rw [hone] at hc
        rw [List.mem_singleton.mp hc, hlookup, hnone]
    · rename_i hmany
      refine h.visitEach_arguments hkind hall fun c hc => ?_
      rw [lookup?_argument hkind hc, if_neg]
      intro hlength
      have hlength' := beq_iff_eq.mp (Bool.and_eq_true_iff.mp hlength).1
      rw [← length_listed] at hlength'
      obtain ⟨argument, hargument⟩ := List.length_eq_one_iff.mp hlength'
      exact hmany argument hargument

/-- A call: the callee, and then the arguments. -/
theorem visit_call :
    (do
        let callee ← visitEach (visit v fuel) (v.bindings.insideOf p) p.path (child p.node "callee")
        let arguments ← visitArguments v (visit v fuel) (v.bindings.insideOf p) p.path
          ((part? p.node "callee").getD (.object [])) (listed p.node "arguments")
        return callee ++ arguments)
      = actsFrom v (levels + 1) p := by
  have hkids : takenKids p = child p.node "callee" ++ (listed p.node "arguments").drop
      (if loadsModule (calleeOf p.node) then 1 else 0) := by
    simp only [takenKids, hkind]
  have hcallee : visitEach (visit v fuel) (v.bindings.insideOf p) p.path (child p.node "callee")
      = actsEach v levels p (nodesOf (child p.node "callee")) := by
    refine h.visitEach_eq (fun c hc => hkids ▸ List.mem_append_left _ hc) (fun c hc => ?_)
      (fun c _ => ?_)
    · have hstep : Text.eqString c.1.1 "arguments" = false := by
        rw [(mem_child.mp hc).1]
        decide
      exact ⟨isShorthandName_of_call hkind c, by simp [Place.lookup?, Place.inside, hstep]⟩
    · exact standing_inside _ _ (by simp [Outer.namesFunction, Tree.isKind, hkind])
  rw [hcallee, show (part? p.node "callee").getD (.object []) = calleeOf p.node from rfl,
    h.visitArguments_eq hkind, actsFrom_succ_of_other (by simp [hkind]) (by simp [hkind]),
    visitedKids, hkids, nodesOf_append, actsEach_append]

end Visited

/-! ### The whole -/

/-- Inside a node, in the chain that it opens, visiting does what is done at its places. -/
theorem Visited.visitInside_eq {levels : Nat} (h : Visited v fuel levels p) (hplain : Plain v p)
    (hfunction : p.node.kind ≠ "FunctionDeclaration") :
    visitInside v (visit v fuel) (v.bindings.insideOf p) p.path p.node
      = actsFrom v (levels + 1) p := by
  unfold visitInside
  split
  · rename_i hkind
    rw [actsFrom_succ_of_leaf h.wellFormed.fits (.inl hkind), actAt_name hkind hplain.name,
      insideOf_of_not_scope (by rw [hkind]; decide)]
  · rename_i hkind
    rw [actsFrom_succ_of_leaf h.wellFormed.fits (.inr hkind), actAt_literal hkind, hplain.lookup]
    rfl
  · rename_i hkind
    split
    · rename_i hshorthand
      exact h.visit_shorthand hkind hshorthand
    · rename_i hapart
      exact h.visit_property hplain hkind (Bool.eq_false_iff.mpr hapart)
  · rename_i hkind
    exact h.visit_call hkind
  · rename_i hname hliteral hproperty hcall
    refine h.visitEach_visitedChildren hplain ?_
    simp only [List.mem_cons, List.not_mem_nil, or_false, not_or]
    exact ⟨hname, hliteral, hproperty, hcall, hfunction⟩

/-- Visiting a well-formed tree is going to its places and doing at each what is done there. -/
theorem visit_eq_actsFrom (v : View) (fuel : Nat) : VisitsWithin v fuel := by
  induction fuel with
  | zero =>
    intro levels p hdepth
    exact absurd (depth_pos p.node) (by omega)
  | succ fuel ih =>
    intro levels p hfuel hlevels hwell hplain hchains
    obtain ⟨fewer, rfl⟩ : ∃ fewer, levels = fewer + 1 := by
      have hpos := depth_pos p.node
      exact ⟨levels - 1, by omega⟩
    have h : Visited v fuel fewer p := ⟨ih, hfuel, hlevels, hwell, hchains⟩
    have hhere : Scoped v.bindings p := hchains p (mem_placesFrom_succ.mpr (.inl rfl))
    rw [visit, hwell.fits.isTruthy]
    simp only [Bool.not_true, Bool.false_eq_true, if_false]
    by_cases hscope : isScopeKind p.node.kind = true
    · rw [if_pos hscope, hhere hscope]
      by_cases hfunction : p.node.kind = "FunctionDeclaration"
      · have hinside : visitInside v (visit v fuel) (v.bindings.insideOf p) p.path p.node
            = visitEach (visit v fuel) (v.bindings.insideOf p) p.path (visitedChildren p.node) := by
          simp only [visitInside, hfunction]
          rfl
        simp only [Tree.isKind, hfunction, beq_self_eq_true, if_true, hinside]
        exact h.visit_functionDeclaration hplain hfunction
      · simp only [Tree.isKind, beq_iff_eq, hfunction, if_false]
        exact h.visitInside_eq hplain hfunction
    · rw [if_neg hscope, ← insideOf_of_not_scope hscope]
      refine h.visitInside_eq hplain fun hfunction => ?_
      rw [hfunction] at hscope
      exact hscope isScopeKind_functionDeclaration

/-! ## Whole scripts -/

/-- Visiting goes on to no child that gathering leaves out. -/
theorem mem_gatheredKids_of_visitedKids (h : Fits p.node) {c : Child} (hc : c ∈ visitedKids p) :
    c ∈ gatheredKids p := by
  have htaken := (List.mem_filter.mp hc).1
  unfold gatheredKids gatheredChildren
  split
  · rename_i hkind
    simp [takenKids, visitedChildren, hkind, untouchedKinds] at htaken
  · rename_i hkind
    simp only [takenKids, visitedChildren, hkind] at htaken
    exact htaken
  · exact mem_children_of_visitedKids h hc

/-- Only the root of a well-formed tree is a program. -/
theorem outer_eq_nil_of_program {kids : Place → List Child}
    (hkids : ∀ r : Place, Fits r.node → ∀ c ∈ kids r, c ∈ children r.node) {levels : Nat} {q : Place}
    (hp : WellFormed p.node) (hroot : p.node.kind = "Program" → p.outer = [])
    (hq : q ∈ placesFrom kids levels p) (hkind : q.node.kind = "Program") : q.outer = [] := by
  induction levels generalizing p with
  | zero => cases hq
  | succ levels ih =>
    obtain rfl | ⟨c, hc, hq⟩ := mem_placesFrom_succ.mp hq
    · exact hroot hkind
    · have hchild := hkids p hp.fits c hc
      refine ih (hp.inside hchild) (fun hprogram => ?_) hq
      exact absurd hprogram (kind_ne_program hp.fits hchild)

theorem scoped_of_opened {isModule : Bool} {b : Bindings} {q : Place}
    (hroot : q.node.kind = "Program" → q.outer = [])
    (hopened : isScopeKind q.node.kind = true →
      ∃ id, b.chain? q.path = some (openScope isModule (b.standing q.outer) q.node.kind id)) :
    Scoped b q := by
  intro hscope
  obtain ⟨id, hchain⟩ := hopened hscope
  obtain ⟨frame, hopen, -⟩ := exists_openScope isModule id
    fun hkind => show b.standing q.outer = [] by rw [hroot hkind]; rfl
  rw [hchain, hopen, Bindings.insideOf, Bindings.opened, if_pos hscope, hchain, hopen]
  rfl

variable {t : Tree} {isModule : Bool}

theorem visitedKids_subset (r : Place) (h : Fits r.node) (c : Child) (hc : c ∈ visitedKids r) :
    c ∈ children r.node :=
  mem_children_of_visitedKids h hc

/-- Each place that visiting comes to, gathering has come to. -/
theorem mem_gatheredPlaces_of_visited (h : WellFormed t) {q : Place} (hq : q ∈ visitedPlaces t) :
    q ∈ gatheredPlaces t := by
  refine placesFrom_subset (fun r hr c hc => ?_) hq
  exact mem_gatheredKids_of_visitedKids (wellFormed_of_mem visitedKids_subset h hr).fits hc

/-- Each node of a script to which visiting comes was given the scope that it opens. -/
theorem scoped_of_visited {b : Bindings} (h : IsProgram t) (hb : Describes isModule t b) {q : Place}
    (hq : q ∈ visitedPlaces t) : Scoped b q := by
  refine scoped_of_opened (fun hkind => ?_) (hb.opened q (mem_gatheredPlaces_of_visited h.wellFormed hq))
  exact outer_eq_nil_of_program visitedKids_subset h.wellFormed (fun _ => rfl) hq hkind

/-- Visiting a script is going to its places and doing at each what is done there. -/
theorem visit_program (h : IsProgram t) (hb : Describes isModule t v.bindings) :
    visit v t.depth [] [] t = List.flatten <$> (visitedPlaces t).mapM (actAt v) := by
  have hplain : Plain v (.root t) := ⟨rfl, rfl⟩
  refine visit_eq_actsFrom v t.depth (p := .root t) (Nat.le_refl _) (Nat.le_refl _) h.wellFormed
    hplain fun q hq => ?_
  exact scoped_of_visited h hb hq

end VeiledGateway.Script
