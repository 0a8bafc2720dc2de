/-
  Places in a tree.

  A place is a node together with the nodes around it and the steps that lead from one to the next.
  `places` lists all of them, each before the ones inside it; `placesFrom` goes on only to the
  children that a traversal takes.  A place says whether a name at it refers to or binds something,
  and which scopes it stands in.
-/
import VeiledGateway.Proofs.Script.Syntax

set_option autoImplicit false

namespace VeiledGateway.Script

/-- A node around another: the way to it, and the step from it inwards. -/
structure Outer where
  path : Path
  node : Tree
  step : Text × Nat

/-- A node in a tree: the way to it, and the nodes around it, outwards. -/
structure Place where
  path : Path
  node : Tree
  outer : List Outer

namespace Place

/-- The place of a whole tree. -/
def root (t : Tree) : Place :=
  ⟨[], t, []⟩

/-- The place of a child. -/
def inside (p : Place) (c : Child) : Place :=
  ⟨c.1 :: p.path, c.2, ⟨p.path, p.node, c.1⟩ :: p.outer⟩

end Place

/-- The places that a traversal comes to from a place, so many levels deep. -/
def placesFrom (kids : Place → List Child) : Nat → Place → List Place
  | 0, _ => []
  | fuel + 1, p => p :: (kids p).flatMap fun c => placesFrom kids fuel (p.inside c)

/-- All children. -/
def allKids (p : Place) : List Child :=
  children p.node

/-- The places of a tree. -/
def places (t : Tree) : List Place :=
  placesFrom allKids t.depth (.root t)

/-! ## Depth -/

theorem depth_pos (t : Tree) : 0 < t.depth := by
  cases t <;> simp [Json.depth]

theorem depth_le_depthOfItems {items : List Tree} {item : Tree} (h : item ∈ items) :
    item.depth ≤ Json.depthOfItems items := by
  induction items with
  | nil => cases h
  | cons first rest ih =>
    rw [Json.depthOfItems]
    obtain rfl | htail := List.mem_cons.mp h
    · exact Nat.le_max_left _ _
    · exact Nat.le_trans (ih htail) (Nat.le_max_right _ _)

theorem depth_le_depthOfFields {fields : List (Text × Tree)} {field : Text × Tree}
    (h : field ∈ fields) : field.2.depth ≤ Json.depthOfFields fields := by
  induction fields with
  | nil => cases h
  | cons first rest ih =>
    rw [Json.depthOfFields]
    obtain rfl | htail := List.mem_cons.mp h
    · exact Nat.le_max_left _ _
    · exact Nat.le_trans (ih htail) (Nat.le_max_right _ _)

theorem depth_lt_of_mem_fields {t : Tree} {field : Text × Tree} (h : field ∈ t.fields) :
    field.2.depth < t.depth := by
  cases t with
  | object fields =>
    rw [Json.depth]
    exact Nat.lt_succ_of_le (depth_le_depthOfFields h)
  | _ => cases h

/-- Children are less deep than their parent. -/
theorem depth_lt_of_mem_children {t : Tree} {c : Child} (h : c ∈ children t) :
    c.2.depth < t.depth := by
  obtain ⟨-, -, value, hfield, hheld⟩ := mem_children.mp h
  have hvalue : value.depth < t.depth := depth_lt_of_mem_fields hfield
  obtain ⟨-, -, ⟨-, rfl⟩ | ⟨items, rfl, hitem⟩⟩ := mem_held.mp hheld
  · exact hvalue
  · have hle := depth_le_depthOfItems (List.mem_of_getElem? hitem)
    rw [Json.depth] at hvalue
    omega

/-! ## Coming to places -/

variable {kids : Place → List Child} {fuel : Nat} {p q : Place}

theorem mem_placesFrom_succ :
    q ∈ placesFrom kids (fuel + 1) p ↔
      q = p ∨ ∃ c ∈ kids p, q ∈ placesFrom kids fuel (p.inside c) := by
  rw [placesFrom, List.mem_cons, List.mem_flatMap]

/-- Where a traversal comes, one that takes more children comes too. -/
theorem placesFrom_subset {more : Place → List Child}
    (h : ∀ r ∈ placesFrom kids fuel p, ∀ c ∈ kids r, c ∈ more r)
    (hq : q ∈ placesFrom kids fuel p) : q ∈ placesFrom more fuel p := by
  induction fuel generalizing p with
  | zero => cases hq
  | succ fuel ih =>
    obtain rfl | ⟨c, hc, hq⟩ := mem_placesFrom_succ.mp hq
    · exact mem_placesFrom_succ.mpr (.inl rfl)
    · refine mem_placesFrom_succ.mpr (.inr ⟨c, ?_, ih (fun r hr => ?_) hq⟩)
      · exact h p (mem_placesFrom_succ.mpr (.inl rfl)) c hc
      · exact h r (mem_placesFrom_succ.mpr (.inr ⟨c, hc, hr⟩))

/-- What a place has is at the end of what all places inside it have, if that is so of the children. -/
theorem suffix_of_mem {α : Type} {f : Place → List α} (hf : ∀ p c, f p <:+ f (Place.inside p c))
    (h : q ∈ placesFrom kids fuel p) : f p <:+ f q := by
  induction fuel generalizing p with
  | zero => cases h
  | succ fuel ih =>
    obtain rfl | ⟨c, -, hq⟩ := mem_placesFrom_succ.mp h
    · exact List.suffix_refl _
    · exact (hf p c).trans (ih hq)

/-- What surrounds a place surrounds all places inside it. -/
theorem outer_suffix_of_mem (h : q ∈ placesFrom kids fuel p) : p.outer <:+ q.outer :=
  suffix_of_mem (fun _ _ => List.suffix_cons _ _) h

theorem mem_outer_of_mem_inside {c : Child} (h : q ∈ placesFrom kids fuel (p.inside c)) :
    ⟨p.path, p.node, c.1⟩ ∈ q.outer :=
  (outer_suffix_of_mem h).subset List.mem_cons_self

/-- The way to a place begins with the way to each place around it. -/
theorem path_suffix_of_mem (h : q ∈ placesFrom kids fuel p) : p.path <:+ q.path :=
  suffix_of_mem (fun _ _ => List.suffix_cons _ _) h

/-- A place is where the traversal began, or inside another place. -/
theorem parent_of_mem (h : q ∈ placesFrom kids fuel p) :
    q = p ∨ ∃ r ∈ placesFrom kids fuel p, ∃ c ∈ kids r, q = r.inside c := by
  induction fuel generalizing p with
  | zero => cases h
  | succ fuel ih =>
    obtain rfl | ⟨c, hc, hq⟩ := mem_placesFrom_succ.mp h
    · exact .inl rfl
    · right
      obtain rfl | ⟨r, hr, d, hd, rfl⟩ := ih hq
      · exact ⟨p, mem_placesFrom_succ.mpr (.inl rfl), c, hc, rfl⟩
      · exact ⟨r, mem_placesFrom_succ.mpr (.inr ⟨c, hc, hr⟩), d, hd, rfl⟩

/-- The nodes around a place that is come to are places that are come to. -/
theorem mem_placesFrom_of_outer {near far : List Outer} {o : Outer}
    (h : q ∈ placesFrom kids fuel p) (houter : q.outer = near ++ o :: far)
    (hfar : p.outer.length ≤ far.length) : ⟨o.path, o.node, far⟩ ∈ placesFrom kids fuel p := by
  induction fuel generalizing p with
  | zero => cases h
  | succ fuel ih =>
    obtain rfl | ⟨c, hc, hq⟩ := mem_placesFrom_succ.mp h
    · rw [houter, List.length_append, List.length_cons] at hfar
      omega
    · refine mem_placesFrom_succ.mpr ?_
      obtain hlt | heq := Nat.lt_or_eq_of_le hfar
      · exact .inr ⟨c, hc, ih hq hlt⟩
      · left
        have hsuffix : o :: far <:+ q.outer := ⟨near, houter.symm⟩
        have hsame := List.suffix_of_suffix_length_le hsuffix (outer_suffix_of_mem hq)
          (Nat.succ_le_succ (Nat.le_of_eq heq.symm))
        have hcons : o :: far = ⟨p.path, p.node, c.1⟩ :: p.outer :=
          hsame.eq_of_length (congrArg Nat.succ heq.symm)
        obtain ⟨rfl, rfl⟩ := List.cons.inj hcons
        rfl

/-- The nodes at all places of a well-formed tree are well formed. -/
theorem wellFormed_of_mem (hkids : ∀ r : Place, Fits r.node → ∀ c ∈ kids r, c ∈ children r.node)
    (hp : WellFormed p.node) (h : q ∈ placesFrom kids fuel p) : WellFormed q.node := by
  induction fuel generalizing p with
  | zero => cases h
  | succ fuel ih =>
    obtain rfl | ⟨c, hc, hq⟩ := mem_placesFrom_succ.mp h
    · exact hp
    · exact ih (hp.inside (hkids p hp.fits c hc)) hq

/-! ## Names at places -/

/-- A name there only names a property, a label or a name of another module. -/
def Outer.isMere (o : Outer) : Bool :=
  let calculated := (part? o.node "computed").isSome
  match o.node.kind with
  | "MemberExpression" => Text.eqString o.step.1 "property" && !calculated
  | "Property" => Text.eqString o.step.1 "key" && !calculated
  | "MethodDefinition" => Text.eqString o.step.1 "key" && !calculated
  | "LabeledStatement" => Text.eqString o.step.1 "label"
  | "BreakStatement" => true
  | "ContinueStatement" => true
  | "MetaProperty" => true
  | "ImportSpecifier" => Text.eqString o.step.1 "imported"
  | "ExportSpecifier" => Text.eqString o.step.1 "exported"
  | _ => false

/-- The names of an export come from another module. -/
def Outer.isForeign (o : Outer) : Bool :=
  o.node.isKind "ExportNamedDeclaration" && (part? o.node "source").isSome

/-- A name that refers to something or binds it. -/
def Place.isName (p : Place) : Bool :=
  p.node.isKind "Identifier" && !p.outer.head?.any Outer.isMere
    && !((p.outer.head?.any fun o => o.node.isKind "ExportSpecifier")
      && (p.outer[1]?).any Outer.isForeign)

/-! ## Scopes around places -/

/-- The scope that the node at a path opens, if it opens one. -/
def Bindings.opened (b : Bindings) (path : Path) (node : Tree) : List Frame :=
  if isScopeKind node.kind then ((b.chain? path).bind List.head?).toList else []

/-- The step leads to the name of a function that is declared, which stands outside its scope. -/
def Outer.namesFunction (o : Outer) : Bool :=
  o.node.isKind "FunctionDeclaration" && Text.eqString o.step.1 "id"

/-- The scopes of the nodes around a place, outwards. -/
def Bindings.standing (b : Bindings) (outer : List Outer) : Chain :=
  outer.flatMap fun o => if o.namesFunction then [] else b.opened o.path o.node

end VeiledGateway.Script
