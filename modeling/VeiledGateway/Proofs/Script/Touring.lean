/-
  The scopes that two passes see.

  Gathering and visiting go through a script one after the other, by rules of their own, and each of
  them has a current chain of scopes at every node to which it comes.  Where a pass comes is read off
  from the pass itself: it comes from one node to another when what it finds out about the first
  depends on what it finds out about the second.  So nothing is said here about the order or the rules
  of a pass beforehand.
-/
import VeiledGateway.Proofs.Script.Marking
import VeiledGateway.Proofs.Script.Resolving

set_option autoImplicit false

namespace VeiledGateway.Script

/-! ## Where a recursion comes -/

section Recursion

variable {α β γ : Type}

/-- The value of a function at a point counts for what is calculated from the function. -/
def Counts (calculate : (α → β) → γ) (f : α → β) (a : α) : Prop :=
  ∃ g : α → β, (∀ other, other ≠ a → g other = f other) ∧ calculate g ≠ calculate f

/-- What counts are the points by which the calculation is determined. -/
theorem Counts.mem {calculate : (α → β) → γ} {f : α → β} {a : α} (h : Counts calculate f a)
    (points : α → Prop) (hpoints : ∀ g, (∀ a, points a → g a = f a) → calculate g = calculate f) :
    points a := by
  obtain ⟨g, hsame, hne⟩ := h
  by_contra hnot
  exact hne (hpoints g fun other hother => hsame other fun heq => hnot (heq ▸ hother))

/-- Where a recursion comes that begins at a point with so many levels: `value` are the functions that it
calculates, and `step` calculates the next one from each. -/
inductive Comes (step : (α → β) → α → β) (value : Nat → α → β) (levels : Nat) (start : α) :
    Nat → α → Prop
  | start : Comes step value levels start levels start
  | onward {fuel : Nat} {a other : α} (h : Comes step value levels start (fuel + 1) a)
      (hcounts : Counts (fun f => step f a) (value fuel) other) :
      Comes step value levels start fuel other

end Recursion

/-- A node to which a pass comes, and the scopes that are current there. -/
structure Stop where
  chain : Chain
  path : Path
  node : Tree

/-! ## Visiting -/

/-- What visiting does at a node, from what it does at the nodes to which it goes on. -/
def visitStep (v : View) (f : Stop → Rewriting (List Mark)) (s : Stop) : Rewriting (List Mark) := do
  let visitor : Visitor := fun chain path t => f ⟨chain, path, t⟩
  if !s.node.isTruthy then return []
  match (if isScopeKind s.node.kind then v.bindings.chain? s.path else none) with
  | none => visitInside v visitor s.chain s.path s.node
  | some inner =>
    if s.node.isKind "FunctionDeclaration" then
      let name ← visitEach visitor s.chain s.path (child s.node "id")
      let inside ← visitInside v visitor inner s.path s.node
      return name ++ inside
    else visitInside v visitor inner s.path s.node

/-- Visiting with so many levels, at a stop. -/
def visitAt (v : View) (fuel : Nat) (s : Stop) : Rewriting (List Mark) :=
  visit v fuel s.chain s.path s.node

theorem visitAt_succ (v : View) (fuel : Nat) : visitAt v (fuel + 1) = visitStep v (visitAt v fuel) :=
  rfl

/-- Visiting a tree comes to a stop, with so many levels left. -/
def VisitsWith (v : View) (t : Tree) : Nat → Stop → Prop :=
  Comes (visitStep v) (visitAt v) t.depth ⟨[], [], t⟩

/-! ### Where visiting goes on -/

/-- The ways to children of the node at a path. -/
def waysTo (path : Path) (cs : List Child) : List (Path × Tree) :=
  cs.map fun c => (c.1 :: path, c.2)

/-- The arguments of a call to which visiting goes on. -/
def takenArguments (v : View) (callee : Tree) (arguments : List Child) : List Child :=
  if loadsModule callee then arguments.drop 1
  else
    match arguments with
    | [argument] => if (lookupArgument? v callee argument.2).isSome then [] else [argument]
    | _ => arguments

/-- The ways on from a node, once its scope has been entered, with the nodes to which they lead.  The value
of a property whose key it is too is no node to go to, but what stands for it when it is missing is. -/
def waysInside (v : View) (path : Path) (t : Tree) : List (Path × Tree) :=
  match t.kind with
  | "Identifier" => []
  | "Literal" => []
  | "Property" =>
    if (part? t "shorthand").isSome then
      if ((part? t "value").getD (.object [])).isKind "AssignmentPattern" then
        waysTo ((Text.ofString "value", 0) :: path) (child ((part? t "value").getD (.object [])) "right")
      else []
    else waysTo path (computedChild t "key" ++ child t "value")
  | "CallExpression" =>
    waysTo path (child t "callee" ++ takenArguments v (calleeOf t) (listed t "arguments"))
  | _ => waysTo path (visitedChildren t)

/-- The chain that is current inside a node. -/
def Bindings.within (b : Bindings) (s : Stop) : Chain :=
  if isScopeKind s.node.kind then (b.chain? s.path).getD s.chain else s.chain

variable {v : View} {f g : Visitor} {chain : Chain} {path : Path} {t : Tree}

theorem visitEach_congr {cs : List Child}
    (h : ∀ c ∈ cs, f chain (c.1 :: path) c.2 = g chain (c.1 :: path) c.2) :
    visitEach f chain path cs = visitEach g chain path cs := by
  have hmap : cs.mapM (fun c => f chain (c.1 :: path) c.2)
      = cs.mapM fun c => g chain (c.1 :: path) c.2 := by
    induction cs with
    | nil => rfl
    | cons c cs ih =>
      rw [List.mapM_cons, List.mapM_cons, h c List.mem_cons_self,
        ih fun d hd => h d (List.mem_cons_of_mem _ hd)]
  rw [visitEach, visitEach, hmap]

/-- To visit arguments is to visit those to which visiting goes on, or nothing depends on that. -/
theorem visitArguments_eq_visitEach_or (v : View) (chain : Chain) (path : Path) (callee : Tree)
    (arguments : List Child) :
    (∀ f : Visitor, visitArguments v f chain path callee arguments
      = visitEach f chain path (takenArguments v callee arguments)) ∨
    takenArguments v callee arguments = [] ∧
      ∀ f g : Visitor, visitArguments v f chain path callee arguments
        = visitArguments v g chain path callee arguments := by
  unfold visitArguments takenArguments
  split
  · exact .inl fun _ => rfl
  · rcases arguments with _ | ⟨argument, _ | ⟨other, rest⟩⟩
    · exact .inl fun _ => rfl
    · cases hlookup : lookupArgument? v callee argument.2 with
      | none => exact .inl fun f => by simp [hlookup]
      | some marks => exact .inr ⟨by simp [hlookup], fun f g => by simp [hlookup]⟩
    · exact .inl fun _ => rfl

theorem visitArguments_congr {callee : Tree} {arguments : List Child}
    (h : ∀ c ∈ takenArguments v callee arguments,
      f chain (c.1 :: path) c.2 = g chain (c.1 :: path) c.2) :
    visitArguments v f chain path callee arguments = visitArguments v g chain path callee arguments := by
  obtain heach | ⟨-, hsame⟩ := visitArguments_eq_visitEach_or v chain path callee arguments
  · rw [heach f, heach g]
    exact visitEach_congr h
  · exact hsame f g

theorem visitShorthandValue_congr {value : Tree}
    (h : value.isKind "AssignmentPattern" = true → ∀ c ∈ child value "right",
      f chain (c.1 :: (Text.ofString "value", 0) :: path) c.2
        = g chain (c.1 :: (Text.ofString "value", 0) :: path) c.2) :
    visitShorthandValue v f chain path value = visitShorthandValue v g chain path value := by
  unfold visitShorthandValue
  split
  · rename_i hdefault
    rw [visitEach_congr (h hdefault)]
  · rfl

/-- What is done inside a node depends on the ways on from it alone. -/
theorem visitInside_congr
    (h : ∀ way ∈ waysInside v path t, f chain way.1 way.2 = g chain way.1 way.2) :
    visitInside v f chain path t = visitInside v g chain path t := by
  have hways : ∀ {cs : List Child}, (∀ way ∈ waysTo path cs,
      f chain way.1 way.2 = g chain way.1 way.2) →
      ∀ c ∈ cs, f chain (c.1 :: path) c.2 = g chain (c.1 :: path) c.2 :=
    fun hcs c hc => hcs _ (List.mem_map_of_mem hc)
  unfold waysInside at h
  unfold visitInside
  split
  · rfl
  · rfl
  · rename_i hkind
    simp only [hkind] at h
    split
    · rename_i hshorthand
      rw [if_pos hshorthand] at h
      refine visitShorthandValue_congr fun hdefault c hc => ?_
      rw [if_pos hdefault] at h
      exact h _ (List.mem_map_of_mem hc)
    · rename_i hapart
      rw [if_neg hapart] at h
      exact visitEach_congr (hways h)
  · rename_i hkind
    simp only [hkind] at h
    have hall := hways h
    rw [visitEach_congr fun c hc => hall c (List.mem_append_left _ hc)]
    rw [show visitArguments v f chain path ((part? t "callee").getD (.object [])) (listed t "arguments")
        = visitArguments v g chain path ((part? t "callee").getD (.object [])) (listed t "arguments") from
      visitArguments_congr fun c hc => hall c (List.mem_append_right _ hc)]
  · rename_i hname hliteral hproperty hcall
    split at h
    · contradiction
    · contradiction
    · contradiction
    · contradiction
    · exact visitEach_congr (hways h)

/-- Visiting goes on from a node in the chain inside it, and to the name of a function that is declared in
the chain around the function. -/
def View.LeadsTo (v : View) (s next : Stop) : Prop :=
  (∃ way ∈ waysInside v s.path s.node, next = ⟨v.bindings.within s, way.1, way.2⟩) ∨
    (s.node.kind = "FunctionDeclaration" ∧
      ∃ c ∈ child s.node "id", next = ⟨s.chain, c.1 :: s.path, c.2⟩)

theorem leadsTo_of_counts {fuel : Nat} {s next : Stop}
    (h : Counts (fun f => visitStep v f s) (visitAt v fuel) next) : v.LeadsTo s next := by
  refine h.mem (v.LeadsTo s) fun g hg => ?_
  have hinside : ∀ {inner : Chain}, v.bindings.within s = inner →
      visitInside v (fun chain path t => g ⟨chain, path, t⟩) inner s.path s.node
        = visitInside v (fun chain path t => visitAt v fuel ⟨chain, path, t⟩) inner s.path s.node := by
    rintro _ rfl
    exact visitInside_congr fun way hway => hg _ (.inl ⟨way, hway, rfl⟩)
  unfold visitStep
  split
  · rfl
  · split
    · rename_i hnone
      refine hinside ?_
      unfold Bindings.within
      split
      · rename_i hscope
        rw [if_pos hscope] at hnone
        rw [hnone]
        rfl
      · rfl
    · rename_i inner hsome
      have hinner : v.bindings.within s = inner := by
        split at hsome
        · rename_i hscope
          rw [Bindings.within, if_pos hscope, hsome]
          rfl
        · cases hsome
      split
      · rename_i hfunction
        have hname : visitEach (fun chain path t => g ⟨chain, path, t⟩) s.chain s.path (child s.node "id")
            = visitEach (fun chain path t => visitAt v fuel ⟨chain, path, t⟩) s.chain s.path
              (child s.node "id") :=
          visitEach_congr fun c hc => hg _ (.inr ⟨beq_iff_eq.mp hfunction, c, hc, rfl⟩)
        dsimp only
        rw [hname, hinside hinner]
      · exact hinside hinner

/-! ### Visiting fails when it fails where it goes on -/

theorem doomed_visitEach {cs : List Child} {c : Child} (hc : c ∈ cs)
    (h : (f chain (c.1 :: path) c.2).Doomed) : (visitEach f chain path cs).Doomed :=
  (Rewriting.doomed_mapM hc h).bind _

theorem doomed_visitArguments {callee : Tree} {arguments : List Child} {c : Child}
    (hc : c ∈ takenArguments v callee arguments) (h : (f chain (c.1 :: path) c.2).Doomed) :
    (visitArguments v f chain path callee arguments).Doomed := by
  obtain heach | ⟨hnone, -⟩ := visitArguments_eq_visitEach_or v chain path callee arguments
  · rw [heach f]
    exact doomed_visitEach hc h
  · rw [hnone] at hc
    cases hc

theorem doomed_visitShorthandValue {value : Tree} (hdefault : value.isKind "AssignmentPattern" = true)
    {c : Child} (hc : c ∈ child value "right")
    (h : (f chain (c.1 :: (Text.ofString "value", 0) :: path) c.2).Doomed) :
    (visitShorthandValue v f chain path value).Doomed := by
  rw [visitShorthandValue, if_pos hdefault]
  exact (Rewriting.yields_true _).bind fun _ _ => (doomed_visitEach hc h).bind _

/-- What is done inside a node fails when it fails on one of the ways on from it. -/
theorem doomed_visitInside {way : Path × Tree} (hway : way ∈ waysInside v path t)
    (h : (f chain way.1 way.2).Doomed) : (visitInside v f chain path t).Doomed := by
  have heach : ∀ {cs : List Child}, way ∈ waysTo path cs → (visitEach f chain path cs).Doomed := by
    intro cs hcs
    obtain ⟨c, hc, rfl⟩ := List.mem_map.mp hcs
    exact doomed_visitEach hc h
  unfold waysInside at hway
  unfold visitInside
  split
  · rename_i hkind
    simp [hkind] at hway
  · rename_i hkind
    simp [hkind] at hway
  · rename_i hkind
    simp only [hkind] at hway
    split
    · rename_i hshorthand
      rw [if_pos hshorthand] at hway
      split at hway
      · rename_i hdefault
        obtain ⟨c, hc, rfl⟩ := List.mem_map.mp hway
        exact doomed_visitShorthandValue hdefault hc h
      · cases hway
    · rename_i hapart
      rw [if_neg hapart] at hway
      exact heach hway
  · rename_i hkind
    simp only [hkind] at hway
    obtain ⟨c, hc, rfl⟩ := List.mem_map.mp hway
    obtain hc | hc := List.mem_append.mp hc
    · exact (doomed_visitEach hc h).bind _
    · exact (Rewriting.yields_true _).bind fun _ _ => (doomed_visitArguments hc h).bind _
  · rename_i hname hliteral hproperty hcall
    split at hway
    · contradiction
    · contradiction
    · contradiction
    · contradiction
    · exact heach hway

/-- What is done at a node fails when it fails where visiting goes on. -/
theorem doomed_visitStep {f : Stop → Rewriting (List Mark)} {s next : Stop} (h : s.node.isTruthy = true)
    (hscope : isScopeKind s.node.kind = true → (v.bindings.chain? s.path).isSome = true)
    (hleads : v.LeadsTo s next) (hfail : (f next).Doomed) : (visitStep v f s).Doomed := by
  unfold visitStep
  rw [h]
  simp only [Bool.not_true, Bool.false_eq_true, if_false]
  have hinside : ∀ {way : Path × Tree}, way ∈ waysInside v s.path s.node →
      next = ⟨v.bindings.within s, way.1, way.2⟩ →
      (visitInside v (fun chain path t => f ⟨chain, path, t⟩) (v.bindings.within s) s.path
        s.node).Doomed := by
    rintro way hway rfl
    exact doomed_visitInside hway hfail
  by_cases hkind : isScopeKind s.node.kind = true
  · obtain ⟨inner, hinner⟩ := Option.isSome_iff_exists.mp (hscope hkind)
    have hwithin : v.bindings.within s = inner := by
      rw [Bindings.within, if_pos hkind, hinner]
      rfl
    rw [hwithin] at hinside
    rw [if_pos hkind, hinner]
    obtain ⟨way, hway, hnext⟩ | ⟨hfunction, c, hc, rfl⟩ := hleads
    · dsimp only
      split
      · exact (Rewriting.yields_true _).bind fun _ _ => (hinside hway (hwithin ▸ hnext)).bind _
      · exact hinside hway (hwithin ▸ hnext)
    · rw [Tree.isKind, hfunction]
      exact (doomed_visitEach hc hfail).bind _
  · obtain ⟨way, hway, hnext⟩ | ⟨hfunction, -⟩ := hleads
    · have hwithin : v.bindings.within s = s.chain := if_neg hkind
      rw [hwithin] at hinside
      rw [if_neg hkind]
      exact hinside hway (hwithin ▸ hnext)
    · rw [hfunction] at hkind
      exact absurd isScopeKind_functionDeclaration hkind

/-- Where visiting goes on from a well-formed node, what it finds out there counts. -/
theorem counts_of_leadsTo {fuel : Nat} {s next : Stop} (h : WellFormed s.node)
    (hscope : isScopeKind s.node.kind = true → (v.bindings.chain? s.path).isSome = true)
    (hleads : v.LeadsTo s next) : Counts (fun f => visitStep v f s) (visitAt v fuel) next := by
  classical
  let g : Stop → Rewriting (List Mark) := fun other =>
    if other = next then .fail (.nothingThere "") else visitAt v fuel other
  have hfail : (g next).Doomed := by
    rw [show g next = .fail (.nothingThere "") from if_pos rfl]
    trivial
  refine ⟨g, fun other hother => if_neg hother, fun hsame => ?_⟩
  -- The original comes to a result, and the one that fails at `next` does not.
  have hensures : (visitAt v (fuel + 1) s).Ensures fun _ => True :=
    (markedFrom_visit v (fuel + 1) (p := .root s.node) h (Nat.le_refl _)).mono fun _ _ => trivial
  refine Rewriting.not_doomed_of_ensures hensures ?_
  rw [visitAt_succ, show visitStep v (visitAt v fuel) s = visitStep v g s from hsame.symm]
  exact doomed_visitStep h.fits.isTruthy hscope hleads hfail

/-! ### The places of the stops -/

variable {p q : Place} {levels : Nat} {kids : Place → List Child}

theorem root_mem_placesFrom (kids : Place → List Child) (t : Tree) :
    .root t ∈ placesFrom kids t.depth (.root t) := by
  obtain ⟨levels, hlevels⟩ := Nat.exists_eq_succ_of_ne_zero (Nat.ne_of_gt (depth_pos t))
  rw [hlevels]
  exact mem_placesFrom_succ.mpr (.inl rfl)

/-- A traversal that goes on to nodes that are less deep comes to all to which it goes on. -/
theorem inside_mem_placesFrom (hdepth : p.node.depth ≤ levels)
    (hless : ∀ r ∈ placesFrom kids levels p, ∀ c ∈ kids r, c.2.depth < r.node.depth)
    (hq : q ∈ placesFrom kids levels p) {c : Child} (hc : c ∈ kids q) :
    q.inside c ∈ placesFrom kids levels p := by
  induction levels generalizing p with
  | zero => cases hq
  | succ levels ih =>
    have hhere : p ∈ placesFrom kids (levels + 1) p := mem_placesFrom_succ.mpr (.inl rfl)
    obtain rfl | ⟨d, hd, hq⟩ := mem_placesFrom_succ.mp hq
    · have hlt := hless q hhere c hc
      have hpos := depth_pos c.2
      obtain ⟨fewer, rfl⟩ : ∃ fewer, levels = fewer + 1 := ⟨levels - 1, by omega⟩
      exact mem_placesFrom_succ.mpr (.inr ⟨c, hc, mem_placesFrom_succ.mpr (.inl rfl)⟩)
    · have hlt := hless p hhere d hd
      refine mem_placesFrom_succ.mpr (.inr ⟨d, hd, ih ?_ (fun r hr => ?_) hq⟩)
      · exact Nat.le_of_lt_succ (Nat.lt_of_lt_of_le hlt hdepth)
      · exact hless r (mem_placesFrom_succ.mpr (.inr ⟨d, hd, hr⟩))

theorem inside_mem_visitedPlaces (h : WellFormed t) (hq : q ∈ visitedPlaces t) {c : Child}
    (hc : c ∈ visitedKids q) : q.inside c ∈ visitedPlaces t := by
  refine inside_mem_placesFrom (p := .root t) (Nat.le_refl _) (fun r hr d hd => ?_) hq hc
  have hwell := wellFormed_of_mem (p := .root t) visitedKids_subset h hr
  exact depth_lt_of_mem_children (mem_children_of_visitedKids hwell.fits hd)

/-- The name of a function that is declared. -/
def Place.isFunctionName (p : Place) : Bool :=
  p.outer.head?.any Outer.namesFunction

/-- Visiting with so many levels left is at a place, in the chain that stands there; the value of a property
whose key it is too is no such place. -/
structure VisitedStop (b : Bindings) (t : Tree) (fuel : Nat) (s : Stop) (q : Place) : Prop where
  visited : q ∈ visitedPlaces t
  path : s.path = q.path
  node : s.node = q.node
  chain : s.chain = b.standing q.outer
  apart : q.isShorthandValue = false
  levels : q.node.depth ≤ fuel

theorem VisitedStop.within_eq {b : Bindings} {fuel : Nat} {s : Stop} (hs : VisitedStop b t fuel s q)
    (hq : Scoped b q) : b.within s = b.insideOf q := by
  unfold Bindings.within
  rw [hs.node, hs.path]
  split
  · rename_i hscope
    rw [hq hscope]
    rfl
  · rename_i hscope
    rw [hs.chain, insideOf_of_not_scope hscope]

theorem mem_of_takenArguments {callee : Tree} {arguments : List Child} {c : Child}
    (hc : c ∈ takenArguments v callee arguments) :
    c ∈ arguments.drop (if loadsModule callee then 1 else 0) := by
  unfold takenArguments at hc
  split at hc
  · rename_i hloads
    rwa [if_pos hloads]
  · rename_i hloads
    rw [if_neg hloads, List.drop_zero]
    split at hc
    · split at hc
      · cases hc
      · exact hc
    · exact hc

/-- Nothing is gone on to from what is missing. -/
theorem not_leadsTo_of_null {s next : Stop} (hs : s.node = .null) : ¬ v.LeadsTo s next := by
  rintro (⟨way, hway, -⟩ | ⟨hkind, -⟩)
  · rw [hs] at hway
    cases hway
  · rw [hs] at hkind
    exact absurd hkind (by decide)

/-- A child that is visited in the scope of its parent, and as it is. -/
structure TakenInside (q : Place) (c : Child) : Prop where
  taken : c ∈ takenKids q
  nameless : Outer.namesFunction ⟨q.path, q.node, c.1⟩ = false
  apart : Outer.isShorthand ⟨q.path, q.node, c.1⟩ = false

theorem takenInside_of_property {c : Child} (hkind : q.node.kind = "Property")
    (hapart : ¬ (part? q.node "shorthand").isSome = true)
    (hc : c ∈ computedChild q.node "key" ++ child q.node "value") : TakenInside q c where
  taken := by simpa only [takenKids, hkind, if_neg hapart] using hc
  nameless := by simp [Outer.namesFunction, Tree.isKind, hkind]
  apart := by simp [Outer.isShorthand, hapart]

theorem takenInside_of_call {c : Child} (hkind : q.node.kind = "CallExpression")
    (hc : c ∈ child q.node "callee"
      ++ takenArguments v (calleeOf q.node) (listed q.node "arguments")) : TakenInside q c where
  taken := by
    simp only [takenKids, hkind]
    obtain hc | hc := List.mem_append.mp hc
    · exact List.mem_append_left _ hc
    · exact List.mem_append_right _ (mem_of_takenArguments hc)
  nameless := by simp [Outer.namesFunction, Tree.isKind, hkind]
  apart := by simp [Outer.isShorthand, Tree.isKind, hkind]

theorem takenInside_of_visited {c : Child} (hproperty : q.node.kind ≠ "Property")
    (hcall : q.node.kind ≠ "CallExpression") (hapart : q.isShorthandValue = false)
    (hc : c ∈ visitedChildren q.node) : TakenInside q c where
  taken := by
    unfold takenKids
    split
    · exact List.mem_append_right _ hc
    · contradiction
    · contradiction
    · rename_i hassignment
      rw [visitedChildren, hassignment] at hc
      rw [hapart]
      exact hc
    · exact hc
  nameless := namesFunction_of_visitedChildren hc
  apart := by
    have hnot : q.node.isKind "Property" = false := beq_eq_false_iff_ne.mpr hproperty
    simp [Outer.isShorthand, hnot]

section Onward

variable {fuel : Nat} {s : Stop} (h : IsProgram t) (hs : VisitedStop v.bindings t (fuel + 1) s q)
  (hq : Scoped v.bindings q)
include h hs hq

omit hq in
theorem VisitedStop.wellFormed : WellFormed q.node :=
  wellFormed_of_mem (p := .root t) visitedKids_subset h.wellFormed hs.visited

theorem visitedStop_of_taken {c : Child} (hc : TakenInside q c) :
    c.2 = .null ∨ ∃ r, VisitedStop v.bindings t fuel ⟨v.bindings.within s, c.1 :: s.path, c.2⟩ r ∧
      r.isFunctionName = false := by
  have hwell := hs.wellFormed h
  obtain hchild | hnull := taken_of_takenKids hwell.fits hc.taken
  · refine .inr ⟨q.inside c, ⟨inside_mem_visitedPlaces h.wellFormed hs.visited
      (List.mem_filter.mpr ⟨hc.taken, ?_⟩), ?_, rfl, ?_, ?_, ?_⟩, hc.nameless⟩
    · exact (hwell.inside hchild).fits.isNode
    · exact congrArg (c.1 :: ·) hs.path
    · rw [standing_inside v.bindings q hc.nameless]
      exact hs.within_eq hq
    · simp [Place.isShorthandValue, Place.inside, hc.apart]
    · exact Nat.le_of_lt_succ (Nat.lt_of_lt_of_le (depth_lt_of_mem_children hchild) hs.levels)
  · exact .inl hnull

/-- What stands for the value of a property whose key it is too. -/
theorem visitedStop_of_default (hkind : q.node.kind = "Property")
    (hshorthand : (part? q.node "shorthand").isSome = true) {value : Tree}
    (hvalue : q.node.get? "value" = some value) (hwell : WellFormed value)
    (hdefault : value.kind = "AssignmentPattern") {c : Child} (hc : c ∈ child value "right") :
    ∃ r, VisitedStop v.bindings t fuel
        ⟨v.bindings.within s, c.1 :: (Text.ofString "value", 0) :: s.path, c.2⟩ r ∧
      r.isFunctionName = false := by
  have hkid : ((Text.ofString "value", 0), value) ∈ visitedKids q := by
    refine List.mem_filter.mpr ⟨?_, hwell.fits.isNode⟩
    simp only [takenKids, hkind, hshorthand, if_true]
    exact mem_child.mpr ⟨rfl, hvalue⟩
  have hinside := inside_mem_visitedPlaces h.wellFormed hs.visited hkid
  have hisValue : (q.inside ((Text.ofString "value", 0), value)).isShorthandValue = true := by
    simp [Place.isShorthandValue, Place.inside, Outer.isShorthand, Tree.isKind, hkind, hshorthand,
      Text.eqString]
  have hchild := (hwell.fits.of_child_one (slot_mem hdefault rfl) hc).2
  have hright : c ∈ visitedKids (q.inside ((Text.ofString "value", 0), value)) := by
    refine List.mem_filter.mpr ⟨?_, (hwell.inside hchild).fits.isNode⟩
    have hnode : (q.inside ((Text.ofString "value", 0), value)).node.kind = "AssignmentPattern" := hdefault
    simp only [takenKids, hnode, hisValue, if_true]
    exact List.mem_append_right _ hc
  have hnames : Outer.namesFunction ⟨(Text.ofString "value", 0) :: q.path, value, c.1⟩ = false := by
    simp [Outer.namesFunction, Tree.isKind, hdefault]
  refine ⟨_, ⟨inside_mem_visitedPlaces h.wellFormed hinside hright, ?_, rfl, ?_, ?_, ?_⟩, hnames⟩
  · exact congrArg (fun path => c.1 :: (Text.ofString "value", 0) :: path) hs.path
  · rw [standing_inside v.bindings _ hnames, insideOf_of_not_scope (by
        rw [show (q.inside ((Text.ofString "value", 0), value)).node.kind = "AssignmentPattern" from hdefault]
        decide),
      standing_inside v.bindings q (by simp [Outer.namesFunction, Tree.isKind, hkind])]
    exact hs.within_eq hq
  · simp [Place.isShorthandValue, Place.inside, Outer.isShorthand, Tree.isKind, hdefault]
  · have hless := depth_lt_of_mem_children hchild
    have hlevels := hs.levels
    have hmore := depth_lt_of_mem_children
      (mem_children_of_visitedKids (hs.wellFormed h).fits hkid)
    exact Nat.le_of_lt_succ (Nat.lt_of_lt_of_le (Nat.lt_trans hless hmore) hlevels)

/-- Inside its scope visiting goes on from a place to places, or to what is missing. -/
theorem visitedStop_of_way {way : Path × Tree} (hway : way ∈ waysInside v s.path s.node) :
    way.2 = .null ∨ ∃ r, VisitedStop v.bindings t fuel ⟨v.bindings.within s, way.1, way.2⟩ r ∧
      r.isFunctionName = false := by
  have hwell := hs.wellFormed h
  have hways : ∀ {cs : List Child}, (∀ c ∈ cs, TakenInside q c) → way ∈ waysTo s.path cs →
      way.2 = .null ∨ ∃ r, VisitedStop v.bindings t fuel ⟨v.bindings.within s, way.1, way.2⟩ r ∧
        r.isFunctionName = false := by
    intro cs hcs hmem
    obtain ⟨c, hc, rfl⟩ := List.mem_map.mp hmem
    exact visitedStop_of_taken h hs hq (hcs c hc)
  rw [hs.node] at hway
  unfold waysInside at hway
  split at hway
  · cases hway
  · cases hway
  · rename_i hkind
    split at hway
    · rename_i hshorthand
      obtain ⟨value, hvalue, hpart, hwellValue, -⟩ := exists_shorthandValue hwell hkind hshorthand
      rw [hpart, Option.getD_some] at hway
      split at hway
      · rename_i hdefault
        obtain ⟨c, hc, rfl⟩ := List.mem_map.mp hway
        exact .inr (visitedStop_of_default h hs hq hkind hshorthand hvalue hwellValue
          (beq_iff_eq.mp hdefault) hc)
      · cases hway
    · rename_i hapart
      exact hways (fun c hc => takenInside_of_property hkind hapart hc) hway
  · rename_i hkind
    exact hways (fun c hc => takenInside_of_call hkind hc) hway
  · rename_i hname hliteral hproperty hcall
    exact hways (fun c hc => takenInside_of_visited hproperty hcall hs.apart hc) hway

omit hq in
/-- The name of a function that is declared is visited in the chain around the function. -/
theorem visitedStop_of_name (hkind : q.node.kind = "FunctionDeclaration") {c : Child}
    (hc : c ∈ child q.node "id") :
    c.2 = .null ∨ ∃ r, VisitedStop v.bindings t fuel ⟨s.chain, c.1 :: s.path, c.2⟩ r ∧
      r.isFunctionName = true := by
  have hwell := hs.wellFormed h
  have htaken : c ∈ takenKids q := by
    simp only [takenKids, hkind]
    exact List.mem_append_left _ hc
  obtain hchild | hnull := taken_of_takenKids hwell.fits htaken
  · have hnames : Outer.namesFunction ⟨q.path, q.node, c.1⟩ = true := by
      rw [(mem_child.mp hc).1, Outer.namesFunction, Tree.isKind, hkind]
      rfl
    refine .inr ⟨q.inside c, ⟨inside_mem_visitedPlaces h.wellFormed hs.visited
      (List.mem_filter.mpr ⟨htaken, ?_⟩), ?_, rfl, ?_, ?_, ?_⟩, hnames⟩
    · exact (hwell.inside hchild).fits.isNode
    · exact congrArg (c.1 :: ·) hs.path
    · simp [Place.inside, Bindings.standing, hnames, hs.chain]
    · simp [Place.isShorthandValue, Place.inside, Outer.isShorthand, Tree.isKind, hkind]
    · exact Nat.le_of_lt_succ (Nat.lt_of_lt_of_le (depth_lt_of_mem_children hchild) hs.levels)
  · exact .inl hnull

/-- From a place visiting goes on to places, or to what is missing: to the name of a function that is
declared in the chain around the function, and else in the chain inside. -/
theorem visitedStop_onward {next : Stop} (hnext : v.LeadsTo s next) :
    next.node = .null ∨ ∃ r, VisitedStop v.bindings t fuel next r ∧
      next.chain = if r.isFunctionName then s.chain else v.bindings.within s := by
  obtain ⟨way, hway, rfl⟩ | ⟨hkind, c, hc, rfl⟩ := hnext
  · refine (visitedStop_of_way h hs hq hway).imp_right ?_
    rintro ⟨r, hr, hother⟩
    exact ⟨r, hr, by rw [hother]; rfl⟩
  · rw [hs.node] at hkind hc
    refine (visitedStop_of_name h hs hkind hc).imp_right ?_
    rintro ⟨r, hr, hnames⟩
    exact ⟨r, hr, by rw [hnames]; rfl⟩

end Onward

/-- Visiting comes to places, in the chains that stand there, or to what is missing. -/
theorem visitedStop_of_visits {v : View} {isModule : Bool} {fuel : Nat} {s : Stop} (h : IsProgram t)
    (hb : Describes isModule t v.bindings)
    (hs : VisitsWith v t fuel s) : s.node = .null ∨ ∃ q, VisitedStop v.bindings t fuel s q := by
  -- By induction on the tour: at each stop the chain is the one that stands at its place.
  induction hs with
  | start => exact .inr ⟨.root t, ⟨root_mem_placesFrom _ t, rfl, rfl, rfl, rfl, Nat.le_refl _⟩⟩
  | onward _ hcounts ih =>
    have hnext := leadsTo_of_counts hcounts
    obtain hnull | ⟨q, hstop⟩ := ih
    · exact absurd hnext (not_leadsTo_of_null hnull)
    · refine (visitedStop_onward h hstop (scoped_of_visited h hb hstop.visited) hnext).imp_right ?_
      rintro ⟨r, hr, -⟩
      exact ⟨r, hr⟩

end VeiledGateway.Script
