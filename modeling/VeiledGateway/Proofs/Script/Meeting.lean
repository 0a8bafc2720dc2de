/-
  Gathering and visiting see the same scopes.

  Gathering comes to the places of a script with the bindings that it has found out up to there.  From
  each of them on it opens scopes inside it alone, so that the chains that it has found around a place
  are those that it leaves behind in the end.  Where both passes come to one node, they therefore come
  to it in the same chain.  There is one exception: to the name of a function that is declared
  gathering, which finds nothing there, comes in the scope of the function, and visiting in the scopes
  around the function, to which the name belongs.
-/
import VeiledGateway.Proofs.Script.Renaming
import VeiledGateway.Proofs.Script.Touring

set_option autoImplicit false

namespace VeiledGateway.Script

section Gathering

/-! ## Gathering -/

/-- What gathering adds at a node, from what it adds at the nodes to which it goes on. -/
def gatherStep (isModule : Bool) (f : Stop × Bindings → Except Fault Bindings) (s : Stop × Bindings) :
    Except Fault Bindings := do
  if !s.1.node.isTruthy then return s.2
  let (inner, b) ← enter isModule s.1.chain s.1.path s.1.node s.2
  let b ← declarations inner s.1.node b
  let b ← (gatheredChildren s.1.node).foldlM
    (fun b child => f (⟨inner, child.1 :: s.1.path, child.2⟩, b)) b
  pinSpecifiers s.1.node b

/-- Gathering with so many levels, at a stop, from the bindings up to there. -/
def gatherAt (isModule : Bool) (fuel : Nat) (s : Stop × Bindings) : Except Fault Bindings :=
  gather isModule fuel s.1.chain s.1.path s.1.node s.2

/-- Gathering the bindings of a tree comes to a stop, with so many levels left. -/
def GathersWith (isModule : Bool) (t : Tree) : Nat → Stop × Bindings → Prop :=
  Comes (gatherStep isModule) (gatherAt isModule) t.depth (⟨[], [], t⟩, Bindings.empty)

theorem gatherAt_succ (isModule : Bool) (fuel : Nat) :
    gatherAt isModule (fuel + 1) = gatherStep isModule (gatherAt isModule fuel) :=
  rfl

/-! ## Where gathering goes on -/

/-- What is folded depends on what is done at the values up to each item alone. -/
theorem foldlM_congr {ε α β : Type} {f g : β → α → Except ε β} {items : List α} {b : β}
    (h : ∀ before item after, items = before ++ item :: after →
      ∀ b', before.foldlM f b = .ok b' → g b' item = f b' item) :
    items.foldlM g b = items.foldlM f b := by
  induction items generalizing b with
  | nil => rfl
  | cons item items ih =>
    have hfirst : g b item = f b item := h [] item items rfl b rfl
    rw [List.foldlM_cons, List.foldlM_cons, hfirst]
    cases hb : f b item with
    | error fault => rfl
    | ok b' =>
      refine ih fun before other after heq b'' hbefore => ?_
      refine h (item :: before) other after (congrArg (item :: ·) heq) b'' ?_
      rw [List.foldlM_cons, hb]
      exact hbefore

/-- What fails at one of its items fails as a whole. -/
theorem foldlM_eq_error {ε α β : Type} {f : β → α → Except ε β} {before after : List α} {item : α}
    {b b' : β} {fault : ε} (hbefore : before.foldlM f b = .ok b') (hitem : f b' item = .error fault) :
    (before ++ item :: after).foldlM f b = .error fault := by
  rw [List.foldlM_append, hbefore]
  simp only [bind, Except.bind, List.foldlM_cons, hitem]

variable {isModule : Bool} {fuel : Nat} {s next : Stop × Bindings} {inner : Chain}
  {b b₁ b₂ : Bindings}

/-- Gathering goes on from a node, once it has been entered, to its children in order, each with the
bindings that were found out in the ones before. -/
def GathersOn (isModule : Bool) (fuel : Nat) (s : Stop × Bindings) (inner : Chain) (b : Bindings)
    (next : Stop × Bindings) : Prop :=
  ∃ before c after, gatheredChildren s.1.node = before ++ c :: after ∧
    next.1 = ⟨inner, c.1 :: s.1.path, c.2⟩ ∧
    before.foldlM (fun b c => gather isModule fuel inner (c.1 :: s.1.path) c.2 b) b = .ok next.2

theorem gathersOn_of_counts
    (hcounts : Counts (fun f => gatherStep isModule f s) (gatherAt isModule fuel) next)
    (henter : enter isModule s.1.chain s.1.path s.1.node s.2 = .ok (inner, b₁))
    (hdeclarations : declarations inner s.1.node b₁ = .ok b₂) :
    GathersOn isModule fuel s inner b₂ next := by
  refine hcounts.mem (GathersOn isModule fuel s inner b₂) fun g hg => ?_
  have hfold : (gatheredChildren s.1.node).foldlM
        (fun b c => g (⟨inner, c.1 :: s.1.path, c.2⟩, b)) b₂
      = (gatheredChildren s.1.node).foldlM
        (fun b c => gatherAt isModule fuel (⟨inner, c.1 :: s.1.path, c.2⟩, b)) b₂ :=
    foldlM_congr fun before c after hsplit b' hbefore => hg _ ⟨before, c, after, hsplit, rfl, hbefore⟩
  unfold gatherStep
  rw [henter]
  simp only [bind, Except.bind, hdeclarations] at hfold ⊢
  rw [hfold]

/-- Nothing is gone on to from what is missing. -/
theorem not_counts_of_null (hs : s.1.node = .null) :
    ¬ Counts (fun f => gatherStep isModule f s) (gatherAt isModule fuel) next := by
  refine fun hcounts => hcounts.mem (fun _ => False) fun g _ => ?_
  simp only [gatherStep, hs]
  rfl

/-! ## The places of the stops -/

/-- The chain in which gathering comes to what stands inside some nodes: the one inside the nearest of
them.  Other than for visiting, the name of a function that is declared is in the scope of the function. -/
def Bindings.entered (b : Bindings) : List Outer → Chain
  | [] => []
  | o :: outer => b.opened o.path o.node ++ b.standing outer

/-- Only at the name of a function that is declared the two chains differ. -/
theorem entered_eq_standing {p : Place} (h : p.isFunctionName = false) :
    b.entered p.outer = b.standing p.outer := by
  unfold Place.isFunctionName at h
  cases houter : p.outer with
  | nil => rfl
  | cons o outer =>
    rw [houter] at h
    have hnames : o.namesFunction = false := h
    simp [Bindings.entered, Bindings.standing, hnames]

theorem entered_congr {b b' : Bindings} {outer : List Outer}
    (h : ∀ o ∈ outer, b'.chain? o.path = b.chain? o.path) : b'.entered outer = b.entered outer := by
  cases outer with
  | nil => rfl
  | cons o outer =>
    rw [Bindings.entered, Bindings.entered, Bindings.opened, Bindings.opened, h o List.mem_cons_self,
      standing_congr fun o' ho' => h o' (List.mem_cons_of_mem _ ho')]

variable {t : Tree} {last : Bindings} {q : Place}

/-- Gathering with so many levels is at a place, and what it does there and later leaves the chains around
the place as they are. -/
structure GatheredStop (isModule : Bool) (t : Tree) (last : Bindings) (fuel : Nat) (s : Stop × Bindings)
    (q : Place) : Prop where
  place : q ∈ places t
  path : s.1.path = q.path
  node : s.1.node = q.node
  chain : s.1.chain = s.2.entered q.outer
  levels : q.node.depth ≤ fuel
  proper : q.Proper
  stands : q.node.kind = "Program" ∨ s.1.chain ≠ []
  kept : ∀ o ∈ q.outer, last.chain? o.path = s.2.chain? o.path
  later : ∃ b, gatherAt isModule fuel s = .ok b ∧
    ∃ new, last.scopes = new ++ b.scopes ∧ ∀ e ∈ new, ¬ q.path <:+ e.1

theorem inside_mem_places (hq : q ∈ places t) {c : Child} (hc : c ∈ children q.node) :
    q.inside c ∈ places t :=
  inside_mem_placesFrom (p := .root t) (Nat.le_refl _) (fun _ _ _ hd => depth_lt_of_mem_children hd) hq hc

/-- Gathering finds no child of the name of a function. -/
theorem gatheredChildren_of_isFunctionName (h : IsProgram t) (hq : q ∈ places t)
    (hname : q.isFunctionName = true) : gatheredChildren q.node = [] := by
  obtain rfl | ⟨r, hr, c, hc, rfl⟩ := parent_of_mem hq
  · cases hname
  · have hwell := wellFormed_of_mem (p := .root t) (fun _ _ _ hc => hc) h.wellFormed hr
    have hkind : (r.inside c).node.kind = "Identifier" := kind_of_namesFunction hwell.fits hc hname
    simp only [gatheredChildren, hkind]
    exact (hwell.inside hc).fits.children_eq_nil (by rw [show c.2.kind = "Identifier" from hkind]; rfl)

/-- Nothing is gone on to where there are no children. -/
theorem not_counts_of_childless (hnone : gatheredChildren s.1.node = []) :
    ¬ Counts (fun f => gatherStep isModule f s) (gatherAt isModule fuel) next := by
  refine fun hcounts => hcounts.mem (fun _ => False) fun g _ => ?_
  simp only [gatherStep, hnone, List.foldlM_nil]

/-- The children of a node up to one of them, that one, and those after it. -/
structure Through (isModule : Bool) (fuel : Nat) (p : Place) (before : List Child) (c : Child)
    (after : List Child) (b₂ b₃ b₄ b₅ : Bindings) : Prop where
  before : before.foldlM (fun b c => gather isModule fuel (b₂.insideOf p) (c.1 :: p.path) c.2 b) b₂ = .ok b₃
  here : gather isModule fuel (b₂.insideOf p) (c.1 :: p.path) c.2 b₃ = .ok b₄
  after : after.foldlM (fun b c => gather isModule fuel (b₂.insideOf p) (c.1 :: p.path) c.2 b) b₄ = .ok b₅
  sooner : SameAt b₂ b₃ p
  later : SameAt b₃ b₅ p
  apart : ∃ new, b₅.scopes = new ++ b₄.scopes ∧ ∀ e ∈ new, ¬ (c.1 :: p.path) <:+ e.1

/-- What is gathered in children of a place leaves its chains as they are. -/
theorem sameAt_of_gathered {ps : List Place} {b b' : Bindings} (hproper : q.Proper)
    (h : Gathered isModule (fun path => ∃ c : Child, (c.1 :: q.path) <:+ path) ps b b') :
    SameAt b b' q := by
  obtain ⟨new, hnew, hwithin⟩ := h.grown
  refine sameAt_of_inside hproper hnew fun e he => ?_
  obtain ⟨c, hsuffix⟩ := hwithin e he
  exact hsuffix.length_le

theorem exists_through (isModule : Bool) {before after : List Child} {c : Child}
    (hdepth : q.node.depth ≤ fuel + 1) (h : WellFormed q.node) (hproper : q.Proper)
    (hinside : b₂.insideOf q ≠ []) (hsplit : gatheredChildren q.node = before ++ c :: after) :
    ∃ b₃ b₄ b₅, Through isModule fuel q before c after b₂ b₃ b₄ b₅ := by
  have hpairwise := pairwise_gatheredChildren h.fits
  rw [hsplit] at hpairwise
  obtain ⟨hbefore, hrest, -⟩ := List.pairwise_append.mp hpairwise
  obtain ⟨hapart, hafter⟩ := List.pairwise_cons.mp hrest
  have hgather : ∀ d ∈ before ++ c :: after, ∀ b : Bindings, b.insideOf q = b₂.insideOf q →
      ∃ b', gather isModule fuel (b₂.insideOf q) (d.1 :: q.path) d.2 b = .ok b' ∧
        Gathered isModule ((d.1 :: q.path) <:+ ·) (placesFrom gatheredKids fuel (q.inside d)) b b' := by
    intro d hd b hb
    have hchild := exists_gather_child (exists_gather isModule fuel) hdepth h hproper
      (hsplit ▸ hd) (hb ▸ hinside)
    rwa [hb] at hchild
  have hmem : c ∈ before ++ c :: after := List.mem_append_right _ List.mem_cons_self
  obtain ⟨b₃, hfold, hgathered⟩ := exists_foldlM_children hproper hbefore
    (fun d hd => hgather d (List.mem_append_left _ hd)) rfl
  have hsame : ∀ (cs : List Child) {ps : List Place} {b b' : Bindings},
      Gathered isModule (fun path => ∃ c ∈ cs, (c.1 :: q.path) <:+ path) ps b b' → SameAt b b' q :=
    fun _ _ _ _ hcs => sameAt_of_gathered hproper (hcs.imp fun path ⟨c, _, hsuffix⟩ => ⟨c, hsuffix⟩)
  have hsame₃ : SameAt b₂ b₃ q := hsame _ hgathered
  obtain ⟨b₄, hhere, hgathered₄⟩ := hgather c hmem b₃ hsame₃.insideOf
  have hsame₄ : SameAt b₃ b₄ q := hsame [c] (hgathered₄.imp fun path hsuffix =>
    ⟨c, List.mem_singleton.mpr rfl, hsuffix⟩)
  obtain ⟨b₅, hfold₅, hgathered₅⟩ := exists_foldlM_children hproper hafter
    (fun d hd => hgather d (List.mem_append_right _ (List.mem_cons_of_mem _ hd)))
    (hsame₄.insideOf.trans hsame₃.insideOf)
  refine ⟨b₃, b₄, b₅, hfold, hhere, hfold₅, hsame₃, hsame₄.trans (hsame _ hgathered₅), ?_⟩
  obtain ⟨new, hnew, hwithin⟩ := hgathered₅.grown
  refine ⟨new, hnew, fun e he hsuffix => ?_⟩
  obtain ⟨d, hd, hway⟩ := hwithin e he
  exact ne_of_suffix_cons (hapart d hd) hsuffix hway rfl

/-- Gathering has entered a node and found out what it declares. -/
structure Opened (isModule : Bool) (s : Stop × Bindings) (q : Place) (b₁ b₂ : Bindings) : Prop where
  enter : enter isModule s.1.chain s.1.path s.1.node s.2 = .ok (b₂.insideOf q, b₁)
  declarations : declarations (b₂.insideOf q) s.1.node b₁ = .ok b₂
  inside : b₂.insideOf q ≠ []
  around : ∀ o ∈ q.outer, b₂.chain? o.path = s.2.chain? o.path

section Onward

variable (h : IsProgram t) (hs : GatheredStop isModule t last (fuel + 1) s q)
include h hs

theorem GatheredStop.wellFormed : WellFormed q.node :=
  wellFormed_of_mem (p := .root t) (fun _ _ _ hc => hc) h.wellFormed hs.place

theorem exists_opened (hname : q.isFunctionName = false) : ∃ b₁ b₂, Opened isModule s q b₁ b₂ := by
  have hwell := hs.wellFormed h
  have hchain : s.1.chain = s.2.standing q.outer := hs.chain.trans (entered_eq_standing hname)
  have hroot : q.node.kind = "Program" → q.outer = [] :=
    outer_eq_nil_of_program (p := .root t) (fun _ _ _ hc => hc) h.wellFormed (fun _ => rfl) hs.place
  obtain ⟨b₁, henter, hentered⟩ := exists_enter isModule hs.proper hwell hroot (hchain ▸ hs.stands)
  obtain ⟨b₂, hdeclarations, hadds⟩ :=
    exists_declarations (s.2.standing q.outer) hentered.inside hwell b₁
  have hsame : SameAt b₁ b₂ q := .of_scopes hadds.scopes q
  refine ⟨b₁, b₂, ?_, ?_, ?_, fun o ho => (hsame.around o ho).trans (hentered.around o ho)⟩
  · rw [hs.path, hs.node, hchain, hsame.insideOf]
    exact henter
  · rw [hs.node, hsame.insideOf]
    exact hdeclarations
  · rw [hsame.insideOf]
    exact hentered.inside

/-- What is left behind in the end is what stands around a place when one of its children is come to. -/
theorem exists_last {b₁ : Bindings} (hopened : Opened isModule s q b₁ b₂) {before after : List Child}
    {c : Child} {b₃ b₄ b₅ : Bindings} (hsplit : gatheredChildren q.node = before ++ c :: after)
    (hthrough : Through isModule fuel q before c after b₂ b₃ b₄ b₅) :
    SameAt b₃ last q ∧ ∃ new, last.scopes = new ++ b₄.scopes ∧ ∀ e ∈ new, ¬ (c.1 :: q.path) <:+ e.1 := by
  have hwell := hs.wellFormed h
  obtain ⟨b₆, hpin, hpins⟩ := exists_pinSpecifiers hwell b₅
  have hwhole : gatherAt isModule (fuel + 1) s = .ok b₆ := by
    have hfold : (gatheredChildren s.1.node).foldlM
        (fun b c => gatherAt isModule fuel (⟨b₂.insideOf q, c.1 :: s.1.path, c.2⟩, b)) b₂ = .ok b₅ := by
      rw [hs.node, hs.path, hsplit, List.foldlM_append]
      refine Outcome.bind_eq_ok.mpr ⟨b₃, hthrough.before, ?_⟩
      rw [List.foldlM_cons]
      exact Outcome.bind_eq_ok.mpr ⟨b₄, hthrough.here, hthrough.after⟩
    rw [gatherAt_succ, gatherStep, hs.node, hwell.fits.isTruthy]
    simp only [Bool.not_true, Bool.false_eq_true, if_false]
    refine Outcome.bind_eq_ok.mpr ⟨_, hs.node ▸ hopened.enter, ?_⟩
    refine Outcome.bind_eq_ok.mpr ⟨b₂, hs.node ▸ hopened.declarations, ?_⟩
    exact Outcome.bind_eq_ok.mpr ⟨b₅, hs.node ▸ hfold, hpin⟩
  obtain ⟨b', hwhole', new, hnew, houtside⟩ := hs.later
  obtain rfl : b' = b₆ := Except.ok.inj (hwhole'.symm.trans hwhole)
  rw [hpins.scopes] at hnew
  constructor
  -- The scopes that come after the node are neither its own nor one around it, and those of the children
  -- that come after this one are inside them.
  · refine ⟨?_, fun o ho => ?_⟩
    · rw [chain?_of_new hnew fun e he heq => houtside e he (heq ▸ List.suffix_refl _)]
      exact hthrough.later.here
    · rw [hs.kept o ho, hthrough.sooner.around o ho]
      exact (hopened.around o ho).symm
  · obtain ⟨new', hnew', hapart⟩ := hthrough.apart
    refine ⟨new ++ new', by rw [hnew, hnew', List.append_assoc], fun e he hsuffix => ?_⟩
    obtain he | he := List.mem_append.mp he
    · exact houtside e he ((List.suffix_cons _ _).trans hsuffix)
    · exact hapart e he hsuffix

/-- From a place gathering goes on to places, or to what is missing. -/
theorem gatheredStop_onward
    (hcounts : Counts (fun f => gatherStep isModule f s) (gatherAt isModule fuel) next) :
    next.1.node = .null ∨ ∃ r, GatheredStop isModule t last fuel next r := by
  have hwell := hs.wellFormed h
  have hname : q.isFunctionName = false := by
    refine Bool.eq_false_iff.mpr fun hname => not_counts_of_childless ?_ hcounts
    exact hs.node ▸ gatheredChildren_of_isFunctionName h hs.place hname
  obtain ⟨b₁, b₂, hopened⟩ := exists_opened h hs hname
  obtain ⟨before, c, after, hsplit, hnext, hbefore⟩ :=
    gathersOn_of_counts hcounts hopened.enter hopened.declarations
  rw [hs.node] at hsplit
  rw [hs.path] at hnext hbefore
  obtain ⟨b₃, b₄, b₅, hthrough⟩ :=
    exists_through isModule hs.levels hwell hs.proper hopened.inside hsplit
  obtain rfl : b₃ = next.2 := Except.ok.inj (hthrough.before.symm.trans hbefore)
  obtain ⟨hsame, hlater⟩ := exists_last h hs hopened hsplit hthrough
  have hmem : c ∈ gatheredChildren q.node := by
    rw [hsplit]
    exact List.mem_append_right _ List.mem_cons_self
  obtain hchild | hnull := mem_children_of_gatheredChildren hwell.fits hmem
  · have hlt := depth_lt_of_mem_children hchild
    refine .inr ⟨q.inside c, {
      place := inside_mem_places hs.place hchild
      path := by rw [hnext]; rfl
      node := by rw [hnext]; rfl
      chain := by
        rw [hnext]
        exact hthrough.sooner.insideOf.symm
      levels := Nat.le_of_lt_succ (Nat.lt_of_lt_of_le hlt hs.levels)
      proper := hs.proper.inside c
      stands := .inr (by rw [hnext]; exact hopened.inside)
      kept := List.forall_mem_cons.mpr ⟨hsame.here, hsame.around⟩
      later := ?_ }⟩
    refine ⟨b₄, ?_, hlater⟩
    rw [gatherAt, hnext]
    exact hthrough.here
  · exact .inl (by rw [hnext, hnull])

/-- What gathering finds out in each of the children to which it goes on counts. -/
theorem exists_counts_of_child {c : Child} (hc : c ∈ gatheredChildren q.node) :
    ∃ next : Stop × Bindings, (next.1.path = c.1 :: s.1.path ∧ next.1.node = c.2) ∧
      Counts (fun f => gatherStep isModule f s) (gatherAt isModule fuel) next := by
  classical
  have hwell := hs.wellFormed h
  have hname : q.isFunctionName = false := by
    refine Bool.eq_false_iff.mpr fun hname => ?_
    rw [gatheredChildren_of_isFunctionName h hs.place hname] at hc
    cases hc
  obtain ⟨b₁, b₂, hopened⟩ := exists_opened h hs hname
  obtain ⟨before, after, hsplit⟩ := List.append_of_mem hc
  obtain ⟨b₃, b₄, b₅, hthrough⟩ :=
    exists_through isModule hs.levels hwell hs.proper hopened.inside hsplit
  let next : Stop × Bindings := (⟨b₂.insideOf q, c.1 :: s.1.path, c.2⟩, b₃)
  let g : Stop × Bindings → Except Fault Bindings := fun other =>
    if other = next then .error (.nothingThere "") else gatherAt isModule fuel other
  refine ⟨next, ⟨rfl, rfl⟩, g, fun other hother => if_neg hother, fun hsame => ?_⟩
  -- Up to the child nothing is different, since the steps to the children before it are others.
  have hbefore : before.foldlM (fun b c => g (⟨b₂.insideOf q, c.1 :: s.1.path, c.2⟩, b)) b₂ = .ok b₃ := by
    rw [← hthrough.before, ← hs.path]
    refine foldlM_congr fun first d others heq b' _ => if_neg fun hnext => ?_
    have hpairwise := pairwise_gatheredChildren hwell.fits
    rw [hsplit] at hpairwise
    have hd : d ∈ before := heq ▸ List.mem_append_right _ List.mem_cons_self
    refine (List.pairwise_append.mp hpairwise).2.2 d hd c List.mem_cons_self ?_
    exact (List.cons.inj (congrArg (fun n => n.1.path) hnext)).1
  have hfold : (gatheredChildren s.1.node).foldlM
      (fun b c => g (⟨b₂.insideOf q, c.1 :: s.1.path, c.2⟩, b)) b₂ = .error (.nothingThere "") := by
    rw [hs.node, hsplit]
    exact foldlM_eq_error hbefore (if_pos rfl)
  have hfail : gatherStep isModule g s = .error (.nothingThere "") := by
    rw [gatherStep, hs.node, hwell.fits.isTruthy, ← hs.node, hopened.enter]
    simp only [bind, Except.bind, hopened.declarations] at hfold ⊢
    rw [hfold]
    rfl
  obtain ⟨b, hok, -⟩ := hs.later
  rw [gatherAt_succ, show gatherStep isModule (gatherAt isModule fuel) s = gatherStep isModule g s from
    hsame.symm, hfail] at hok
  cases hok

end Onward

/-- Gathering comes to places, or to what is missing. -/
theorem gatheredStop_of_gathers (h : IsProgram t) (hlast : bindingsOf isModule t = .ok last)
    (hs : GathersWith isModule t fuel s) :
    s.1.node = .null ∨ ∃ q, GatheredStop isModule t last fuel s q := by
  -- By induction on the tour: what is opened later leaves the chains around each stop as they are.
  induction hs with
  | start =>
    refine .inr ⟨.root t, {
      place := root_mem_placesFrom _ t
      path := rfl
      node := rfl
      chain := rfl
      levels := Nat.le_refl _
      proper := nofun
      stands := .inl h.kind
      kept := nofun
      later := ⟨last, hlast, [], rfl, nofun⟩ }⟩
  | onward _ hcounts ih =>
    obtain hnull | ⟨q, hstop⟩ := ih
    · exact absurd hcounts (not_counts_of_null hnull)
    · exact gatheredStop_onward h hstop hcounts

end Gathering

/-! ## Nodes to which the passes come -/

/-- Visiting a tree comes to a node, in the chain that is current then. -/
def VisitsAt (v : View) (t : Tree) (s : Stop) : Prop :=
  s.node ≠ .null ∧ ∃ fuel, VisitsWith v t fuel s

/-- Visiting a tree goes on from one node to another. -/
def VisitsOn (v : View) (t : Tree) (s next : Stop) : Prop :=
  next.node ≠ .null ∧
    ∃ fuel, VisitsWith v t (fuel + 1) s ∧ Counts (fun f => visitStep v f s) (visitAt v fuel) next

/-- Gathering the bindings of a tree comes to a node, in the chain that is current then. -/
def GathersAt (isModule : Bool) (t : Tree) (s : Stop) : Prop :=
  s.node ≠ .null ∧ ∃ fuel b, GathersWith isModule t fuel (s, b)

/-- The name of a function that is declared stands at a path. -/
def namesFunctionAt (t : Tree) (path : Path) : Bool :=
  (places t).any fun q => q.path == path && q.isFunctionName

variable {t : Tree} {q : Place} {isModule : Bool} {v : View} {s s' next : Stop}

theorem namesFunctionAt_eq (h : IsProgram t) (hq : q ∈ places t) :
    namesFunctionAt t q.path = q.isFunctionName := by
  rw [Bool.eq_iff_iff, namesFunctionAt, List.any_eq_true]
  constructor
  · rintro ⟨r, hr, hname⟩
    obtain ⟨hpath, hname⟩ := Bool.and_eq_true_iff.mp hname
    rwa [place_eq_of_path (p := .root t) h.wellFormed hq hr (beq_iff_eq.mp hpath).symm]
  · exact fun hname => ⟨q, hq, Bool.and_eq_true_iff.mpr ⟨beq_self_eq_true _, hname⟩⟩

theorem ne_null_of_wellFormed (h : WellFormed t) : t ≠ .null := by
  rintro rfl
  exact absurd h.fits.isTruthy (by decide)

/-! ### What visiting comes to -/

theorem visitsAt_root (h : IsProgram t) (v : View) : VisitsAt v t ⟨[], [], t⟩ :=
  ⟨ne_null_of_wellFormed h.wellFormed, t.depth, .start⟩

theorem VisitsOn.visitsAt (h : VisitsOn v t s next) : VisitsAt v t next := by
  obtain ⟨hnode, fuel, hvisits, hcounts⟩ := h
  exact ⟨hnode, fuel, .onward hvisits hcounts⟩

theorem exists_visitedStop (h : IsProgram t) (hb : Describes isModule t v.bindings)
    (hs : VisitsAt v t s) : ∃ fuel q, VisitsWith v t fuel s ∧ VisitedStop v.bindings t fuel s q := by
  obtain ⟨hnode, fuel, hvisits⟩ := hs
  obtain ⟨q, hstop⟩ := (visitedStop_of_visits h hb hvisits).resolve_left hnode
  exact ⟨fuel, q, hvisits, hstop⟩

/-- Visiting goes on from each node to which it comes along all its ways, and along no other. -/
theorem visitsOn_iff (h : IsProgram t) (hb : Describes isModule t v.bindings) (hs : VisitsAt v t s)
    (hnode : next.node ≠ .null) : VisitsOn v t s next ↔ v.LeadsTo s next := by
  constructor
  · rintro ⟨-, fuel, -, hcounts⟩
    exact leadsTo_of_counts hcounts
  · intro hleads
    obtain ⟨fuel, q, hvisits, hstop⟩ := exists_visitedStop h hb hs
    obtain ⟨fewer, rfl⟩ := Nat.exists_eq_add_of_lt (Nat.lt_of_lt_of_le (depth_pos _) hstop.levels)
    rw [Nat.zero_add] at hvisits
    refine ⟨hnode, fewer, hvisits, counts_of_leadsTo ?_ (fun hscope => ?_) hleads⟩
    · rw [hstop.node]
      exact wellFormed_of_mem (p := .root t) visitedKids_subset h.wellFormed hstop.visited
    · rw [hstop.node] at hscope
      rw [hstop.path, scoped_of_visited h hb hstop.visited hscope]
      rfl

/-! ### What gathering comes to -/

theorem gathersAt_root (h : IsProgram t) (isModule : Bool) : GathersAt isModule t ⟨[], [], t⟩ :=
  ⟨ne_null_of_wellFormed h.wellFormed, t.depth, .empty, .start⟩

theorem exists_gatheredStop (h : IsProgram t) {last : Bindings}
    (hlast : bindingsOf isModule t = .ok last) (hs : GathersAt isModule t s) :
    ∃ fuel b q, GathersWith isModule t fuel (s, b) ∧ GatheredStop isModule t last fuel (s, b) q := by
  obtain ⟨hnode, fuel, b, hgathers⟩ := hs
  obtain ⟨q, hstop⟩ := (gatheredStop_of_gathers h hlast hgathers).resolve_left hnode
  exact ⟨fuel, b, q, hgathers, hstop⟩

/-- Gathering goes on from each node to which it comes to all the children that it goes through. -/
theorem exists_gathersAt_child (h : IsProgram t) {last : Bindings}
    (hlast : bindingsOf isModule t = .ok last) (hs : GathersAt isModule t s) {c : Child}
    (hc : c ∈ gatheredChildren s.node) (hnode : c.2 ≠ .null) :
    ∃ chain, GathersAt isModule t ⟨chain, c.1 :: s.path, c.2⟩ := by
  obtain ⟨fuel, b, q, hgathers, hstop⟩ := exists_gatheredStop h hlast hs
  obtain ⟨fewer, rfl⟩ := Nat.exists_eq_add_of_lt (Nat.lt_of_lt_of_le (depth_pos _) hstop.levels)
  rw [Nat.zero_add] at hgathers hstop
  rw [show s.node = q.node from hstop.node] at hc
  obtain ⟨⟨⟨chain, path, node⟩, b'⟩, ⟨rfl, rfl⟩, hcounts⟩ := exists_counts_of_child h hstop hc
  exact ⟨chain, hnode, fewer, b', .onward hgathers hcounts⟩

/-! ## The same scopes -/

/-- A node to which visiting comes was given a scope, if it opens one, in the chain in which visiting
comes to it. -/
theorem exists_entered (h : IsProgram t) (hb : Describes isModule t v.bindings) (hs : VisitsAt v t s)
    (hscope : isScopeKind s.node.kind = true) :
    ∃ frame, v.bindings.chain? s.path = some (frame :: s.chain) := by
  obtain ⟨_, q, -, hstop⟩ := exists_visitedStop h hb hs
  rw [hstop.node] at hscope
  have hplace := mem_places_of_visited h.wellFormed hstop.visited
  obtain ⟨frame, hframe, -⟩ := framed_of_mem h hb hplace hscope
  refine ⟨frame, ?_⟩
  rw [hstop.path, hstop.chain, scoped_of_visited h hb hstop.visited hscope,
    insideOf_of_scope hscope hframe]

/-- Visiting goes on in the chain inside a node, and to the name of a function in the one around. -/
theorem chain_of_visitsOn (h : IsProgram t) (hb : Describes isModule t v.bindings)
    (hon : VisitsOn v t s next) :
    next.chain = if namesFunctionAt t next.path then s.chain else v.bindings.within s := by
  obtain ⟨hnode, fuel, hvisits, hcounts⟩ := hon
  have hleads := leadsTo_of_counts hcounts
  obtain hnull | ⟨q, hstop⟩ := visitedStop_of_visits h hb hvisits
  · exact absurd hleads (not_leadsTo_of_null hnull)
  · obtain ⟨r, hr, hchain⟩ := (visitedStop_onward h hstop
      (scoped_of_visited h hb hstop.visited) hleads).resolve_left hnode
    rw [hr.path, namesFunctionAt_eq h (mem_places_of_visited h.wellFormed hr.visited)]
    exact hchain

/-- Both passes come to a node in the same chain, but for the name of a function. -/
theorem chain_of_both (h : IsProgram t) (hb : Describes isModule t v.bindings)
    (hbindings : bindingsOf isModule t = .ok v.bindings) (hs : VisitsAt v t s)
    (hs' : GathersAt isModule t s') (hpath : s'.path = s.path) :
    s'.node = s.node ∧
      if namesFunctionAt t s.path then
        ∃ frame, s'.chain = frame :: s.chain ∧ v.bindings.chain? s.path.tail = some s'.chain
      else s'.chain = s.chain := by
  obtain ⟨_, q, -, hstop⟩ := exists_visitedStop h hb hs
  obtain ⟨_, b, r, -, hgathered⟩ := exists_gatheredStop h hbindings hs'
  have hplace := mem_places_of_visited h.wellFormed hstop.visited
  obtain rfl : r = q := place_eq_of_path (p := .root t) h.wellFormed hgathered.place hplace
    (hgathered.path.symm.trans (hpath.trans hstop.path))
  -- What gathering had found out around the node when it came there is what it left behind.
  have hchain : s'.chain = v.bindings.entered r.outer :=
    hgathered.chain.trans (entered_congr hgathered.kept).symm
  refine ⟨hgathered.node.trans hstop.node.symm, ?_⟩
  rw [hstop.path, namesFunctionAt_eq h hplace, hchain, hstop.chain]
  split
  · rename_i hname
    obtain rfl | ⟨p, hp, c, -, rfl⟩ := parent_of_mem hstop.visited
    · cases hname
    · have hscope : isScopeKind p.node.kind = true := by
        rw [beq_iff_eq.mp (Bool.and_eq_true_iff.mp hname).1]
        exact isScopeKind_functionDeclaration
      obtain ⟨frame, hframe, -⟩ :=
        framed_of_mem h hb (mem_places_of_visited h.wellFormed hp) hscope
      have hnames : Outer.namesFunction ⟨p.path, p.node, c.1⟩ = true := hname
      refine ⟨frame, ?_, scoped_of_visited h hb hp hscope⟩
      rw [show v.bindings.entered (p.inside c).outer = v.bindings.insideOf p from rfl,
        insideOf_of_scope hscope hframe]
      simp [Place.inside, Bindings.standing, hnames]
  · rename_i hother
    exact entered_eq_standing (Bool.eq_false_iff.mpr hother)

/-- The tree of `function f(f){}`. -/
def shadowing : Tree :=
  Tree.mk "Program" 0 15 [("body", some (.list [
    Tree.mk "FunctionDeclaration" 0 15 [
      ("id", some (nameAt "f" 9 10)),
      ("params", some (.list [nameAt "f" 11 12])),
      ("body", some (Tree.mk "BlockStatement" 13 15 [("body", some (.list []))]))]]))]

theorem isProgram_shadowing : IsProgram shadowing :=
  ⟨wellFormed_of_fitsWithin (show fitsWithin 9 shadowing = true by decide +kernel), by decide +kernel⟩

end VeiledGateway.Script
