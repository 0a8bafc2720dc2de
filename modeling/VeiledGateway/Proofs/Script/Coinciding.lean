/-
  The names that are declared and the names that are renamed.

  Two recursions go through a pattern: one gathers the names that it declares, and visiting renames the
  names that it comes to.  Both are compared with the places at which the pattern binds a name.
  `renames_of_answers` says that visiting renames each of them once; beside them it goes into default
  values and calculated keys, where it finds nothing but strings as long as no name stands there.
-/
import VeiledGateway.Proofs.Script.Renaming
import VeiledGateway.Proofs.Script.Patterns

set_option autoImplicit false

namespace VeiledGateway.Script

variable {t : Tree} {p q : Place} {c : Child} {levels fuel : Nat} {v : View} {chain : Chain} {path : Path}
  {marks others : List Mark}

/-! ## Renaming the names -/

/-- A name is renamed where it stands: it is noted, and its new text is written unless that stands there
already. -/
def Place.RenamedBy (source : Text) (d : Context) (q : Place) (marks : List Mark) : Prop :=
  ∃ name range tok, q.node.name? = some name ∧ rangeOf q.node = .ok range ∧
    d.identifiers.value? name = some tok ∧
    marks = .renamed name
      :: ((editIfNew source range (q.written name tok)).map (Mark.edit range)).toList

/-- A string in what the patterns from a place on calculate gets another text. -/
def InAside (levels : Nat) (p : Place) (m : Mark) : Prop :=
  ∃ q ∈ placesFrom allKids levels p, q.outer.any Outer.isAside = true ∧
    ∃ range text, m = .edit range text ∧ rangeOf q.node = .ok range ∧
      (stringValue? q.node).isSome = true

/-- Marks rename the names at places, each of them once, and what else they do is `stray`. -/
def Renames (source : Text) (d : Context) (stray : Mark → Prop) (names : List Place)
    (marks : List Mark) : Prop :=
  ∃ lists others, List.Forall₂ (Place.RenamedBy source d) names lists ∧
    marks.Perm (lists.flatten ++ others) ∧ ∀ m ∈ others, stray m

namespace Renames

variable {source : Text} {d : Context} {stray weaker : Mark → Prop} {names more : List Place}

theorem strays (h : ∀ m ∈ marks, stray m) : Renames source d stray [] marks :=
  ⟨[], marks, .nil, .refl _, h⟩

theorem one (h : q.RenamedBy source d marks) : Renames source d stray [q] marks :=
  ⟨[marks], [], .cons h .nil, by simp, nofun⟩

theorem mono (h : Renames source d stray names marks) (hweaker : ∀ m, stray m → weaker m) :
    Renames source d weaker names marks := by
  obtain ⟨lists, rest, hlists, hperm, hrest⟩ := h
  exact ⟨lists, rest, hlists, hperm, fun m hm => hweaker m (hrest m hm)⟩

theorem append (h : Renames source d stray names marks) (h' : Renames source d stray more others) :
    Renames source d stray (names ++ more) (marks ++ others) := by
  obtain ⟨lists, rest, hlists, hperm, hrest⟩ := h
  obtain ⟨lists', rest', hlists', hperm', hrest'⟩ := h'
  refine ⟨lists ++ lists', rest ++ rest', List.rel_append hlists hlists', ?_, ?_⟩
  · refine (hperm.append hperm').trans ?_
    rw [List.flatten_append, List.append_assoc, List.append_assoc]
    refine List.Perm.append_left _ ?_
    rw [← List.append_assoc, ← List.append_assoc]
    exact List.perm_append_comm.append_right _
  · exact fun m hm => (List.mem_append.mp hm).elim (hrest m) (hrest' m)

/-- The names that are noted are those at the places. -/
theorem mem_iff (h : Renames source d stray names marks)
    (hstray : ∀ m, stray m → ∀ name, m ≠ .renamed name) (name : Text) :
    .renamed name ∈ marks ↔ ∃ q ∈ names, q.node.name? = some name := by
  obtain ⟨lists, rest, hlists, hperm, hrest⟩ := h
  rw [hperm.mem_iff, List.mem_append, or_iff_left fun hm => hstray _ (hrest _ hm) name rfl]
  clear hperm
  induction hlists with
  | nil => simp
  | @cons q list names lists hq _ ih =>
    rw [List.flatten_cons, List.mem_append, ih, List.exists_mem_cons_iff]
    refine or_congr_left ?_
    obtain ⟨other, range, tok, hname, -, -, rfl⟩ := hq
    rw [hname]
    cases editIfNew source range (q.written other tok) <;> simp [eq_comm]

end Renames

theorem not_renamed_of_inAside {m : Mark} (h : InAside levels p m) (name : Text) :
    m ≠ .renamed name := by
  obtain ⟨q, -, -, range, text, rfl, -⟩ := h
  exact nofun

theorem InAside.outwards {m : Mark} (hc : c ∈ children p.node) (h : InAside levels (p.inside c) m) :
    InAside (levels + 1) p m := by
  obtain ⟨q, hq, haside⟩ := h
  exact ⟨q, mem_placesFrom_succ.mpr (.inr ⟨c, hc, hq⟩), haside⟩

variable {d : Context}

/-- In what a pattern calculates only strings are marked. -/
theorem inAside_of_markedFrom (hnameless : NamelessAside levels p)
    (haside : p.outer.any Outer.isAside = true) (h : MarkedFrom levels p marks) :
    ∀ m ∈ marks, InAside levels p m := by
  intro m hm
  obtain ⟨q, hq, hat⟩ := h m hm
  have hany : q.outer.any Outer.isAside = true := by
    obtain ⟨o, ho, hside⟩ := List.any_eq_true.mp haside
    exact List.any_eq_true.mpr ⟨o, (outer_suffix_of_mem hq).subset ho, hside⟩
  have hnot := hnameless q hq hany
  cases m with
  | renamed name => exact absurd hat hnot
  | edit range text => exact ⟨q, hq, hany, range, text, rfl, hat.1, hat.2.resolve_left hnot⟩

/-- All that is asked of a pattern whose names visiting is to rename. -/
structure Ready (v : View) (chain : Chain) (levels : Nat) (p : Place) : Prop where
  wellFormed : WellFormed p.node
  deep : p.node.depth ≤ levels
  binds : BindsWithin levels p
  nameless : NamelessAside levels p
  owned : ∀ name ∈ boundNames levels p, v.isLocal chain name = true

theorem Ready.inside (h : Ready v chain (levels + 1) p) (hkind : p.node.kind ≠ "Identifier")
    (hc : c ∈ patternKids p) : Ready v chain levels (p.inside c) where
  wellFormed := h.wellFormed.inside (mem_children_of_patternKids hc)
  deep := Nat.le_of_lt_succ
    (Nat.lt_of_lt_of_le (depth_lt_of_mem_children (mem_children_of_patternKids hc)) h.deep)
  binds := h.binds.inside hc
  nameless := h.nameless.inside (mem_children_of_patternKids hc)
  owned := by
    intro name hname
    refine h.owned name ?_
    rw [boundNames_of_other hkind]
    exact List.mem_flatMap.mpr ⟨c, hc, hname⟩

/-- A name that visiting comes to by itself is renamed. -/
theorem renamedBy_of_name (h : Ready v chain (levels + 1) p) (hkind : p.node.kind = "Identifier")
    (hplain : p.isShorthandName = false) (hmarks : d.Answers (visitName v chain p.node) marks) :
    p.RenamedBy v.source d marks := by
  have hfits := h.wellFormed.fits
  obtain ⟨name, -, hname, -⟩ := hfits.exists_name hkind
  obtain ⟨range, hrange⟩ := hfits.exists_range (.inl hkind)
  have hrenamed := of_answers_visitName hfits hkind hname hrange hmarks
  rw [if_pos (h.owned name (mem_boundNames_self hfits hkind hname))] at hrenamed
  obtain ⟨tok, htok, hmade⟩ := hrenamed
  refine ⟨name, range, tok, hname, hrange, htok, ?_⟩
  rw [hmade, Place.written, if_neg (by simp [hplain])]

/-- A name that is the key of its property too is renamed. -/
theorem renamedBy_of_shorthand (h : Ready v chain (levels + 1) p) (hkind : p.node.kind = "Identifier")
    (hshorthand : p.isShorthandName = true)
    (hmarks : d.Answers (visitShorthand v chain p.node) marks) : p.RenamedBy v.source d marks := by
  have hfits := h.wellFormed.fits
  obtain ⟨name, -, hname, -⟩ := hfits.exists_name hkind
  obtain ⟨range, hrange⟩ := hfits.exists_range (.inl hkind)
  have hrenamed := of_answers_visitShorthand hname hrange hmarks
  rw [if_pos (h.owned name (mem_boundNames_self hfits hkind hname))] at hrenamed
  obtain ⟨tok, htok, hmade⟩ := hrenamed
  refine ⟨name, range, tok, hname, hrange, htok, ?_⟩
  rw [hmade, Place.written, if_pos hshorthand]

/-- Visiting with so many levels renames the names of patterns. -/
def RenamesWithin (v : View) (d : Context) (chain : Chain) (fuel : Nat) : Prop :=
  ∀ {levels : Nat} {path : Path} {p : Place} {marks : List Mark}, Ready v chain levels p →
    p.node.depth ≤ fuel → Plain v p → d.Answers (visit v fuel chain path p.node) marks →
    Renames v.source d (InAside levels p) (bindersFrom levels p) marks

theorem answers_visitEach {visitor : Visitor} {cs : List Child} :
    d.Answers (visitEach visitor chain path cs) marks ↔
      ∃ lists, List.Forall₂ (fun c list => d.Answers (visitor chain (c.1 :: path) c.2) list) cs lists ∧
        lists.flatten = marks := by
  rw [visitEach, Context.answers_bind]
  simp only [Context.answers_mapM, Context.answers_pure]

section Visiting

variable (within : RenamesWithin v d chain fuel) (h : Ready v chain (levels + 1) p)
  (hfuel : p.node.depth ≤ fuel + 1)
include within h hfuel

/-- Among children that are parts or asides, the names of the parts are renamed. -/
theorem renames_of_visitEach {cs : List Child} (hkind : p.node.kind ≠ "Identifier")
    (hcs : ∀ c ∈ cs, c ∈ children p.node)
    (hplain : ∀ c ∈ cs, Outer.isPattern ⟨p.path, p.node, c.1⟩ = true → Plain v (p.inside c))
    (hside : ∀ c ∈ cs, Outer.isPattern ⟨p.path, p.node, c.1⟩ = false →
      Outer.isAside ⟨p.path, p.node, c.1⟩ = true)
    (hmarks : d.Answers (visitEach (visit v fuel) chain path cs) marks) :
    Renames v.source d (InAside (levels + 1) p)
      ((cs.filter fun c => Outer.isPattern ⟨p.path, p.node, c.1⟩).flatMap fun c =>
        bindersFrom levels (p.inside c)) marks := by
  obtain ⟨lists, hlists, rfl⟩ := answers_visitEach.mp hmarks
  clear hmarks
  induction hlists with
  | nil => exact .strays nofun
  | @cons c list cs lists hlist _ ih =>
    have hrest := ih (fun d hd => hcs d (List.mem_cons_of_mem _ hd))
      (fun d hd => hplain d (List.mem_cons_of_mem _ hd))
      (fun d hd => hside d (List.mem_cons_of_mem _ hd))
    have hchild := hcs c List.mem_cons_self
    have hlt := depth_lt_of_mem_children hchild
    cases hpattern : Outer.isPattern ⟨p.path, p.node, c.1⟩ with
    | true =>
      simp only [List.filter_cons, hpattern, if_true, List.flatMap_cons, List.flatten_cons]
      have hkid : c ∈ patternKids p := List.mem_filter.mpr ⟨hchild, hpattern⟩
      refine Renames.append ?_ hrest
      refine (within (p := p.inside c) (h.inside hkind hkid) ?_ (hplain c List.mem_cons_self hpattern)
        hlist).mono fun m hm => hm.outwards hchild
      exact Nat.le_of_lt_succ (Nat.lt_of_lt_of_le hlt hfuel)
    | false =>
      simp only [List.filter_cons, hpattern, Bool.false_eq_true, if_false, List.flatten_cons]
      rw [← List.nil_append (List.flatMap _ _)]
      refine Renames.append (.strays fun m hm => ?_) hrest
      have hmarked := hlist.post (markedFrom_visit v fuel (p := p.inside c)
        (h.wellFormed.inside hchild) (Nat.le_of_lt_succ (Nat.lt_of_lt_of_le hlt h.deep))).yields
      refine (inAside_of_markedFrom (h.nameless.inside hchild) ?_ hmarked m hm).outwards hchild
      exact List.any_eq_true.mpr ⟨_, List.mem_cons_self, hside c List.mem_cons_self hpattern⟩

/-- Patterns whose parts are all their children, and a name with what stands for it when it is missing. -/
theorem renames_of_children (hplain : Plain v p)
    (hkind : p.node.kind ∈ ["ObjectPattern", "ArrayPattern", "RestElement", "AssignmentPattern"])
    (hmarks : d.Answers (visitInside v (visit v fuel) chain path p.node) marks) :
    Renames v.source d (InAside (levels + 1) p) (bindersFrom (levels + 1) p) marks := by
  have hstep : ∀ c ∈ children p.node, Outer.isPattern ⟨p.path, p.node, c.1⟩ = false →
      Outer.isAside ⟨p.path, p.node, c.1⟩ = true := by
    intro c hc hnot
    simp only [List.mem_cons, List.not_mem_nil, or_false] at hkind
    obtain hkind | hkind | hkind | hkind := hkind
    · simp [Outer.isPattern, hkind] at hnot
    · simp [Outer.isPattern, hkind] at hnot
    · simp [Outer.isPattern, hkind] at hnot
    · obtain hleft | hright := inSlot_of_two h.wellFormed.fits hc hkind
        (show slotsOf "AssignmentPattern"
          = [("left", .one targetKinds), ("right", .one expressionKinds)] from rfl)
      · have hfield := step_of_mem_slotChildren hleft.2
        simp [Outer.isPattern, hkind, hfield, Text.eqString] at hnot
      · have hfield := step_of_mem_slotChildren hright.2
        simp [Outer.isAside, hkind, hfield, Text.eqString]
  have hvisit : visitInside v (visit v fuel) chain path p.node
      = visitEach (visit v fuel) chain path (children p.node) := by
    simp only [List.mem_cons, List.not_mem_nil, or_false] at hkind
    obtain hkind | hkind | hkind | hkind := hkind <;>
      simp [visitInside, visitedChildren, hkind, untouchedKinds]
  have hnot : p.node.kind ≠ "Identifier" ∧ p.node.kind ≠ "Property" ∧ p.node.kind ≠ "CallExpression" := by
    simp only [List.mem_cons, List.not_mem_nil, or_false] at hkind
    obtain hkind | hkind | hkind | hkind := hkind <;> rw [hkind] <;> decide
  obtain ⟨hname, hproperty, hcall⟩ := hnot
  rw [hvisit] at hmarks
  rw [bindersFrom_of_other hname]
  refine renames_of_visitEach within h hfuel hname (fun _ hc => hc) (fun c _ _ => ?_) hstep hmarks
  exact plain_inside hplain (by simp [Outer.isShorthand, Tree.isKind, hproperty]) hcall

/-- A property whose key and value are written apart. -/
theorem renames_of_property (hplain : Plain v p) (hkind : p.node.kind = "Property")
    (hapart : (part? p.node "shorthand").isSome = false)
    (hmarks : d.Answers (visitEach (visit v fuel) chain path
      (computedChild p.node "key" ++ child p.node "value")) marks) :
    Renames v.source d (InAside (levels + 1) p) (bindersFrom (levels + 1) p) marks := by
  have hfits := h.wellFormed.fits
  obtain ⟨value, hvalue, -, -, hkids⟩ :=
    exists_patternKid h.wellFormed "value" (by rw [hkind]; decide)
  have hfilter : (computedChild p.node "key" ++ child p.node "value").filter
      (fun c => Outer.isPattern ⟨p.path, p.node, c.1⟩) = patternKids p := by
    have hkey : (computedChild p.node "key").filter
        (fun c => Outer.isPattern ⟨p.path, p.node, c.1⟩) = [] := by
      refine List.filter_eq_nil_iff.mpr fun c hc => ?_
      have hfield : Text.eqString c.1.1 "value" = false :=
        eqString_step_of_child (mem_child_of_computed hc) (by decide)
      simp [Outer.isPattern, hkind, hfield]
    rw [List.filter_append, hkey, List.nil_append, hkids, child, hvalue]
    exact List.filter_cons_of_pos (by simp [Outer.isPattern, hkind, Text.eqString])
  rw [bindersFrom_of_other (by rw [hkind]; decide), ← hfilter]
  refine renames_of_visitEach within h hfuel (by rw [hkind]; decide) (fun c hc => ?_) (fun c _ _ => ?_)
    (fun c hc hnot => ?_) hmarks
  · obtain hc | hc := List.mem_append.mp hc
    · exact (hfits.of_child_one (slot_mem hkind rfl) (mem_child_of_computed hc)).2
    · exact (hfits.of_child_one (slot_mem hkind rfl) hc).2
  · exact plain_inside hplain (by simp [Outer.isShorthand, hapart]) (by rw [hkind]; decide)
  · obtain hc | hc := List.mem_append.mp hc
    · simp [Outer.isAside, hkind, eqString_of_child (mem_child_of_computed hc), not_mere_of_computed hc]
    · simp [Outer.isPattern, hkind, eqString_of_child hc] at hnot

/-- A name that is the key of its property too, with what stands for its value when that is missing. -/
theorem renames_of_shorthandDefault {left : Tree} (hkind : p.node.kind = "AssignmentPattern")
    (hvalue : p.isShorthandValue = true) (hleft : p.node.get? "left" = some left)
    (hname : left.kind = "Identifier")
    (hmarks : d.Answers (do
      let name ← visitShorthand v chain ((p.node.get? "left").getD .null)
      let default ← visitEach (visit v fuel) chain path (child p.node "right")
      return name ++ default) marks) :
    Renames v.source d (InAside (levels + 1) p) (bindersFrom (levels + 1) p) marks := by
  have hfits := h.wellFormed.fits
  obtain ⟨node, hnode, -, -, hkids⟩ :=
    exists_patternKid h.wellFormed "left" (by rw [hkind]; decide)
  obtain rfl := Option.some.inj (hleft.symm.trans hnode)
  have hkid : ((Text.ofString "left", 0), left) ∈ patternKids p := hkids ▸ List.mem_singleton.mpr rfl
  have hready := h.inside (by rw [hkind]; decide) hkid
  obtain ⟨fewer, rfl, -⟩ := exists_fewer (mem_children_of_patternKids hkid) h.deep
  have hshorthand : (p.inside ((Text.ofString "left", 0), left)).isShorthandName = true := by
    have houter : p.outer.head?.any Outer.isShorthand = true := hvalue
    simp [Place.isShorthandName, Place.inside, Tree.isKind, hkind, houter, Text.eqString]
  obtain ⟨first, hfirst, hmarks⟩ := Context.answers_bind.mp hmarks
  obtain ⟨rest, hrest, hmarks⟩ := Context.answers_bind.mp hmarks
  obtain rfl := Context.answers_pure.mp hmarks
  rw [hleft] at hfirst
  rw [bindersFrom_of_other (by rw [hkind]; decide), hkids, List.flatMap_singleton,
    bindersFrom_of_name (p := p.inside ((Text.ofString "left", 0), left)) hready.wellFormed.fits hname]
  -- the default value is no part of the pattern
  have hnone : (child p.node "right").filter (fun c => Outer.isPattern ⟨p.path, p.node, c.1⟩) = [] := by
    refine List.filter_eq_nil_iff.mpr fun c hc => ?_
    have hfield : Text.eqString c.1.1 "left" = false := eqString_step_of_child hc (by decide)
    simp [Outer.isPattern, hkind, hfield]
  have hdefault := renames_of_visitEach within h hfuel (by rw [hkind]; decide)
    (fun c hc => (hfits.of_child_one (slot_mem hkind rfl) hc).2)
    (fun c hc hpattern => absurd hpattern (List.filter_eq_nil_iff.mp hnone c hc))
    (fun c hc _ => by simp [Outer.isAside, hkind, eqString_of_child hc]) hrest
  rw [hnone] at hdefault
  exact (Renames.one (renamedBy_of_shorthand hready hname hshorthand hfirst)).append hdefault

/-- A property whose key is its value too. -/
theorem renames_of_shorthand (hkind : p.node.kind = "Property")
    (hshorthand : (part? p.node "shorthand").isSome = true)
    (hmarks : d.Answers (visitShorthandValue v (visit v fuel) chain path
      ((part? p.node "value").getD (.object []))) marks) :
    Renames v.source d (InAside (levels + 1) p) (bindersFrom (levels + 1) p) marks := by
  obtain ⟨value, hvalue, hpart, hwell, hform⟩ := exists_shorthandValue h.wellFormed hkind hshorthand
  obtain ⟨node, hnode, -, -, hkids⟩ :=
    exists_patternKid h.wellFormed "value" (by rw [hkind]; decide)
  obtain rfl := Option.some.inj (hvalue.symm.trans hnode)
  have hkid : ((Text.ofString "value", 0), value) ∈ patternKids p := hkids ▸ List.mem_singleton.mpr rfl
  have hchild := mem_children_of_patternKids hkid
  have hready := h.inside (by rw [hkind]; decide) hkid
  obtain ⟨fewer, rfl, hdepth⟩ := exists_fewer hchild h.deep
  have hisValue : (p.inside ((Text.ofString "value", 0), value)).isShorthandValue = true := by
    simp [Place.isShorthandValue, Place.inside, Outer.isShorthand, Tree.isKind, hkind, hshorthand,
      Text.eqString]
  rw [hpart, Option.getD_some, visitShorthandValue] at hmarks
  rw [bindersFrom_of_other (by rw [hkind]; decide), hkids, List.flatMap_singleton]
  have hinside : Renames v.source d (InAside (fewer + 1) (p.inside ((Text.ofString "value", 0), value)))
      (bindersFrom (fewer + 1) (p.inside ((Text.ofString "value", 0), value))) marks := by
    obtain hname | ⟨hassignment, left, hleft, -, hleftName⟩ := hform
    · rw [if_neg (by simp [Tree.isKind, hname])] at hmarks
      rw [bindersFrom_of_name (p := p.inside ((Text.ofString "value", 0), value)) hwell.fits hname]
      refine .one (renamedBy_of_shorthand hready hname ?_ hmarks)
      exact Bool.or_eq_true_iff.mpr (.inl hisValue)
    · rw [if_pos (show value.isKind "AssignmentPattern" = true from beq_iff_eq.mpr hassignment)]
        at hmarks
      exact renames_of_shorthandDefault within hready
        (Nat.le_of_lt (Nat.lt_of_lt_of_le (depth_lt_of_mem_children hchild) hfuel))
        hassignment hisValue hleft hleftName hmarks
  exact hinside.mono fun m hm => hm.outwards hchild

/-- A part of a pattern: a name, a property, or a pattern with parts of its own. -/
theorem renames_of_part (hplain : Plain v p)
    (hmarks : d.Answers (visitInside v (visit v fuel) chain path p.node) marks) :
    Renames v.source d (InAside (levels + 1) p) (bindersFrom (levels + 1) p) marks := by
  have hkind := h.binds.kind
  rw [patternKinds, List.mem_cons, List.mem_cons] at hkind
  obtain hkind | hkind | hkind := hkind
  · simp only [visitInside, hkind] at hmarks
    split at hmarks
    · rename_i hshorthand
      exact renames_of_shorthand within h hfuel hkind hshorthand hmarks
    · rename_i hapart
      exact renames_of_property within h hfuel hplain hkind (Bool.eq_false_iff.mpr hapart) hmarks
  · simp only [visitInside, hkind] at hmarks
    rw [bindersFrom_of_name h.wellFormed.fits hkind]
    exact .one (renamedBy_of_name h hkind hplain.name hmarks)
  · refine renames_of_children within h hfuel hplain ?_ hmarks
    simp only [List.mem_cons, List.not_mem_nil, or_false] at hkind ⊢
    tauto

end Visiting

/-- Patterns open no scopes. -/
theorem not_scope_of_pattern {kind : String} (h : kind ∈ "Property" :: patternKinds) :
    isScopeKind kind = false := by
  have htable : ∀ kind ∈ "Property" :: patternKinds, isScopeKind kind = false := by decide
  exact htable kind h

/-- Visiting a pattern renames each of its names once. -/
theorem renames_of_answers (v : View) (d : Context) (chain : Chain) (fuel : Nat) :
    RenamesWithin v d chain fuel := by
  induction fuel with
  | zero =>
    intro levels path p marks _ hfuel
    exact absurd (depth_pos p.node) (by omega)
  | succ fuel ih =>
    intro levels path p marks h hfuel hplain hmarks
    obtain ⟨levels, rfl⟩ : ∃ fewer, levels = fewer + 1 :=
      ⟨levels - 1, by have := depth_pos p.node; have := h.deep; omega⟩
    rw [visit, h.wellFormed.fits.isTruthy, not_scope_of_pattern h.binds.kind] at hmarks
    exact renames_of_part ih h hfuel hplain hmarks

/-! ## The whole pattern -/

theorem ne_nil_of_mem_boundNames {name : Text} (h : WellFormed p.node)
    (hname : name ∈ boundNames levels p) : name ≠ [] := by
  obtain ⟨q, hq, hread⟩ := List.mem_filterMap.mp hname
  obtain ⟨other, hne, hother, -⟩ :=
    (wellFormed_of_mem_bindersFrom h hq).fits.exists_name (mem_bindersFrom hq).2
  rwa [Option.some.inj (hread.symm.trans hother)]

theorem mem_renamedIn {name : Text} : name ∈ renamedIn marks ↔ .renamed name ∈ marks := by
  rw [renamedIn, List.mem_eraseDups, List.mem_filterMap]
  constructor
  · rintro ⟨m, hm, hname⟩
    cases m with
    | renamed other =>
      cases hname
      exact hm
    | edit range text => cases hname
  · exact fun hm => ⟨_, hm, rfl⟩

/-- A name that has a value for when it is missing. -/
def defaultAt (name : Text) (start : Nat) (value : Tree) (stop : Nat) : Tree :=
  Tree.mk "AssignmentPattern" start stop [
    ("left", some (nameAt name start (start + name.length))), ("right", some value)]

/-- A property whose key is its value too, at the beginning of a pattern. -/
def shorthandOf (value : Tree) (stop : Nat) : Tree :=
  Tree.mk "Property" 1 stop [
    ("key", some (nameAt "p" 1 2)), ("value", some value), ("shorthand", some (.bool true))]

/-- The pattern `{p, [1]: [, q = 2, ...r]}`. -/
def nestedPattern : Tree :=
  Tree.mk "ObjectPattern" 0 25 [("properties", some (.list [
    shorthandOf (nameAt "p" 1 2) 2,
    Tree.mk "Property" 4 24 [
      ("key", some (Tree.mk "Literal" 5 6 [("value", some (.int 1))])),
      ("computed", some (.bool true)),
      ("value", some (Tree.mk "ArrayPattern" 9 24 [("elements", some (.list [
        .null,
        defaultAt "q" 12 (Tree.mk "Literal" 16 17 [("value", some (.int 2))]) 17,
        Tree.mk "RestElement" 19 23 [("argument", some (nameAt "r" 22 23))]]))]))]]))]

def nestedSource : Text :=
  "\x7bp, [1]: [, q = 2, ...r]\x7d"

/-- A view of a source in which one function declares three names, and the chain of its scope. -/
def threeNames (source : Text) : View :=
  viewOf .default source ⟨[], [(0, "p"), (0, "q"), (0, "r")], []⟩

def inFunction : Chain :=
  [⟨0, true, false⟩]

/-- The pattern `{p = "hello world"}`. -/
def greetingPattern : Tree :=
  Tree.mk "ObjectPattern" 0 19 [("properties", some (.list [
    shorthandOf (defaultAt "p" 1 (stringAt "hello world" 5) 18) 18]))]

def greetingSource : Text :=
  "\x7bp = \"hello world\"\x7d"

/-- A session in which the name `p` has the token `q`, and a greeting is cut already. -/
def greetedBefore : Context :=
  .ofMappings ""
    { Mappings.empty with identifiers := [("p", "q")], textChunks := [("hello world", "33311")] }
    (Twister.ofSeed 0)

end VeiledGateway.Script
