/-
  What visiting marks.

  What is done at a place gives that place another text, and no other.  In a script whose names and
  literals lie apart each of them can therefore be looked at for itself, and no edit stands in the way
  of another: `lookup_editsIn` gives the edit of a name, and `ensures_rewriteTree` says that the
  rewriting of a script fails only for want of a token or of a layout.

  Whatever the scopes of a script are taken to be, visiting a tree comes to an end, and marks no place
  but the names and strings of that tree.  Other than `visit_eq_actsFrom` the last section does not ask
  for the scopes that were gathered.
-/
import Mathlib.Data.List.Pairwise
import VeiledGateway.Proofs.Context.Answering
import VeiledGateway.Proofs.Edits.Applying
import VeiledGateway.Proofs.Script.Reaching

set_option autoImplicit false

namespace VeiledGateway.Script

/-! ## The ranges of names and literals -/

/-- The range of a name or a literal, whose text visiting may replace. -/
def Place.textRange? (p : Place) : Option Range :=
  if p.isName || p.node.isKind "Literal" then (rangeOf p.node).toOption else none

/-- The ranges of all names and literals of a tree. -/
def textRanges (t : Tree) : List Range :=
  (places t).filterMap Place.textRange?

/-- The names and the literals of a tree lie apart in its source. -/
structure Spaced (t : Tree) : Prop where
  proper : ∀ range ∈ textRanges t, range.IsProper
  apart : (textRanges t).Pairwise Range.Apart

instance (t : Tree) : Decidable (Spaced t) :=
  decidable_of_iff
    ((∀ range ∈ textRanges t, range.IsProper) ∧ (textRanges t).Pairwise Range.Apart)
    ⟨fun ⟨proper, apart⟩ => ⟨proper, apart⟩, fun ⟨proper, apart⟩ => ⟨proper, apart⟩⟩

theorem Fits.exists_range {t : Tree} (h : Fits t) (hkind : t.kind = "Identifier" ∨ t.kind = "Literal") :
    ∃ range, rangeOf t = .ok range := by
  have hok := h.ranged hkind
  cases hrange : rangeOf t with
  | error fault => simp [hrange, Except.isOk, Except.toBool] at hok
  | ok range => exact ⟨range, rfl⟩

variable {t : Tree} {p q : Place} {range : Range}

theorem textRange?_of_name (hname : p.isName = true) (hrange : rangeOf p.node = .ok range) :
    p.textRange? = some range := by
  rw [Place.textRange?, hname, hrange]
  rfl

theorem textRange?_of_literal (hkind : p.node.kind = "Literal") (hrange : rangeOf p.node = .ok range) :
    p.textRange? = some range := by
  rw [Place.textRange?, Tree.isKind, hkind, hrange]
  simp [Except.toOption]

namespace Spaced

variable (h : Spaced t)
include h

/-- Two names or literals with one range are one. -/
theorem place_eq (hp : p ∈ places t) (hq : q ∈ places t) (hpr : p.textRange? = some range)
    (hqr : q.textRange? = some range) : p = q := by
  by_contra hne
  have hproper : range.IsProper := h.proper range (List.mem_filterMap.mpr ⟨p, hp, hpr⟩)
  have hpairwise := List.pairwise_filterMap.mp h.apart
  have : Std.Symm fun a b : Place => ∀ r, a.textRange? = some r → ∀ s, b.textRange? = some s →
      r.Apart s := ⟨fun a b hab r hr s hs => (hab s hs r hr).symm⟩
  exact (hpairwise.forall hp hq hne range hpr range hqr).ne hproper rfl

theorem apart_of_ne {other : Range} (hr : range ∈ textRanges t) (hs : other ∈ textRanges t)
    (hne : range ≠ other) : range.Apart other :=
  h.apart.forall hr hs hne

end Spaced

/-! ## What is marked at a place -/

/-- Only the text of one range is replaced. -/
def OnlyAt (range : Range) (marks : List Mark) : Prop :=
  ∀ other text, .edit other text ∈ marks → other = range

/-- Only texts of names and literals are replaced. -/
def OnlyText (t : Tree) (marks : List Mark) : Prop :=
  ∀ range text, .edit range text ∈ marks → range ∈ textRanges t

variable {v : View}

theorem ensures_editTo {node : Tree} (hrange : rangeOf node = .ok range) (text : Text) :
    (editTo v node text).Ensures (OnlyAt range) := by
  refine (Rewriting.ensures_ofExcept (· = range) hrange rfl).bind fun other hother => ?_
  subst hother
  refine Rewriting.ensures_pure fun r s hmark => ?_
  split at hmark
  · cases hmark
  · cases List.mem_singleton.mp hmark
    rfl

theorem ensures_selected (settings : Settings) (sign : CodePoint) (name : Text) :
    (if sign == '#' then Rewriting.elementId name
      else Rewriting.className settings name).Ensures fun _ => True := by
  split
  · exact Rewriting.ensures_elementId name
  · exact Rewriting.ensures_className settings name

theorem onlyAt_nil : OnlyAt range [] :=
  fun _ _ h => absurd h List.not_mem_nil

theorem OnlyAt.renamed {marks : List Mark} (h : OnlyAt range marks) (name : Text) :
    OnlyAt range (.renamed name :: marks) := by
  intro other text hmark
  obtain hmark | hmark := List.mem_cons.mp hmark
  · cases hmark
  · exact h other text hmark

theorem ensures_visitName {chain : Chain} {node : Tree} (h : Fits node)
    (hkind : node.kind = "Identifier") (hrange : rangeOf node = .ok range) :
    (visitName v chain node).Ensures (OnlyAt range) := by
  obtain ⟨name, -, -, hname⟩ := h.exists_name hkind
  refine (Rewriting.ensures_ofExcept (fun _ => True) hname trivial).bind fun other _ => ?_
  split
  · refine (Rewriting.ensures_identifier other).bind fun tok _ => ?_
    exact (ensures_editTo hrange tok).bind fun marks hmarks =>
      Rewriting.ensures_pure (hmarks.renamed other)
  · exact Rewriting.ensures_pure onlyAt_nil

theorem ensures_visitShorthand {chain : Chain} {node : Tree} (hrange : rangeOf node = .ok range) :
    (visitShorthand v chain node).Ensures (OnlyAt range) := by
  unfold visitShorthand
  split
  · rename_i name _
    split
    · refine (Rewriting.ensures_identifier name).bind fun tok _ => ?_
      exact (ensures_editTo hrange _).bind fun marks hmarks =>
        Rewriting.ensures_pure (hmarks.renamed name)
    · exact Rewriting.ensures_pure onlyAt_nil
  · exact Rewriting.ensures_pure onlyAt_nil

/-- What holds of every edit of the argument of a call, holds of what is done to it there. -/
theorem ensures_lookupArgument?_of_editTo {callee argument : Tree} {marks : Rewriting (List Mark)}
    {post : List Mark → Prop} (hedit : ∀ text, (editTo v argument text).Ensures post)
    (h : lookupArgument? v callee argument = some marks) : marks.Ensures post := by
  unfold lookupArgument? at h
  split at h
  · split at h
    · cases h
      exact (Rewriting.ensures_elementId _).bind fun tok _ => hedit _
    · split at h
      · split at h
        · cases h
          exact (ensures_selected _ _ _).bind fun tok _ => hedit _
        · cases h
      · cases h
  · cases h

theorem ensures_lookupArgument? {callee argument : Tree} {marks : Rewriting (List Mark)}
    (hrange : rangeOf argument = .ok range) (h : lookupArgument? v callee argument = some marks) :
    marks.Ensures (OnlyAt range) :=
  ensures_lookupArgument?_of_editTo (ensures_editTo hrange) h

/-- What holds of every edit of a string, and of none, holds of what is done to it where it stands by
itself. -/
theorem ensures_visitString_of_editTo {node : Tree} {post : List Mark → Prop} (hnil : post [])
    (hedit : ∀ text, (editTo v node text).Ensures post) : (visitString v node).Ensures post := by
  unfold visitString
  split
  · exact Rewriting.ensures_pure hnil
  · rename_i value _
    split
    · exact Rewriting.ensures_pure hnil
    · split
      · exact Rewriting.ensures_pure hnil
      · split
        · exact (Rewriting.ensures_className _ value).bind fun tok _ => hedit _
        · exact (Rewriting.ensures_textPieces value).bind fun parts _ => hedit _

theorem ensures_visitString {node : Tree} (hrange : rangeOf node = .ok range) :
    (visitString v node).Ensures (OnlyAt range) :=
  ensures_visitString_of_editTo onlyAt_nil (ensures_editTo hrange)

/-- At a name or a literal only its own text is replaced. -/
theorem ensures_actAt (h : Fits p.node) (hrange : rangeOf p.node = .ok range) :
    (actAt v p).Ensures (OnlyAt range) := by
  unfold actAt
  split
  · rename_i hkind
    split
    · exact ensures_visitShorthand hrange
    · exact ensures_visitName h hkind hrange
  · unfold Place.lookup?
    split
    · exact ensures_visitString hrange
    · split
      · cases hlookup : lookupArgument? v _ p.node with
        | none => exact ensures_visitString hrange
        | some marks => exact ensures_lookupArgument? hrange hlookup
      · exact ensures_visitString hrange
  · exact Rewriting.ensures_pure onlyAt_nil

/-- What is replaced at a place that visiting comes to is the text of a name or a literal. -/
theorem ensures_actAt_visited (h : IsProgram t) (hq : q ∈ visitedPlaces t) :
    (actAt v q).Ensures fun marks =>
      ∀ range text, .edit range text ∈ marks → q.textRange? = some range := by
  obtain ⟨-, hwell, -, hisName⟩ := visited_of_mem_visitedPlaces h hq
  by_cases hname : q.node.kind = "Identifier"
  · obtain ⟨range, hrange⟩ := hwell.fits.exists_range (.inl hname)
    refine (ensures_actAt hwell.fits hrange).mono fun marks hmarks other text hmark => ?_
    rw [hmarks other text hmark]
    exact textRange?_of_name (hisName hname) hrange
  · by_cases hliteral : q.node.kind = "Literal"
    · obtain ⟨range, hrange⟩ := hwell.fits.exists_range (.inr hliteral)
      refine (ensures_actAt hwell.fits hrange).mono fun marks hmarks other text hmark => ?_
      rw [hmarks other text hmark]
      exact textRange?_of_literal hliteral hrange
    · rw [actAt_of_other hname hliteral]
      exact Rewriting.ensures_pure fun _ _ hmark => absurd hmark List.not_mem_nil

/-! ## What is marked at a name -/

/-- What is written at a name that has a token; a property whose key is its value too keeps its
key. -/
def Place.written (p : Place) (name tok : Text) : Text :=
  if p.isShorthandName then name ++ (": " : Text) ++ tok else tok

/-- The edit of a range to a text, which is needed only if that is not there already. -/
def editIfNew (source : Text) (range : Range) (text : Text) : Option Text :=
  if Text.slice source range.start range.stop = text then none else some text

variable {d : Context} {marks : List Mark} {name : Text}

theorem of_answers_editTo {node : Tree} {text : Text} (hrange : rangeOf node = .ok range)
    (h : d.Answers (editTo v node text) marks) :
    marks = ((editIfNew v.source range text).map (Mark.edit range)).toList := by
  obtain ⟨other, hother, h⟩ := Context.answers_bind.mp h
  obtain rfl := Except.ok.inj ((Context.answers_ofExcept.mp hother).symm.trans hrange)
  obtain rfl := Context.answers_pure.mp h
  unfold editIfNew
  simp only [beq_iff_eq]
  split <;> rfl

/-- A name is renamed: its token is written, in the form that its place has for it. -/
theorem of_answers_rename {node : Tree} {text : Text → Text} (hrange : rangeOf node = .ok range)
    (h : d.Answers (Rewriting.identifier name >>= fun tok =>
      editTo v node (text tok) >>= fun edits => pure (.renamed name :: edits)) marks) :
    ∃ tok, d.identifiers.value? name = some tok ∧
      marks = .renamed name
        :: ((editIfNew v.source range (text tok)).map (Mark.edit range)).toList := by
  obtain ⟨_, ⟨tok, htok, rfl⟩, h⟩ := Context.answers_bind.mp h
  obtain ⟨edits, hedits, h⟩ := Context.answers_bind.mp h
  refine ⟨tok, htok, ?_⟩
  rw [← of_answers_editTo hrange hedits]
  exact (Context.answers_pure.mp h).symm

theorem of_answers_visitShorthand {chain : Chain} {node : Tree} (hname : node.name? = some name)
    (hrange : rangeOf node = .ok range) (hmarks : d.Answers (visitShorthand v chain node) marks) :
    if v.isLocal chain name then
      ∃ tok, d.identifiers.value? name = some tok ∧
        marks = .renamed name
          :: ((editIfNew v.source range (name ++ (": " : Text) ++ tok)).map (Mark.edit range)).toList
    else marks = [] := by
  rw [visitShorthand, hname] at hmarks
  dsimp only at hmarks
  split at hmarks
  · rename_i hlocal
    rw [if_pos hlocal]
    exact of_answers_rename hrange hmarks
  · rename_i hlocal
    rw [if_neg hlocal]
    exact (Context.answers_pure.mp hmarks).symm

theorem of_answers_visitName {chain : Chain} {node : Tree} (h : Fits node)
    (hkind : node.kind = "Identifier") (hname : node.name? = some name)
    (hrange : rangeOf node = .ok range) (hmarks : d.Answers (visitName v chain node) marks) :
    if v.isLocal chain name then
      ∃ tok, d.identifiers.value? name = some tok ∧
        marks = .renamed name :: ((editIfNew v.source range tok).map (Mark.edit range)).toList
    else marks = [] := by
  obtain ⟨other, -, hother, hok⟩ := h.exists_name hkind
  obtain rfl := Option.some.inj (hname.symm.trans hother)
  rw [visitName, hok] at hmarks
  obtain ⟨other, hread, hmarks⟩ := Context.answers_bind.mp hmarks
  obtain rfl : name = other := hread
  split at hmarks
  · rename_i hlocal
    rw [if_pos hlocal]
    exact of_answers_rename hrange hmarks
  · rename_i hlocal
    rw [if_neg hlocal]
    exact (Context.answers_pure.mp hmarks).symm

/-- At a name of the script alone its token is written, and at all other names nothing. -/
theorem of_answers_actAt (h : Fits p.node) (hkind : p.node.kind = "Identifier")
    (hname : p.node.name? = some name) (hrange : rangeOf p.node = .ok range)
    (hmarks : d.Answers (actAt v p) marks) :
    if v.isLocal (v.bindings.standing p.outer) name then
      ∃ tok, d.identifiers.value? name = some tok ∧
        marks = .renamed name
          :: ((editIfNew v.source range (p.written name tok)).map (Mark.edit range)).toList
    else marks = [] := by
  by_cases hshorthand : p.isShorthandName = true
  · rw [actAt_shorthand hkind hshorthand] at hmarks
    simp only [Place.written, hshorthand, if_true]
    exact of_answers_visitShorthand hname hrange hmarks
  · have hplain := Bool.eq_false_iff.mpr hshorthand
    rw [actAt_name hkind hplain] at hmarks
    simp only [Place.written, hplain, Bool.false_eq_true, if_false]
    exact of_answers_visitName h hkind hname hrange hmarks

/-! ## What is marked in a script -/

theorem mem_edits_iff {text : Text} {marks : List Mark} :
    (range, text) ∈ marks.filterMap (fun mark => match mark with
      | .edit range text => some (range, text)
      | .renamed _ => none) ↔ .edit range text ∈ marks := by
  rw [List.mem_filterMap]
  constructor
  · rintro ⟨mark, hmark, hedit⟩
    cases mark with
    | renamed name => cases hedit
    | edit r s =>
      cases hedit
      exact hmark
  · exact fun hmark => ⟨_, hmark, rfl⟩

section Whole

variable {isModule : Bool} (h : IsProgram t) (hspaced : Spaced t)
  (hb : Describes isModule t v.bindings)
include h hspaced hb

/-- The edits of a range are those of the name or the literal there. -/
theorem edit_mem_iff (hmarks : d.Answers (visit v t.depth [] [] t) marks) (hp : p ∈ places t)
    (hrange : p.textRange? = some range) {text : Text} :
    .edit range text ∈ marks ↔
      p ∈ visitedPlaces t ∧ ∃ here, d.Answers (actAt v p) here ∧ .edit range text ∈ here := by
  rw [visit_program h hb] at hmarks
  rw [(Context.mem_of_answers_flatten hmarks).2]
  constructor
  · rintro ⟨q, hq, here, hhere, hmark⟩
    have hqr := hhere.post (ensures_actAt_visited h hq).yields range text hmark
    obtain rfl := hspaced.place_eq hp (mem_places_of_visited h.wellFormed hq) hrange hqr
    exact ⟨hq, here, hhere, hmark⟩
  · rintro ⟨hp, here, hhere, hmark⟩
    exact ⟨p, hp, here, hhere, hmark⟩

/-- The edit of a name or a literal to which visiting comes is the one that is made there. -/
theorem lookup_of_visited (hmarks : d.Answers (visit v t.depth [] [] t) marks)
    (hp : p ∈ visitedPlaces t) (hrange : p.textRange? = some range) {here : List Mark}
    (hhere : d.Answers (actAt v p) here) {new : Option Text}
    (hnew : ∀ text, .edit range text ∈ here ↔ new = some text) :
    (editsIn marks).lookup range = new := by
  have hedit : ∀ text, .edit range text ∈ marks ↔ new = some text := by
    intro text
    rw [edit_mem_iff h hspaced hb hmarks (mem_places_of_visited h.wellFormed hp) hrange, ← hnew text]
    constructor
    · rintro ⟨-, here', hhere', hmark⟩
      exact hhere.unique hhere' ▸ hmark
    · exact fun hmark => ⟨hp, here, hhere, hmark⟩
  unfold editsIn
  cases new with
  | none =>
    refine Edits.lookup_ofList_of_not_mem fun edit hmem heq => ?_
    cases (hedit edit.2).mp (mem_edits_iff.mp (heq ▸ hmem))
  | some text =>
    refine Edits.lookup_ofList_of_forall
      ⟨_, mem_edits_iff.mpr ((hedit text).mpr rfl), rfl⟩ fun edit hmem heq => ?_
    exact (Option.some.inj ((hedit edit.2).mp (mem_edits_iff.mp (heq ▸ hmem)))).symm

/-- What visiting does not come to is left. -/
theorem lookup_of_not_visited (hmarks : d.Answers (visit v t.depth [] [] t) marks)
    (hp : p ∈ places t) (hrange : p.textRange? = some range) (hother : p ∉ visitedPlaces t) :
    (editsIn marks).lookup range = none := by
  refine Edits.lookup_ofList_of_not_mem fun edit hmem => ?_
  rintro rfl
  exact hother ((edit_mem_iff h hspaced hb hmarks hp hrange).mp (mem_edits_iff.mp hmem)).1

/-- A name of the script alone to which visiting comes is edited to its token. -/
theorem lookup_of_local (hmarks : d.Answers (visit v t.depth [] [] t) marks)
    (hp : p ∈ visitedPlaces t) (hkind : p.node.kind = "Identifier")
    (htext : p.node.name? = some name) (hrange : rangeOf p.node = .ok range)
    (hlocal : v.isLocal (v.bindings.standing p.outer) name = true) :
    ∃ tok, d.identifiers.value? name = some tok ∧
      (editsIn marks).lookup range = editIfNew v.source range (p.written name tok) := by
  obtain ⟨-, hwell, -, hname⟩ := visited_of_mem_visitedPlaces h hp
  obtain ⟨here, hhere⟩ := (Context.mem_of_answers_flatten (visit_program h hb ▸ hmarks)).1 p hp
  have hact := of_answers_actAt hwell.fits hkind htext hrange hhere
  rw [if_pos hlocal] at hact
  obtain ⟨tok, htok, hmarked⟩ := hact
  refine ⟨tok, htok, lookup_of_visited h hspaced hb hmarks hp
    (textRange?_of_name (hname hkind) hrange) hhere fun text => ?_⟩
  simp [hmarked]

/-- A name that visiting does not come to, or that is not one of the script alone, is left. -/
theorem lookup_of_not_local (hmarks : d.Answers (visit v t.depth [] [] t) marks) (hp : p ∈ places t)
    (hname : p.isName = true) (htext : p.node.name? = some name)
    (hrange : rangeOf p.node = .ok range)
    (hother : p ∈ visitedPlaces t → v.isLocal (v.bindings.standing p.outer) name = false) :
    (editsIn marks).lookup range = none := by
  have hkind : p.node.kind = "Identifier" :=
    beq_iff_eq.mp (Bool.and_eq_true_iff.mp (Bool.and_eq_true_iff.mp hname).1).1
  by_cases hvisited : p ∈ visitedPlaces t
  · obtain ⟨-, hwell, -, -⟩ := visited_of_mem_visitedPlaces h hvisited
    obtain ⟨here, hhere⟩ :=
      (Context.mem_of_answers_flatten (visit_program h hb ▸ hmarks)).1 p hvisited
    have hact := of_answers_actAt hwell.fits hkind htext hrange hhere
    rw [if_neg (Bool.eq_false_iff.mp (hother hvisited))] at hact
    refine lookup_of_visited h hspaced hb hmarks hvisited (textRange?_of_name hname hrange) hhere
      fun text => ?_
    simp [hact]
  · exact lookup_of_not_visited h hspaced hb hmarks hp (textRange?_of_name hname hrange) hvisited

omit h hb in
/-- The edits of a script can be made. -/
theorem exists_apply_editsIn (hranges : OnlyText t marks) (source : Text) :
    ∃ output, (editsIn marks).apply source = .ok output := by
  have hmem : ∀ edit ∈ editsIn marks, edit.1 ∈ textRanges t := fun edit hedit =>
    hranges edit.1 edit.2 (mem_edits_iff.mp (Edits.mem_of_mem_ofList hedit))
  refine Edits.exists_apply source (fun edit hedit => hspaced.proper _ (hmem edit hedit)) ?_
  have hne : (editsIn marks).Pairwise fun a b => a.1 ≠ b.1 :=
    List.pairwise_map.mp (Edits.nodup_ofList _)
  exact hne.imp_of_mem fun ha hb hne => hspaced.apart_of_ne (hmem _ ha) (hmem _ hb) hne

end Whole

section Levels

variable {c : Child} {levels fuel : Nat}

/-! ## Properties whose key is their value too -/

/-- What is left of the levels for a child is enough for it. -/
theorem exists_fewer (hc : c ∈ children t) (hlevels : t.depth ≤ levels + 1) :
    ∃ fewer, levels = fewer + 1 ∧ c.2.depth ≤ fewer + 1 := by
  have hlt := depth_lt_of_mem_children hc
  have hpos := depth_pos c.2
  exact ⟨levels - 1, by omega, by omega⟩

/-- The value of such a property is a name, or a name with what stands for it when it is missing. -/
theorem exists_shorthandValue (h : WellFormed t) (hkind : t.kind = "Property")
    (hshorthand : (part? t "shorthand").isSome = true) :
    ∃ value : Tree, t.get? "value" = some value ∧ part? t "value" = some value ∧ WellFormed value ∧
      (value.kind = "Identifier" ∨ (value.kind = "AssignmentPattern" ∧
        ∃ left : Tree, value.get? "left" = some left ∧ WellFormed left ∧ left.kind = "Identifier")) := by
  obtain ⟨value, hvalue, -, hwell⟩ := h.one "value" (slot_mem hkind rfl)
  have hform := (h.fits.shorthand hkind hshorthand).2
  rw [hvalue] at hform
  refine ⟨value, hvalue, Option.filter_eq_some_iff.mpr ⟨hvalue, hwell.fits.isTruthy⟩, hwell, ?_⟩
  obtain hname | hdefault := Bool.or_eq_true_iff.mp (show isShorthandValue value = true from hform)
  · exact .inl (beq_iff_eq.mp hname)
  · obtain ⟨hpattern, hleft⟩ := Bool.and_eq_true_iff.mp hdefault
    have hassignment : Tree.kind value = "AssignmentPattern" := beq_iff_eq.mp hpattern
    obtain ⟨left, hget, -, hwellLeft⟩ := hwell.one "left" (slot_mem hassignment rfl)
    rw [hget] at hleft
    exact .inr ⟨hassignment, left, hget, hwellLeft, beq_iff_eq.mp hleft⟩

/-- A child in a field that must hold a node. -/
theorem mem_children_of_one (h : Fits t) {field : String} {kinds : List String} {node : Tree}
    (hslot : (field, Slot.one kinds) ∈ slotsOf t.kind) (hvalue : t.get? field = some node) :
    ((Text.ofString field, 0), node) ∈ children t :=
  (h.of_child_one hslot (mem_child.mpr ⟨rfl, hvalue⟩)).2

/-! ## Where marks are made -/

/-- A mark is made at a place: it tells of the name there, or gives the name or the string there
another text. -/
def Mark.IsAt (q : Place) : Mark → Prop
  | .renamed _ => q.node.kind = "Identifier"
  | .edit range _ => rangeOf q.node = .ok range ∧
      (q.node.kind = "Identifier" ∨ (stringValue? q.node).isSome = true)

/-- Marks are made at places from one on. -/
def MarkedFrom (levels : Nat) (p : Place) (marks : List Mark) : Prop :=
  ∀ m ∈ marks, ∃ q ∈ placesFrom allKids levels p, m.IsAt q

variable {chain : Chain} {path : Path} {others : List Mark}

theorem markedFrom_nil : MarkedFrom levels p [] :=
  fun _ hm => absurd hm List.not_mem_nil

theorem MarkedFrom.append (h : MarkedFrom levels p marks) (h' : MarkedFrom levels p others) :
    MarkedFrom levels p (marks ++ others) :=
  fun m hm => (List.mem_append.mp hm).elim (h m) (h' m)

/-- What is marked from a child on, is marked from its parent on. -/
theorem markedFrom_outwards {program : Rewriting (List Mark)} (hc : c ∈ children p.node)
    (h : program.Ensures (MarkedFrom levels (p.inside c))) :
    program.Ensures (MarkedFrom (levels + 1) p) := by
  refine h.mono fun marks hmarks m hm => ?_
  obtain ⟨q, hq, hat⟩ := hmarks m hm
  exact ⟨q, mem_placesFrom_succ.mpr (.inr ⟨c, hc, hq⟩), hat⟩

/-- What is edited at a name or a string is marked there. -/
theorem markedFrom_editTo {range : Range} (hrange : rangeOf p.node = .ok range)
    (hkind : p.node.kind = "Identifier" ∨ (stringValue? p.node).isSome = true) (text : Text) :
    (editTo v p.node text).Ensures (MarkedFrom (levels + 1) p) := by
  refine (Rewriting.ensures_ofExcept (· = range) hrange rfl).bind fun other hother => ?_
  subst hother
  refine Rewriting.ensures_pure ?_
  split
  · exact markedFrom_nil
  · intro m hm
    obtain rfl := List.mem_singleton.mp hm
    exact ⟨p, mem_placesFrom_succ.mpr (.inl rfl), hrange, hkind⟩

/-- A name that is renamed is marked where it stands. -/
theorem markedFrom_rename (h : Fits p.node) (hkind : p.node.kind = "Identifier") (name : Text)
    (text : Text → Text) :
    (Rewriting.identifier name >>= fun tok => editTo v p.node (text tok) >>= fun edits =>
      pure (Mark.renamed name :: edits)).Ensures (MarkedFrom (levels + 1) p) := by
  obtain ⟨range, hrange⟩ := h.exists_range (.inl hkind)
  refine (Rewriting.ensures_identifier name).bind fun tok _ => ?_
  have hedit : (editTo v p.node (text tok)).Ensures (MarkedFrom (levels + 1) p) :=
    markedFrom_editTo hrange (.inl hkind) _
  refine hedit.bind fun edits hedits => ?_
  refine Rewriting.ensures_pure (List.forall_mem_cons.mpr ⟨?_, hedits⟩)
  exact ⟨p, mem_placesFrom_succ.mpr (.inl rfl), hkind⟩

theorem markedFrom_visitName (h : Fits p.node) (hkind : p.node.kind = "Identifier") :
    (visitName v chain p.node).Ensures (MarkedFrom (levels + 1) p) := by
  obtain ⟨name, -, -, hname⟩ := h.exists_name hkind
  refine (Rewriting.ensures_ofExcept (fun _ => True) hname trivial).bind fun other _ => ?_
  split
  · exact markedFrom_rename h hkind other id
  · exact Rewriting.ensures_pure markedFrom_nil

theorem markedFrom_visitShorthand (h : Fits p.node) (hkind : p.node.kind = "Identifier") :
    (visitShorthand v chain p.node).Ensures (MarkedFrom (levels + 1) p) := by
  unfold visitShorthand
  split
  · split
    · exact markedFrom_rename h hkind _ _
    · exact Rewriting.ensures_pure markedFrom_nil
  · exact Rewriting.ensures_pure markedFrom_nil

theorem markedFrom_visitString (h : Fits p.node) :
    (visitString v p.node).Ensures (MarkedFrom (levels + 1) p) := by
  cases hvalue : stringValue? p.node with
  | none =>
    rw [visitString, hvalue]
    exact Rewriting.ensures_pure markedFrom_nil
  | some value =>
    obtain ⟨range, hrange⟩ := h.exists_range (.inr (kind_of_string hvalue))
    have hstring : (stringValue? p.node).isSome = true := by rw [hvalue]; rfl
    exact ensures_visitString_of_editTo markedFrom_nil (markedFrom_editTo hrange (.inr hstring))

theorem markedFrom_lookupArgument? {callee : Tree} {program : Rewriting (List Mark)} (h : Fits p.node)
    (hlookup : lookupArgument? v callee p.node = some program) :
    program.Ensures (MarkedFrom (levels + 1) p) := by
  obtain ⟨range, hrange⟩ := h.exists_range (.inr (kind_of_lookupArgument? hlookup))
  have hstring : (stringValue? p.node).isSome = true := by
    unfold lookupArgument? at hlookup
    split at hlookup
    · rename_i hvalue _
      rw [hvalue]
      rfl
    · cases hlookup
  exact ensures_lookupArgument?_of_editTo (markedFrom_editTo hrange (.inr hstring)) hlookup

/-- Visiting with so many levels marks names and strings of the tree, whatever the scopes are. -/
def MarksWithin (v : View) (fuel : Nat) : Prop :=
  ∀ {levels : Nat} {chain : Chain} {path : Path} {p : Place}, WellFormed p.node →
    p.node.depth ≤ levels → (visit v fuel chain path p.node).Ensures (MarkedFrom levels p)

section Marks

variable (within : MarksWithin v fuel) (h : WellFormed p.node) (hlevels : p.node.depth ≤ levels + 1)
include within h hlevels

theorem markedFrom_child (hc : c ∈ children p.node) :
    (visit v fuel chain path c.2).Ensures (MarkedFrom (levels + 1) p) := by
  have hlt := depth_lt_of_mem_children hc
  refine markedFrom_outwards hc (within (p := p.inside c) (h.inside hc) ?_)
  exact Nat.le_of_lt_succ (Nat.lt_of_lt_of_le hlt hlevels)

theorem markedFrom_visitEach {cs : List Child} (hcs : ∀ c ∈ cs, c ∈ children p.node ∨ c.2 = .null) :
    (visitEach (visit v fuel) chain path cs).Ensures (MarkedFrom (levels + 1) p) := by
  have heach : ∀ c ∈ cs,
      (visit v fuel chain (c.1 :: path) c.2).Ensures (MarkedFrom (levels + 1) p) := by
    intro c hc
    obtain hchild | hnull := hcs c hc
    · exact markedFrom_child within h hlevels hchild
    · rw [hnull]
      cases fuel <;> exact Rewriting.ensures_pure markedFrom_nil
  refine (Rewriting.ensures_mapM heach).bind fun lists hlists => Rewriting.ensures_pure fun m hm => ?_
  obtain ⟨list, hlist, hm⟩ := List.mem_flatten.mp hm
  exact hlists list hlist m hm

theorem markedFrom_visitArguments {callee : Tree} (hkind : p.node.kind = "CallExpression") :
    (visitArguments v (visit v fuel) chain path callee (listed p.node "arguments")).Ensures
      (MarkedFrom (levels + 1) p) := by
  have hall : ∀ c ∈ listed p.node "arguments", c ∈ children p.node := fun c hc =>
    (h.fits.of_listed_many (slot_mem hkind rfl) hc).2
  unfold visitArguments
  split
  · exact markedFrom_visitEach within h hlevels fun c hc => .inl (hall c (List.mem_of_mem_drop hc))
  · split
    · rename_i argument hone
      have hchild := hall argument (hone ▸ List.mem_singleton.mpr rfl)
      split
      · rename_i program hlookup
        obtain ⟨fewer, rfl, -⟩ := exists_fewer hchild hlevels
        exact markedFrom_outwards hchild
          (markedFrom_lookupArgument? (p := p.inside argument) (h.inside hchild).fits hlookup)
      · exact markedFrom_visitEach within h hlevels fun c hc => .inl (hall c hc)
    · exact markedFrom_visitEach within h hlevels fun c hc => .inl (hall c hc)

/-- A property whose key is its value too, with what stands for the value when it is missing. -/
theorem markedFrom_visitShorthandValue (hkind : p.node.kind = "Property")
    (hshorthand : (part? p.node "shorthand").isSome = true) :
    (visitShorthandValue v (visit v fuel) chain path ((part? p.node "value").getD (.object []))).Ensures
      (MarkedFrom (levels + 1) p) := by
  obtain ⟨value, hvalue, hpart, hwell, hform⟩ := exists_shorthandValue h hkind hshorthand
  have hchild := mem_children_of_one h.fits (slot_mem hkind rfl) hvalue
  obtain ⟨fewer, rfl, hdepth⟩ := exists_fewer hchild hlevels
  rw [hpart, Option.getD_some, visitShorthandValue]
  refine markedFrom_outwards hchild ?_
  obtain hname | ⟨hassignment, left, hleft, hwellLeft, hleftName⟩ := hform
  · rw [if_neg (by simp [Tree.isKind, hname])]
    exact markedFrom_visitShorthand
      (p := p.inside ((Text.ofString "value", 0), value)) hwell.fits hname
  · have hleftChild := mem_children_of_one hwell.fits (slot_mem hassignment rfl) hleft
    obtain ⟨fewest, rfl, -⟩ := exists_fewer hleftChild hdepth
    have hfirst : (visitShorthand v chain ((value.get? "left").getD .null)).Ensures
        (MarkedFrom (fewest + 1 + 1) (p.inside ((Text.ofString "value", 0), value))) := by
      rw [hleft]
      exact markedFrom_outwards (p := p.inside ((Text.ofString "value", 0), value)) hleftChild
        (markedFrom_visitShorthand (p := (p.inside _).inside ((Text.ofString "left", 0), left))
          hwellLeft.fits hleftName)
    rw [if_pos (show value.isKind "AssignmentPattern" = true from beq_iff_eq.mpr hassignment)]
    refine hfirst.bind fun first hfirst => ?_
    refine (markedFrom_visitEach within (p := p.inside ((Text.ofString "value", 0), value)) hwell hdepth
      fun c hc => ?_).bind fun others hothers => Rewriting.ensures_pure (hfirst.append hothers)
    exact .inl (hwell.fits.of_child_one (slot_mem hassignment rfl) hc).2

theorem markedFrom_visitInside :
    (visitInside v (visit v fuel) chain path p.node).Ensures (MarkedFrom (levels + 1) p) := by
  unfold visitInside
  split
  · rename_i hkind
    exact markedFrom_visitName h.fits hkind
  · exact markedFrom_visitString h.fits
  · rename_i hkind
    split
    · rename_i hshorthand
      exact markedFrom_visitShorthandValue within h hlevels hkind hshorthand
    · refine markedFrom_visitEach within h hlevels fun c hc => ?_
      obtain hc | hc := List.mem_append.mp hc
      · exact taken_of_one h.fits (slot_mem hkind rfl) (mem_child_of_computed hc)
      · exact taken_of_one h.fits (slot_mem hkind rfl) hc
  · rename_i hkind
    refine (markedFrom_visitEach within h hlevels fun c hc => ?_).bind fun callee hcallee => ?_
    · exact taken_of_one h.fits (slot_mem hkind rfl) hc
    · refine (markedFrom_visitArguments within h hlevels hkind).bind fun arguments harguments => ?_
      exact Rewriting.ensures_pure (hcallee.append harguments)
  · exact markedFrom_visitEach within h hlevels fun c hc => taken_of_visitedChildren h.fits hc

end Marks

/-- Visiting a tree marks names and strings of that tree, whatever the scopes are. -/
theorem markedFrom_visit (v : View) (fuel : Nat) : MarksWithin v fuel := by
  induction fuel with
  | zero => exact fun _ _ => Rewriting.ensures_pure markedFrom_nil
  | succ fuel ih =>
    intro levels chain path p h hlevels
    obtain ⟨levels, rfl⟩ : ∃ fewer, levels = fewer + 1 :=
      ⟨levels - 1, by have := depth_pos p.node; omega⟩
    rw [visit]
    split
    · exact Rewriting.ensures_pure markedFrom_nil
    · split
      · exact markedFrom_visitInside ih h hlevels
      · split
        · rename_i hfunction
          have hkind : p.node.kind = "FunctionDeclaration" := beq_iff_eq.mp hfunction
          refine (markedFrom_visitEach ih h hlevels fun c hc => ?_).bind fun name hname => ?_
          · exact taken_of_optional h.fits (slot_mem hkind rfl) hc
          · refine (markedFrom_visitInside ih h hlevels).bind fun inside hinside => ?_
            exact Rewriting.ensures_pure (hname.append hinside)
        · exact markedFrom_visitInside ih h hlevels

end Levels

end VeiledGateway.Script
