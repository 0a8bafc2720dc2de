/-
  The names of properties.

  A key names a property, and so does an access to it: behind a dot, or as a string in brackets.  Keys
  and names behind a dot stay what they are, also a key that is a variable at once, which is written out
  when that gets a token.  A string in brackets is rewritten like any other string: a phrase keeps its
  value, but a word becomes what stands for a class.  `property_names_agree` says that keys and accesses
  to them come apart in this way only.
-/
import VeiledGateway.Proofs.Script.Evaluating
import VeiledGateway.Proofs.Script.Justifying

set_option autoImplicit false

namespace VeiledGateway.Script

/-! ## What names a property -/

/-- The name of a property that an identifier or a string stands for, in code units. -/
def propertyName? (t : Tree) : Option (List Nat) :=
  if t.isKind "Identifier" then t.name?.map Utf16.units else (stringValue? t).map Utf16.units

namespace Outer

/-- The step leads to the key of a property or of a method. -/
def isKeyed (o : Outer) : Bool :=
  (o.node.isKind "Property" || o.node.isKind "MethodDefinition") && Text.eqString o.step.1 "key"

/-- The step leads to what names a property that is accessed. -/
def isAccess (o : Outer) : Bool :=
  o.node.isKind "MemberExpression" && Text.eqString o.step.1 "property"

def isComputed (o : Outer) : Bool :=
  (part? o.node "computed").isSome

end Outer

namespace Place

/-- A key that is not computed. -/
def isKey (p : Place) : Bool :=
  p.outer.head?.any fun o => o.isKeyed && !o.isComputed

/-- The name behind a dot. -/
def isDotted (p : Place) : Bool :=
  p.outer.head?.any fun o => o.isAccess && !o.isComputed

/-- What stands in the brackets of an access. -/
def isBracketed (p : Place) : Bool :=
  p.outer.head?.any fun o => o.isAccess && o.isComputed

/-- An access by a name behind a dot or by a literal in brackets. -/
def isMember (p : Place) : Bool :=
  p.isDotted || (p.isBracketed && p.node.isKind "Literal")

/-- The name of the property once edits are made, where a place is a key, a name behind a dot or a string
in brackets.  A key ends where its value is written behind a colon. -/
def nameAfter (edits : Edits) (p : Place) : Option (List Nat) :=
  match (rangeOf p.node).toOption.bind fun range => edits.lookup range with
  | none => propertyName? p.node
  | some text =>
    if p.isKey then some (Utf16.units (text.takeWhile (· != CodePoint.ofChar ':'))) else evaluate text

end Place

/-- A name is the key of a property and also its value, which stands at the same place. -/
structure SharesKey (p q : Place) : Prop where
  isName : p.isName = true
  shorthand : p.isShorthandName = true
  key : q.isKey = true
  same : p.node.name? = q.node.name?
  plain : ∀ name ∈ p.node.name?, CodePoint.ofChar ':' ∉ name

instance (p q : Place) : Decidable (SharesKey p q) :=
  decidable_of_iff
    (p.isName = true ∧ p.isShorthandName = true ∧ q.isKey = true ∧ p.node.name? = q.node.name? ∧
      ∀ name ∈ p.node.name?, CodePoint.ofChar ':' ∉ name)
    ⟨fun ⟨i, s, k, n, c⟩ => ⟨i, s, k, n, c⟩, fun ⟨i, s, k, n, c⟩ => ⟨i, s, k, n, c⟩⟩

/-- The names and the literals of a tree lie apart in its source, and only a name that is a key and a
value at once lies where a property is named. -/
structure KeysApart (t : Tree) : Prop where
  spaced : Spaced t
  shared : ∀ q ∈ places t, q.isKey = true ∨ q.isDotted = true → q.node.kind = "Identifier" →
    ∀ p ∈ places t, p.textRange?.isSome = true → p.textRange? = (rangeOf q.node).toOption →
      SharesKey p q

instance (t : Tree) : Decidable (KeysApart t) :=
  decidable_of_iff
    (Spaced t ∧ ∀ q ∈ places t, q.isKey = true ∨ q.isDotted = true → q.node.kind = "Identifier" →
      ∀ p ∈ places t, p.textRange?.isSome = true → p.textRange? = (rangeOf q.node).toOption →
        SharesKey p q)
    ⟨fun ⟨spaced, shared⟩ => ⟨spaced, shared⟩, fun ⟨spaced, shared⟩ => ⟨spaced, shared⟩⟩

variable {t : Tree} {p q : Place} {c : Child} {levels : Nat}

/-! ## Keys and names behind a dot -/

/-- A key and a name behind a dot only name a property. -/
theorem isMere_of_written (h : p.isKey = true ∨ p.isDotted = true) :
    p.outer.head?.any Outer.isMere = true := by
  unfold Place.isKey Place.isDotted at h
  cases houter : p.outer with
  | nil => simp [houter] at h
  | cons o rest =>
    simp only [houter, List.head?_cons, Option.any_some, Outer.isKeyed, Outer.isAccess, Outer.isComputed,
      Tree.isKind, Bool.and_eq_true, Bool.or_eq_true, beq_iff_eq] at h ⊢
    obtain ⟨⟨hkind | hkind, hstep⟩, hwritten⟩ | ⟨⟨hkind, hstep⟩, hwritten⟩ := h
    all_goals simp [Outer.isMere, hkind, hstep, hwritten]

/-- Kinds of nodes that name a property, in a field of its own. -/
def namingKinds : List String :=
  ["MemberExpression", "Property", "MethodDefinition"]

def namingField (kind : String) : String :=
  if kind = "MemberExpression" then "property" else "key"

theorem mem_child_of_naming (h : Fits t) (hc : c ∈ children t) (hkind : t.kind ∈ namingKinds)
    (hstep : Text.eqString c.1.1 (namingField t.kind) = true) : c ∈ child t (namingField t.kind) := by
  have htable : ∀ kind ∈ namingKinds, ∀ slot ∈ slotsOf kind,
      Text.eqString (Text.ofString slot.1) (namingField kind) = true →
        slot.1 = namingField kind ∧ slot.2.isList = false := by
    decide
  obtain ⟨slot, hslot, -, hstands⟩ := h.mem_children_iff.mp hc
  rw [step_of_mem_slotChildren hstands] at hstep
  obtain ⟨hfield, hone⟩ := htable _ hkind slot hslot hstep
  rwa [slotChildren, hone, if_neg (by simp), hfield] at hstands

theorem naming_of_written (p : Place) (c : Child)
    (h : (p.inside c).isKey = true ∨ (p.inside c).isDotted = true) :
    p.node.kind ∈ namingKinds ∧ Text.eqString c.1.1 (namingField p.node.kind) = true ∧
      (part? p.node "computed").isNone = true := by
  simp only [Place.isKey, Place.isDotted, Place.inside, List.head?_cons, Option.any_some,
    Outer.isKeyed, Outer.isAccess, Outer.isComputed, Tree.isKind, Bool.and_eq_true, Bool.or_eq_true,
    beq_iff_eq, Bool.not_eq_true', Option.isSome_eq_false_iff] at h
  obtain ⟨⟨hkind | hkind, hstep⟩, hnone⟩ | ⟨⟨hkind, hstep⟩, hnone⟩ := h
  all_goals
    rw [hkind]
    exact ⟨by decide, hstep, hnone⟩

/-- They are written as an identifier or a literal. -/
theorem kind_of_written (h : IsProgram t) (hp : p ∈ places t)
    (hwritten : p.isKey = true ∨ p.isDotted = true) : p.node.kind ∈ ["Identifier", "Literal"] := by
  obtain rfl | ⟨r, hr, c, hc, rfl⟩ := parent_of_mem hp
  · obtain hnone | hnone := hwritten
    · cases hnone
    · cases hnone
  · have hfits := (wellFormed_of_place h hr).fits
    obtain ⟨hkind, hstep, hnone⟩ := naming_of_written r c hwritten
    have hvalue := (mem_child.mp (mem_child_of_naming hfits hc hkind hstep)).2
    have hkinds := hfits.written hkind hnone
    rw [show r.node.get? (if r.node.kind = "MemberExpression" then "property" else "key") = some c.2
      from hvalue] at hkinds
    exact kind_of_isOfKinds hkinds

/-! ## Strings in brackets -/

theorem access_of_bracketed (h : (p.inside c).isBracketed = true) :
    p.node.kind = "MemberExpression" ∧ Text.eqString c.1.1 "property" = true ∧
      (part? p.node "computed").isSome = true := by
  simpa [Place.isBracketed, Place.inside, Outer.isAccess, Outer.isComputed, Tree.isKind, and_assoc]
    using h

/-- Visiting goes on to what stands in brackets. -/
theorem mem_visitedKids_of_bracketed (h : Fits p.node) (hc : c ∈ children p.node)
    (hbracket : (p.inside c).isBracketed = true) : c ∈ visitedKids p := by
  obtain ⟨hkind, hstep, hcomputed⟩ := access_of_bracketed hbracket
  have hproperty : c ∈ child p.node (namingField p.node.kind) :=
    mem_child_of_naming h hc (by simp [hkind, namingKinds]) (by simpa [hkind, namingField] using hstep)
  refine mem_visitedKids h hc ?_
  simp only [takenKids, visitedChildren, hkind, computedChild, hcomputed, if_true]
  rw [hkind] at hproperty
  exact List.mem_append_right _ hproperty

/-- Only names stand inside a specifier. -/
theorem kind_of_mem_specifier (h : WellFormed p.node) (hkind : p.node.kind ∈ specifierKinds)
    (hq : q ∈ placesFrom allKids levels p) : q = p ∨ q.node.kind = "Identifier" := by
  cases levels with
  | zero => cases hq
  | succ levels =>
    obtain rfl | ⟨d, hd, hq⟩ := mem_placesFrom_succ.mp hq
    · exact .inl rfl
    · have hname : d.2.kind = "Identifier" := kind_of_specifier_child h.fits hkind hd
      obtain rfl := eq_of_mem_of_no_slots (p := p.inside d) (h.inside hd).fits
        (slots_of_name_or_literal (by simp [Place.inside, hname])) hq
      exact .inr hname

/-- Visiting comes to a place that its parent goes on to, if that stands neither in what names a module that
is to be loaded nor in a specifier. -/
theorem visited_of_kid (h : WellFormed p.node) (hq : q ∈ placesFrom allKids levels p)
    (houtside : q.inModuleArgument = false)
    (hkid : ∀ r c, WellFormed r.node → c ∈ children r.node → q = r.inside c → c ∈ visitedKids r)
    (hspecifier : ∀ r levels, WellFormed r.node → r.node.kind ∈ specifierKinds →
      q ∈ placesFrom allKids levels r → q = r) : q ∈ placesFrom visitedKids levels p := by
  induction levels generalizing p with
  | zero => cases hq
  | succ levels ih =>
    obtain rfl | ⟨c, hc, hq⟩ := mem_placesFrom_succ.mp hq
    · exact mem_placesFrom_succ.mpr (.inl rfl)
    have hwell := h.inside hc
    suffices hvisited : c ∈ visitedKids p from
      mem_placesFrom_succ.mpr (.inr ⟨c, hvisited, ih hwell hq⟩)
    by_cases hhere : q = p.inside c
    · exact hkid p c h hc hhere
    have hleaf : c.2.kind ∉ ["Identifier", "Literal"] := fun hkind =>
      hhere (eq_of_mem_of_no_slots hwell.fits (slots_of_name_or_literal hkind) hq)
    refine (visited_or_leftOut h.fits hc).resolve_right fun hleft => ?_
    cases hleft with
    | mere _ hkind => exact hleaf hkind
    | literal hkind _ => exact hleaf (by simp [hkind])
    | loads hloads =>
      have hinside := List.any_eq_true.mpr ⟨_, mem_outer_of_mem_inside hq, hloads⟩
      rw [Place.inModuleArgument, hinside] at houtside
      cases houtside
    | specifier hkind hlisted =>
      exact hhere (hspecifier (p.inside c) levels hwell (kind_of_specifier h hkind hlisted) hq)

/-- Nothing is accessed in a specifier. -/
theorem not_bracketed_in_specifier (h : WellFormed p.node) (hkind : p.node.kind ∈ specifierKinds)
    (hq : q ∈ placesFrom allKids levels p) (hne : q ≠ p) : q.isBracketed = false := by
  refine Bool.eq_false_iff.mpr fun hbracket => ?_
  obtain rfl | ⟨r, hr, c, -, rfl⟩ := parent_of_mem hq
  · exact hne rfl
  · have haccess := (access_of_bracketed hbracket).1
    obtain rfl | hname := kind_of_mem_specifier h hkind hr
    · rw [haccess] at hkind
      exact absurd hkind (by decide)
    · rw [haccess] at hname
      exact absurd hname (by decide)

/-- Visiting comes to what stands in brackets, but for what names a module that is to be loaded. -/
theorem visited_of_bracketed (h : WellFormed p.node) (hq : q ∈ placesFrom allKids levels p)
    (hbracket : q.isBracketed = true) (houtside : q.inModuleArgument = false) :
    q ∈ placesFrom visitedKids levels p := by
  refine visited_of_kid h hq houtside (fun r c hr hc hhere => ?_) fun r levels hr hspecifier hq => ?_
  · exact mem_visitedKids_of_bracketed hr.fits hc (hhere ▸ hbracket)
  · by_contra hne
    rw [not_bracketed_in_specifier hr hspecifier hq hne] at hbracket
    cases hbracket

theorem isKey_of_bracketed (h : p.isBracketed = true) : p.isKey = false := by
  unfold Place.isBracketed Place.isKey at *
  cases houter : p.outer with
  | nil => rfl
  | cons o rest =>
    simp only [houter, List.head?_cons, Option.any_some, Bool.and_eq_true] at h ⊢
    rw [h.2, Bool.not_true, Bool.and_false]

theorem isBracketed_of_dotted (h : p.isDotted = true) : p.isBracketed = false := by
  unfold Place.isDotted Place.isBracketed at *
  cases houter : p.outer with
  | nil => rfl
  | cons o rest =>
    simp only [houter, List.head?_cons, Option.any_some, Bool.and_eq_true, Bool.not_eq_true'] at h ⊢
    rw [h.2, Bool.and_false]

/-- A string in brackets is no argument that is looked up. -/
theorem lookup?_of_bracketed (v : View) (h : p.isBracketed = true) : p.lookup? v = none := by
  unfold Place.lookup?
  unfold Place.isBracketed at h
  cases houter : p.outer with
  | nil => rfl
  | cons o rest =>
    simp only [houter, List.head?_cons, Option.any_some, Outer.isAccess, Tree.isKind,
      Bool.and_eq_true, beq_iff_eq] at h
    simp [Tree.isKind, h.1.1]

/-! ## What becomes of strings -/

/-- What is written for a string that is rewritten: the class that a word stands for, in the quotes of
the string, and the pieces of a phrase. -/
inductive Writes (settings : Settings) (d : Context) (t : Tree) (value : Text) : Text → Prop
  | word (bare : isBareWord value = true) (tok : Text)
      (stands : d.Answers (Rewriting.className settings value) tok) :
      Writes settings d t value (quoteOf t ++ tok ++ quoteOf t)
  | phrase (bare : isBareWord value = false) (parts : List Text) (pieces : d.HasPieces value parts) :
      Writes settings d t value (chained parts)

/-- A string is long enough, and has no angle brackets. -/
structure Eligible (settings : Settings) (value : Text) : Prop where
  flat : value.any (fun c => c == '<' || c == '>') = false
  long : settings.minLiteralLength ≤ (value.length : Int)

variable {v : View} {d : Context} {marks : List Mark} {value : Text} {range : Range}

/-- A string that is eligible is written anew, and all others are left. -/
theorem of_answers_visitString (hvalue : stringValue? t = some value) (hrange : rangeOf t = .ok range)
    (h : d.Answers (visitString v t) marks) :
    (¬ Eligible v.settings value ∧ marks = []) ∨
      Eligible v.settings value ∧ ∃ text, Writes v.settings d t value text ∧
        marks = ((editIfNew v.source range text).map (Mark.edit range)).toList := by
  unfold visitString at h
  rw [hvalue] at h
  dsimp only at h
  split at h
  · rename_i hangle
    refine .inl ⟨fun heligible => ?_, (Context.answers_pure.mp h).symm⟩
    rw [heligible.flat] at hangle
    cases hangle
  rename_i hflat
  split at h
  · rename_i hshort
    refine .inl ⟨fun heligible => ?_, (Context.answers_pure.mp h).symm⟩
    have hlong := heligible.long
    omega
  rename_i hlong
  refine .inr ⟨⟨Bool.eq_false_iff.mpr hflat, by omega⟩, ?_⟩
  split at h
  · rename_i hbare
    obtain ⟨tok, htok, hedit⟩ := Context.answers_bind.mp h
    exact ⟨_, .word hbare tok htok, of_answers_editTo hrange hedit⟩
  · rename_i hbare
    obtain ⟨_, ⟨parts, hparts, rfl⟩, hedit⟩ := Context.answers_bind.mp h
    exact ⟨_, .phrase (Bool.eq_false_iff.mpr hbare) parts hparts, of_answers_editTo hrange hedit⟩

/-- What is written for a string is determined by the tables. -/
theorem Writes.unique {settings : Settings} {text text' : Text} (h : Writes settings d t value text)
    (h' : Writes settings d t value text') : text = text' := by
  cases h with
  | word hbare tok htok =>
    cases h' with
    | word _ tok' htok' => rw [htok.unique htok']
    | phrase hphrase => simp [hbare] at hphrase
  | phrase hbare parts hparts =>
    cases h' with
    | word hword => simp [hbare] at hword
    | phrase _ parts' hparts' => rw [hparts.unique hparts']

/-- Pieces keep the value of a string that is not empty. -/
theorem evaluate_of_phrase {settings : Settings} {text : Text} (h : Writes settings d t value text)
    (hbare : isBareWord value = false) (hvalue : value ≠ []) : evaluate text = some (Utf16.units value) := by
  cases h with
  | word hword => simp [hbare] at hword
  | phrase _ parts hparts =>
    have hflatten := hparts.flatten
    subst hflatten
    exact (rejoins_flatten hvalue).units

/-! ## What a script makes of the names of properties -/

/-- A string in brackets names another property once a script is rewritten: as a word it became a class
of another name, or there was nothing to be cut. -/
structure Exchanged (settings : Settings) (source : Text) (d : Context) (p : Place) (value : Text) :
    Prop where
  outside : p.inModuleArgument = false
  eligible : Eligible settings value
  word : isBareWord value = true ∨ value = []
  misread : ∃ range text, rangeOf p.node = .ok range ∧ Writes settings d p.node value text ∧
    Text.slice source range.start range.stop ≠ text ∧ evaluate text ≠ some (Utf16.units value)

/-- How properties are named once the edits of a script are made. -/
structure PropertiesNamed (settings : Settings) (source : Text) (t : Tree) (d : Context) (edits : Edits) :
    Prop where
  /-- Keys and names behind a dot name the same property as before. -/
  written : ∀ p ∈ places t, p.isKey = true ∨ p.isDotted = true →
    p.nameAfter edits = propertyName? p.node
  /-- A name that is a key and a value at once becomes a key with its token behind it, if it is
  edited. -/
  shorthand : ∀ p ∈ places t, p.isName = true → p.isShorthandName = true → ∀ range text,
    rangeOf p.node = .ok range → edits.lookup range = some text →
      ∃ name tok, p.node.name? = some name ∧ d.identifiers.value? name = some tok ∧
        text = name ++ (": " : Text) ++ tok
  /-- Strings in brackets name the same property as before, unless they are exchanged. -/
  bracketed : ∀ p ∈ places t, p.isBracketed = true → ∀ value, stringValue? p.node = some value →
    (p.nameAfter edits = propertyName? p.node ↔ ¬ Exchanged settings source d p value)

variable {settings : Settings} {source : Text} {b : Bindings} {isModule : Bool} {edits : Edits}
  {text : Text}

theorem nameAfter_of_lookup_eq_none
    (h : ∀ range, rangeOf p.node = .ok range → edits.lookup range = none) :
    p.nameAfter edits = propertyName? p.node := by
  have hnone : ((rangeOf p.node).toOption.bind fun range => edits.lookup range) = none := by
    cases hrange : rangeOf p.node with
    | error fault => rfl
    | ok range => exact h range hrange
  rw [Place.nameAfter, hnone]

theorem nameAfter_of_lookup (hrange : rangeOf p.node = .ok range) (h : edits.lookup range = some text) :
    p.nameAfter edits =
      if p.isKey then some (Utf16.units (text.takeWhile (· != CodePoint.ofChar ':'))) else evaluate text := by
  have hsome : ((rangeOf p.node).toOption.bind fun range => edits.lookup range) = some text := by
    rw [hrange]
    exact h
  rw [Place.nameAfter, hsome]

/-- The key of a property is read up to the colon behind it. -/
theorem keyOf_written {name : Text} (h : CodePoint.ofChar ':' ∉ name) (tok : Text) :
    (name ++ (": " : Text) ++ tok).takeWhile (· != CodePoint.ofChar ':') = name := by
  have hstop : (Text.ofString ": " ++ tok).takeWhile (· != CodePoint.ofChar ':') = [] := rfl
  rw [List.append_assoc, List.takeWhile_append_of_pos, hstop, List.append_nil]
  intro c hc
  rw [bne_iff_ne]
  rintro rfl
  exact h hc

/-- The place that is edited is a name or a literal. -/
theorem textRange?_of_editAt (h : EditAt isModule settings t d text p) (hrange : rangeOf p.node = .ok range) :
    p.textRange? = some range := by
  obtain ⟨hliteral, -⟩ | ⟨name, tok, hjustified, -⟩ := h
  · exact textRange?_of_literal hliteral hrange
  · exact textRange?_of_name hjustified.isName hrange

section Whole

variable (h : IsProgram t) (hkeys : KeysApart t) (hb : Describes isModule t b)
  (hmarks : d.Answers (visit (viewOf settings source b) t.depth [] [] t) marks)
include h hb hmarks

/-- Where an edit of a range comes from. -/
theorem exists_editAt_of_lookup (hlookup : (editsIn marks).lookup range = some text) :
    ∃ q ∈ places t, q.textRange? = some range ∧ EditAt isModule settings t d text q := by
  have hmem : (range, text) ∈ editsIn marks := by
    obtain ⟨before, after, hedits, -⟩ := List.lookup_eq_some_iff.mp hlookup
    rw [hedits]
    exact List.mem_append_right _ List.mem_cons_self
  obtain ⟨q, hq, hrange, hedit⟩ :=
    exists_editAt h hb hmarks (mem_edits_iff.mp (Edits.mem_of_mem_ofList hmem))
  exact ⟨q, hq, textRange?_of_editAt hedit hrange, hedit⟩

include hkeys

/-- A literal that is a key, or that stands behind a dot, is left. -/
theorem lookup_of_written_literal (hp : p ∈ places t) (hwritten : p.isKey = true ∨ p.isDotted = true)
    (hliteral : p.node.kind = "Literal") (hrange : rangeOf p.node = .ok range) :
    (editsIn marks).lookup range = none := by
  refine lookup_of_not_visited h hkeys.spaced hb hmarks hp (textRange?_of_literal hliteral hrange)
    fun hvisited => ?_
  have hopen := (isOpen_of_mem h hvisited).notMere
  rw [isMere_of_written hwritten] at hopen
  cases hopen

theorem written_of_answers (hp : p ∈ places t) (hwritten : p.isKey = true ∨ p.isDotted = true) :
    p.nameAfter (editsIn marks) = propertyName? p.node := by
  have hkind := kind_of_written h hp hwritten
  simp only [List.mem_cons, List.not_mem_nil, or_false] at hkind
  obtain hname | hliteral := hkind
  · cases hedited : (rangeOf p.node).toOption.bind fun range => (editsIn marks).lookup range with
    | none => rw [Place.nameAfter, hedited]
    | some text =>
      obtain ⟨range, hrange, hlookup⟩ := Option.bind_eq_some_iff.mp hedited
      obtain ⟨q, hq, hq', hedit⟩ := exists_editAt_of_lookup h hb hmarks hlookup
      have hshares : SharesKey q p :=
        hkeys.shared p hp hwritten hname q hq (by rw [hq']; rfl) (hq'.trans hrange.symm)
      obtain ⟨hliteral, -⟩ | ⟨name, tok, hjustified, -, rfl⟩ := hedit
      · rw [kind_of_isName hshares.isName] at hliteral
        exact absurd hliteral (by decide)
      · have hnamed : p.node.name? = some name := hshares.same ▸ hjustified.named
        have hidentifier : p.node.isKind "Identifier" = true := beq_iff_eq.mpr hname
        rw [Place.nameAfter, hedited]
        simp only [hshares.key, if_true, Place.written, hshares.shorthand]
        rw [keyOf_written (hshares.plain name hjustified.named), propertyName?, if_pos hidentifier, hnamed]
        rfl
  · exact nameAfter_of_lookup_eq_none fun range hrange =>
      lookup_of_written_literal h hkeys hb hmarks hp hwritten hliteral hrange

theorem shorthand_of_answers (hp : p ∈ places t) (hname : p.isName = true)
    (hshorthand : p.isShorthandName = true) (hrange : rangeOf p.node = .ok range)
    (hlookup : (editsIn marks).lookup range = some text) :
    ∃ name tok, p.node.name? = some name ∧ d.identifiers.value? name = some tok ∧
      text = name ++ (": " : Text) ++ tok := by
  obtain ⟨q, hq, hq', hedit⟩ := exists_editAt_of_lookup h hb hmarks hlookup
  obtain rfl := hkeys.spaced.place_eq hq hp hq' (textRange?_of_name hname hrange)
  obtain ⟨hliteral, -⟩ | ⟨name, tok, hjustified, htok, rfl⟩ := hedit
  · rw [kind_of_isName hname] at hliteral
    exact absurd hliteral (by decide)
  · refine ⟨name, tok, hjustified.named, htok, ?_⟩
    rw [Place.written, if_pos hshorthand]

/-- A string in brackets to which visiting comes is edited like any other string. -/
theorem bracketed_of_visited (hvisited : p ∈ visitedPlaces t) (hbracket : p.isBracketed = true)
    (hvalue : stringValue? p.node = some value) (hrange : rangeOf p.node = .ok range) :
    (¬ Eligible settings value ∧ (editsIn marks).lookup range = none) ∨
      Eligible settings value ∧ ∃ text, Writes settings d p.node value text ∧
        (editsIn marks).lookup range = editIfNew source range text := by
  have hliteral := kind_of_string hvalue
  obtain ⟨here, hhere⟩ :=
    (Context.mem_of_answers_flatten
      (visit_program (v := viewOf settings source b) h hb ▸ hmarks)).1 p hvisited
  have hlookup : ∀ new : Option Text, here = (new.map (Mark.edit range)).toList →
      (editsIn marks).lookup range = new := fun new hnew =>
    lookup_of_visited h hkeys.spaced hb hmarks hvisited (textRange?_of_literal hliteral hrange) hhere
      fun text => by simp [hnew]
  rw [actAt_literal hliteral, lookup?_of_bracketed _ hbracket, Option.getD_none] at hhere
  obtain ⟨hleft, hnone⟩ | ⟨heligible, text, hwrites, hnew⟩ :=
    of_answers_visitString hvalue hrange hhere
  · exact .inl ⟨hleft, hlookup none hnone⟩
  · exact .inr ⟨heligible, text, hwrites, hlookup _ hnew⟩

theorem bracketed_of_answers (hp : p ∈ places t) (hbracket : p.isBracketed = true)
    (hvalue : stringValue? p.node = some value) :
    p.nameAfter (editsIn marks) = propertyName? p.node ↔ ¬ Exchanged settings source d p value := by
  have hliteral := kind_of_string hvalue
  have hwell := wellFormed_of_place h hp
  obtain ⟨range, hrange⟩ := hwell.fits.exists_range (.inr hliteral)
  have hbefore : propertyName? p.node = some (Utf16.units value) := by
    simp [propertyName?, Tree.isKind, hliteral, hvalue]
  have hkept (hnone : (editsIn marks).lookup range = none) :
      p.nameAfter (editsIn marks) = propertyName? p.node := by
    refine nameAfter_of_lookup_eq_none fun other hother => ?_
    rwa [← Except.ok.inj (hrange.symm.trans hother)]
  by_cases houtside : p.inModuleArgument = false
  · have hvisited : p ∈ visitedPlaces t :=
      visited_of_bracketed (p := .root t) h.wellFormed hp hbracket houtside
    obtain ⟨hleft, hnone⟩ | ⟨heligible, text, hwrites, hlookup⟩ :=
      bracketed_of_visited h hkeys hb hmarks hvisited hbracket hvalue hrange
    · exact iff_of_true (hkept hnone) fun hexchanged => hleft hexchanged.eligible
    have hmisread (hexchanged : Exchanged settings source d p value) :
        Text.slice source range.start range.stop ≠ text ∧ evaluate text ≠ some (Utf16.units value) := by
      obtain ⟨other, text', hother, hwrites', hmisread⟩ := hexchanged.misread
      obtain rfl := Except.ok.inj (hrange.symm.trans hother)
      rwa [hwrites.unique hwrites']
    by_cases hslice : Text.slice source range.start range.stop = text
    · rw [editIfNew, if_pos hslice] at hlookup
      exact iff_of_true (hkept hlookup) fun hexchanged => (hmisread hexchanged).1 hslice
    · rw [editIfNew, if_neg hslice] at hlookup
      rw [nameAfter_of_lookup hrange hlookup, isKey_of_bracketed hbracket, if_neg (by simp), hbefore]
      constructor
      · exact fun hread hexchanged => (hmisread hexchanged).2 hread
      · intro hnot
        by_contra hread
        refine hnot ⟨houtside, heligible, ?_, range, text, hrange, hwrites, hslice, hread⟩
        by_contra hword
        obtain ⟨hbare, hempty⟩ := not_or.mp hword
        exact hread (evaluate_of_phrase hwrites (Bool.eq_false_iff.mpr hbare) hempty)
  · refine iff_of_true (hkept ?_) fun hexchanged => houtside hexchanged.outside
    refine lookup_of_not_visited h hkeys.spaced hb hmarks hp (textRange?_of_literal hliteral hrange)
      fun hvisited => ?_
    exact houtside (visited_of_mem_visitedPlaces h hvisited).2.2.1

theorem propertiesNamed_of_answers : PropertiesNamed settings source t d (editsIn marks) where
  written _ hp hwritten := written_of_answers h hkeys hb hmarks hp hwritten
  shorthand _ hp hname hshorthand _ _ hrange hlookup :=
    shorthand_of_answers h hkeys hb hmarks hp hname hshorthand hrange hlookup
  bracketed _ hp hbracket _ hvalue := bracketed_of_answers h hkeys hb hmarks hp hbracket hvalue

end Whole

/-- A key and an access that name the same property do so after the edits, unless the access is by a
string in brackets that is exchanged. -/
theorem PropertiesNamed.agree_iff (h : PropertiesNamed settings source t d edits) {key member : Place}
    (hkey : key ∈ places t) (hmember : member ∈ places t) (hisKey : key.isKey = true)
    (hisMember : member.isMember = true) {name : List Nat} (hname : propertyName? key.node = some name)
    (hsame : propertyName? member.node = some name) :
    key.nameAfter edits = member.nameAfter edits ↔
      ∀ value, member.isBracketed = true → stringValue? member.node = some value →
        ¬ Exchanged settings source d member value := by
  rw [h.written key hkey (.inl hisKey), hname, ← hsame]
  obtain hdotted | hbracketed := Bool.or_eq_true_iff.mp hisMember
  · refine iff_of_true (h.written member hmember (.inr hdotted)).symm fun value hbracket => ?_
    rw [isBracketed_of_dotted hdotted] at hbracket
    cases hbracket
  · obtain ⟨hbracket, hliteral⟩ := Bool.and_eq_true_iff.mp hbracketed
    have hstring : (stringValue? member.node).map Utf16.units = some name := by
      have hother : member.node.isKind "Identifier" = false := by
        simp [Tree.isKind, beq_iff_eq.mp hliteral]
      rwa [propertyName?, hother, if_neg (by simp)] at hsame
    obtain ⟨value, hvalue, -⟩ := Option.map_eq_some_iff.mp hstring
    rw [eq_comm, h.bracketed member hmember hbracket value hvalue]
    constructor
    · intro hkept other _ hother
      rwa [← Option.some.inj (hvalue.symm.trans hother)]
    · exact fun hall => hall value hbracket hvalue

/-- A string between double quotes. -/
def stringAt (value : Text) (start : Nat) : Tree :=
  Tree.mk "Literal" start (start + value.length + 2)
    [("value", some (.text value)), ("raw", some (.text ("\"" ++ value ++ "\"")))]

/-- The tree of `var o={k:1};o["v"]`, for a key that ends at a place and the value of the string. -/
def accessing (key : Tree) (stop : Nat) (value : Text) : Tree :=
  Tree.mk "Program" 0 (stop + value.length + 8) [("body", some (.list [
    Tree.mk "VariableDeclaration" 0 (stop + 4) [
      ("declarations", some (.list [
        Tree.mk "VariableDeclarator" 4 (stop + 3) [
          ("id", some (nameAt "o" 4 5)),
          ("init", some (Tree.mk "ObjectExpression" 6 (stop + 3) [
            ("properties", some (.list [
              Tree.mk "Property" 7 (stop + 2) [
                ("key", some key),
                ("value", some (Tree.mk "Literal" (stop + 1) (stop + 2) [("value", some (.int 1))]))]]))]))]])),
      ("kind", some (.text "var"))],
    Tree.mk "ExpressionStatement" (stop + 4) (stop + value.length + 8) [
      ("expression", some (Tree.mk "MemberExpression" (stop + 4) (stop + value.length + 8) [
        ("computed", some (.bool true)),
        ("object", some (nameAt "o" (stop + 4) (stop + 5))),
        ("property", some (stringAt value (stop + 6)))]))]]))]

/-- A session in which a class has a token, and a phrase a layout. -/
def styledBefore : Context :=
  .ofMappings "" { Mappings.empty with classNames := [("header", "t")], textChunks := [("a b", "12")] }
    (Twister.ofSeed 0)

end VeiledGateway.Script
