/-
  Recasting: tokens of style sheets in whose place others stand.

  A selector is recast with a token of the session for its name, an address and the string of an import
  with a path for their reference, and a string of declarations in pieces.  What is recast is read as one
  token of its kind again, and of what was read before it at most a quote that was left open notices:
  the end of a string where an end of line goes, and that of an address where the quote itself goes.

  What is inside a string is read code point by code point.  Behind a backslash the end of a line is
  nothing, up to six hexadecimal digits and a blank are the code of a code point, and anything else
  stands for itself; an end of a line without a backslash makes it no string.  Where a string is broken
  into pieces with escaped ends of lines between them, its value stays.
-/
import VeiledGateway.Proofs.Context.Minting
import VeiledGateway.Proofs.Style.Replacing
import VeiledGateway.Style.Rewrite

set_option autoImplicit false

namespace VeiledGateway.Style

/-! ## The values of strings -/

/-- How far the inside of a string has been read. -/
inductive StringState where
  | plain
  /-- Behind a backslash. -/
  | escaped
  /-- Behind so many hexadecimal digits of an escape. -/
  | code (digits value : Nat)
  /-- Behind a carriage return that was passed over; a line feed goes with it. -/
  | carriage

/-- A code point of a value; what may not be one is replaced. -/
def valuePoint (c : CodePoint) : CodePoint :=
  if c.val = 0 || c.isSurrogate then CodePoint.replacement else c

def isLineEnd (c : CodePoint) : Bool :=
  c == '\n' || c == '\r' || c == '\x0c'

/-- What is read of a string that no escape precedes. -/
def readPlain (c : CodePoint) : Option (Text × StringState) :=
  if c == '\\' then some ([], .escaped)
  else if isLineEnd c then none
  else some ([valuePoint c], .plain)

/-- How a code point is passed over. -/
def passOver (c : CodePoint) : StringState :=
  if c == '\r' then .carriage else .plain

/-- What a code point adds to the value, and how far has been read with it. -/
def readNext : StringState → CodePoint → Option (Text × StringState)
  | .plain, c => readPlain c
  | .escaped, c =>
    if c.isHexDigit then some ([], .code 1 (c.hexValue?.getD 0))
    else if isLineEnd c then some ([], passOver c)
    else some ([valuePoint c], .plain)
  | .code digits value, c =>
    if digits < 6 && c.isHexDigit then some ([], .code (digits + 1) (value * 16 + c.hexValue?.getD 0))
    else if isLineEnd c || c == '\t' || c == ' ' then
      some ([valuePoint (codePointOf value)], passOver c)
    else (readPlain c).map fun next => (valuePoint (codePointOf value) :: next.1, next.2)
  | .carriage, c => if c == '\n' then some ([], .plain) else readPlain c

/-- The value of the rest of what is inside a string, if it is one. -/
def stringValueFrom : StringState → Text → Option Text
  | .plain, [] => some []
  | .escaped, [] => none
  | .code _ value, [] => some [valuePoint (codePointOf value)]
  | .carriage, [] => some []
  | s, c :: rest =>
    (readNext s c).bind fun next => (stringValueFrom next.2 rest).map (next.1 ++ ·)

/-- The value of what is inside a string, if it is one. -/
def stringValue (inside : Text) : Option Text :=
  stringValueFrom .plain inside

theorem stringValue_cons {c : CodePoint} (h : c ≠ CodePoint.ofChar '\\') (t : Text) :
    stringValue (c :: t) = if isLineEnd c then none else (stringValue t).map (valuePoint c :: ·) := by
  have hread : stringValue (c :: t) = (readPlain c).bind fun next =>
      (stringValueFrom next.2 t).map (next.1 ++ ·) := rfl
  rw [hread, readPlain, if_neg (by simpa using h)]
  split <;> rfl

/-- What has no escapes in it can be read by itself. -/
theorem stringValue_append {a : Text} (h : CodePoint.ofChar '\\' ∉ a) (b : Text) :
    stringValue (a ++ b) = (stringValue a).bind fun value => (stringValue b).map (value ++ ·) := by
  induction a with
  | nil => exact Option.map_id'.symm
  | cons c a ih =>
    obtain ⟨hc, ha⟩ := List.ne_and_not_mem_of_not_mem_cons h
    rw [List.cons_append, stringValue_cons hc.symm, stringValue_cons hc.symm, ih ha]
    split
    · rfl
    · rcases stringValue a with _ | value
      · rfl
      · simp [Function.comp_def]

theorem stringValue_lineContinuation (t : Text) : stringValue (lineContinuation ++ t) = stringValue t := by
  have hread : stringValue (lineContinuation ++ t) = ((stringValue t).map ([] ++ ·)).map ([] ++ ·) := rfl
  rw [hread]
  simp

theorem join_cons_cons (sep part next : Text) (others : List Text) :
    Text.join sep (part :: next :: others) = part ++ (sep ++ Text.join sep (next :: others)) :=
  List.append_assoc ..

/-- A string in pieces has the value of the whole one. -/
theorem stringValue_join {parts : List Text} (h : CodePoint.ofChar '\\' ∉ parts.flatten) :
    stringValue (Text.join lineContinuation parts) = stringValue parts.flatten := by
  induction parts with
  | nil => rfl
  | cons part rest ih =>
    rw [List.flatten_cons, List.mem_append, not_or] at h
    obtain ⟨hpart, hrest⟩ := h
    cases rest with
    | nil => rw [Text.join, List.flatten_singleton]
    | cons next others =>
      rw [join_cons_cons, List.flatten_cons, stringValue_append hpart, stringValue_append hpart,
        stringValue_lineContinuation, ih hrest]

example : stringValue "\\66\no\\\no\\\"\\0000410" = some "foo\"A0" := by
  decide

/-! ## Tokens in the place of others -/

variable {old new rest rest' text name tok reference : Text} {c c' q quote : CodePoint}

/-- What holds of a token and the one in its place.  `core` is what of the token goes, if any of it may
go. -/
structure Recasts (core : Option Text) (kind : TokenKind) (rest old new : Text) : Prop where
  unnoticed : Unnoticed old new
  string {q : CodePoint} (hq : IsQuote q) (hline : core.isSome = true → CodePoint.ofChar '\n' ∉ old) :
    (stringMachine q).Safe old new
  closer {q : CodePoint} (hq : IsQuote q) (hquote : ∀ inside, core = some inside → q ∉ inside) :
    (closerMachine q).Safe old new
  /-- What is left open behind the token is left open behind the other one. -/
  stays {rest' : Text} (hkind : kind = .address) (h : StaysOpen old rest') : StaysOpen new rest'
  again {rest' : Text} (h : Unnoticed rest rest') (hopen : kind = .address → StaysOpen new rest') :
    tokenAt (new ++ rest') = some (kind, new.length)

/-- A token that stays. -/
theorem recasts_refl {kind : TokenKind} (core : Option Text)
    (h : tokenAt (text ++ rest) = some (kind, text.length)) :
    Recasts core kind rest text text where
  unnoticed := .refl text
  string := fun _ _ => .refl text
  closer := fun _ _ => .refl text
  stays := fun _ h => h
  again := fun hrest hopen => tokenAt_of_unnoticed hrest hopen h

/-! ## Selectors -/

namespace Selector

theorem headAlike (selector : Selector) : HeadAlike selector.sign selector.sign := by
  cases selector
  · exact .inl ⟨rfl, .inl rfl⟩
  · exact .inl ⟨rfl, .inr (.inl rfl)⟩

theorem sign_ne (selector : Selector) (hq : IsQuote q) : selector.sign ≠ q := by
  cases selector <;> rcases hq with rfl | rfl <;> decide

end Selector

theorem isAscii_of_isMark (h : Token.isMark c = true) : c.isAscii = true := by
  rw [CodePoint.isAscii, decide_eq_true_eq]
  exact Nat.lt_of_le_of_lt (Token.isMark_bounds h).2 (by decide)

/-- A code point of tokens is part of a name, and means nothing else. -/
theorem of_isMark (h : Token.isMark c = true) :
    isNamePart c = true ∧ c ≠ CodePoint.ofChar '\\' ∧ c ≠ CodePoint.ofChar '\n' ∧
      c ≠ CodePoint.ofChar '*' ∧ c ≠ CodePoint.ofChar ')' ∧ ¬ IsQuote c := by
  refine of_isAscii (p := fun c => Token.isMark c = true → isNamePart c = true ∧
    c ≠ CodePoint.ofChar '\\' ∧ c ≠ CodePoint.ofChar '\n' ∧ c ≠ CodePoint.ofChar '*' ∧
    c ≠ CodePoint.ofChar ')' ∧ ¬ IsQuote c) ?_ (isAscii_of_isMark h) h
  unfold IsQuote
  decide +kernel

theorem spells_of_marks (h : ∀ c ∈ tok, Token.isMark c = true) : Spells isNamePart rest tok tok := by
  induction tok with
  | nil => exact .nil
  | cons c marks ih =>
    obtain ⟨hc, hmarks⟩ := List.forall_mem_cons.mp h
    exact .plain (of_isMark hc).1 (ih hmarks)

/-- A token is read as a name where a name ends. -/
theorem isName_of_marked (htok : Token.Marked tok) (hrest : namePartSize isNamePart rest = none) :
    IsName rest tok := by
  obtain @⟨c, marks, hc, hmarks⟩ := htok
  have hstart : isNameStart c = true := by
    rw [isNameStart, CodePoint.isAsciiLetter, hc]
    rfl
  have hname : IsName rest ([] ++ [c] ++ marks) :=
    .name (.inl rfl) (.plain hstart .nil) (spells_of_marks hmarks) hrest
  exact hname

/-- A token is decoded to itself. -/
theorem unescape_of_marked (htok : Token.Marked tok) : unescape tok = tok := by
  have hspells : Spells isNamePart [] tok tok := spells_of_marks htok.marks
  exact unescape_of_spells (by decide) hspells

theorem stringMachine_of_isNamePart (hq : IsQuote q) (hc : isNamePart c = true) :
    stringMachine q false c = .go false := by
  have hno : c ≠ q ∧ c ≠ CodePoint.ofChar '\\' ∧ c ≠ CodePoint.ofChar '\n' := by
    refine ⟨?_, ?_, ?_⟩ <;> rintro rfl
    · rcases hq with rfl | rfl <;> exact absurd hc (by decide)
    · exact absurd hc (by decide)
    · exact absurd hc (by decide)
  rw [stringMachine]
  simp [hno]

theorem isNamePart_of_isHexDigit (h : c.isHexDigit = true) : isNamePart c = true := by
  have hascii : c.isAscii = true := by
    by_contra hno
    simp only [CodePoint.isAscii, decide_eq_true_eq, Nat.not_lt] at hno
    simp only [CodePoint.isHexDigit, CodePoint.hexValue?, CodePoint.isAsciiDigit] at h
    grind
  exact of_isAscii (p := fun c => c.isHexDigit = true → isNamePart c = true) (by decide +kernel) hascii h

/-- A code is passed over digit by digit. -/
theorem stringMachine_code (hq : IsQuote q) {digits more : Text} (hne : digits ≠ [])
    (hdigits : ∀ d ∈ digits, d.isHexDigit = true) :
    (stringMachine q).walk (.go true) (digits ++ more) = (stringMachine q).walk (.go false) more := by
  rcases digits with _ | ⟨d, digits⟩
  · exact absurd rfl hne
  have hgo : (stringMachine q).walk (.go false) digits = .go false := by
    have hrest := (List.forall_mem_cons.mp hdigits).2
    clear hne hdigits
    induction digits with
    | nil => rfl
    | cons e digits ih =>
      obtain ⟨he, hrest⟩ := List.forall_mem_cons.mp hrest
      rw [Machine.walk_cons, stringMachine_of_isNamePart hq (isNamePart_of_isHexDigit he), ih hrest]
  have hfirst : stringMachine q true d = .go false := rfl
  rw [List.cons_append, Machine.walk_cons, hfirst, Machine.walk_append, hgo]

/-- A name does not end a string, if no line ends in it. -/
theorem stringMachine_of_spells (hq : IsQuote q) (h : Spells isNamePart rest text name)
    (hline : CodePoint.ofChar '\n' ∉ text) : (stringMachine q).walk (.go false) text = .go false := by
  have hslash : stringMachine q false '\\' = .go true := by rcases hq with rfl | rfl <;> rfl
  induction h with
  | nil => rfl
  | plain hc _ ih =>
    rw [Machine.walk_cons, stringMachine_of_isNamePart hq hc]
    exact ih (List.not_mem_of_not_mem_cons hline)
  | @sign c spelling name _ _ _ ih =>
    have hbehind : stringMachine q true c = .go false := rfl
    rw [Machine.walk_cons, hslash, Machine.walk_cons, hbehind]
    exact ih (List.not_mem_of_not_mem_cons (List.not_mem_of_not_mem_cons hline))
  | @code digits spelling name blank hne _ hdigits hblank _ ih =>
    have hbehind : CodePoint.ofChar '\n' ∉ blank :: spelling := fun hmem =>
      hline (List.mem_cons_of_mem _ (List.mem_append_right _ hmem))
    obtain ⟨hend, hrest⟩ := List.ne_and_not_mem_of_not_mem_cons hbehind
    have hpass : stringMachine q false blank = .go false := by
      have hno : blank ≠ q ∧ blank ≠ CodePoint.ofChar '\\' := by
        constructor <;> rintro rfl
        · rw [hq.isBlank] at hblank
          cases hblank
        · exact absurd hblank (by decide)
      rw [stringMachine]
      simp [hno, hend.symm]
    rw [Machine.walk_cons, hslash, stringMachine_code hq hne hdigits, Machine.walk_cons, hpass]
    exact ih hrest
  | @bare digits spelling name hne _ hdigits _ _ ih =>
    rw [Machine.walk_cons, hslash, stringMachine_code hq hne hdigits]
    exact ih fun hmem => hline (List.mem_cons_of_mem _ (List.mem_append_right _ hmem))

/-- A selector with a token in the place of its name. -/
theorem recasts_selector (selector : Selector) (hname : IsName rest name) (htok : Token.Marked tok) :
    Recasts (some name) selector.kind rest (selector.sign :: name) (selector.sign :: tok) := by
  have hmarks := htok.marks
  have hquote {q : CodePoint} (hq : IsQuote q) : q ∉ tok := fun hmem =>
    (of_isMark (hmarks q hmem)).2.2.2.2.2 hq
  have hnot {d : CodePoint} (hd : Token.isMark d = false) (hsign : d ≠ selector.sign) :
      d ∉ selector.sign :: tok := by
    rintro (_ | ⟨_, hmem⟩)
    · exact hsign rfl
    · rw [hmarks d hmem] at hd
      cases hd
  refine ⟨?_, fun {q} hq hline => ?_, fun {q} hq hcore => ?_, fun {_} hkind _ => ?_, fun {rest'} h _ => ?_⟩
  · refine unnoticed_of_plain selector.headAlike (hnot (by decide) ?_) fun hmem =>
      absurd hmem (hnot (by decide) ?_) <;> cases selector <;> decide
  · obtain ⟨decoded, hspells⟩ := hname.spells
    have hend : CodePoint.ofChar '\n' ∉ name := List.not_mem_of_not_mem_cons (hline rfl)
    have hmarked : Spells isNamePart [] tok tok := spells_of_marks hmarks
    refine safe_stringMachine hq selector.headAlike ?_
    rw [stringMachine_of_spells hq hspells hend,
      stringMachine_of_spells hq hmarked fun hmem => (of_isMark (hmarks _ hmem)).2.2.1 rfl]
    exact .refl _
  · refine safe_closerMachine hq selector.headAlike fun closed hclosed => ?_
    obtain rfl : closed = false := by
      rw [← Bool.not_eq_true]
      exact fun h => selector.sign_ne hq (hclosed.mp h)
    exact below_closerMachine (hcore name rfl) (hquote hq)
  · cases selector <;> cases hkind
  · have hend : namePartSize isNamePart rest = none := by
      obtain ⟨-, -, -, hend⟩ := hname
      exact hend
    have hsize := nameSize_eq_some_iff.mpr (isName_of_marked htok (h.namePartSize hend))
    rw [List.cons_append, selector.tokenAt_eq, hsize]
    rfl

/-! ## Links -/

/-- A code point that means nothing in addresses and strings. -/
def isHarmless (c : CodePoint) : Bool :=
  !(c.isBlank || c == '\\' || c == '*' || c == ')' || c == '"' || c == '\'')

/-- A reference that can stand in the place of any other one. -/
structure IsLink (t : Text) : Prop where
  ne_nil : t ≠ []
  harmless : ∀ c ∈ t, isHarmless c = true

theorem IsLink.not_mem (h : IsLink new) (hc : isHarmless c = false) : c ∉ new := by
  intro hmem
  rw [h.harmless c hmem] at hc
  cases hc

theorem isHarmless_of_isQuote (hq : IsQuote q) : isHarmless q = false := by
  rcases hq with rfl | rfl <;> decide

/-- A link begins with what neither is blank nor closes an address. -/
theorem IsLink.head (h : IsLink new) :
    ∃ d more, new = d :: more ∧ d.isBlank = false ∧ d ≠ CodePoint.ofChar ')' ∧ ¬ IsQuote d := by
  obtain ⟨d, more, rfl⟩ := List.exists_cons_of_ne_nil h.ne_nil
  have hd := h.harmless d List.mem_cons_self
  refine ⟨d, more, rfl, ?_, ?_, fun hquote => ?_⟩
  · rw [← Bool.not_eq_true]
    intro hblank
    rw [isHarmless, hblank] at hd
    cases hd
  · rintro rfl
    cases hd
  · rw [isHarmless_of_isQuote hquote] at hd
    cases hd

/-! ### Strings of imports -/

theorem mem_string_iff {inside : Text} : c ∈ inside ++ [quote] ↔ c ∈ inside ∨ c = quote := by
  rw [List.mem_append, List.mem_singleton]

/-- A string with a link inside. -/
theorem recasts_import (hquote : IsQuote quote) (hslash : CodePoint.ofChar '\\' ∉ reference)
    (hwalk : (stringMachine quote).walk (.go false) reference = .go false) (hnew : IsLink new) :
    Recasts (some reference) .string rest (quote :: (reference ++ [quote])) (quote :: (new ++ [quote])) := by
  obtain ⟨hself, hline⟩ := (stringMachine_plain hslash).mp hwalk
  have hhead : HeadAlike quote quote := .inl ⟨rfl, .inr (.inr hquote)⟩
  have hno {d : CodePoint} (hd : isHarmless d = false) (hne : d ≠ quote) : d ∉ new ++ [quote] := by
    rw [mem_string_iff]
    exact not_or.mpr ⟨hnew.not_mem hd, hne⟩
  have hplain : CodePoint.ofChar '\\' ≠ quote ∧ CodePoint.ofChar '\n' ≠ quote ∧
      CodePoint.ofChar '*' ≠ quote ∧ CodePoint.ofChar ')' ≠ quote := by
    rcases hquote with rfl | rfl <;> decide
  obtain ⟨hne, hne', hstar, hend⟩ := hplain
  refine ⟨?_, fun {q} hq _ => ?_, fun {q} hq hcore => ?_, fun {_} hkind _ => ?_, fun {rest'} _ _ => ?_⟩
  · refine unnoticed_of_plain hhead ?_ fun hmem => absurd hmem ?_
    · exact List.not_mem_cons_of_ne_of_not_mem hstar (hno (by decide) hstar)
    · exact List.not_mem_cons_of_ne_of_not_mem hend (hno (by decide) hend)
  · refine safe_stringMachine hq hhead (below_stringMachine ?_ ⟨hno (by decide) hne, hno (by decide) hne'⟩ ?_)
    · simp [hslash, hline, hne, hne']
    · intro hmem
      rcases mem_string_iff.mp hmem with hmem | rfl
      · exact absurd hmem (hnew.not_mem (isHarmless_of_isQuote hq))
      · exact mem_string_iff.mpr (.inr rfl)
  · refine safe_closerMachine hq hhead fun closed hclosed => ?_
    cases closed with
    | true =>
      obtain ⟨d, more, rfl, hblank, hend, -⟩ := hnew.head
      rw [List.cons_append, closerMachine_lost hblank hend]
      exact Machine.below_lost _
    | false =>
      have hother : q ≠ quote := fun h => Bool.false_ne_true (hclosed.mpr h.symm)
      refine below_closerMachine ?_ (hno (isHarmless_of_isQuote hq) hother)
      rw [mem_string_iff]
      exact not_or.mpr ⟨hcore reference rfl, hother⟩
  · cases hkind
  · refine tokenAt_of_string hquote ?_ rest'
    exact (stringMachine_plain (hnew.not_mem (by decide))).mpr
      ⟨hnew.not_mem (isHarmless_of_isQuote hquote), hnew.not_mem (by decide)⟩

/-! ### Addresses -/

theorem mem_dropWhile {p : CodePoint → Bool} (hmem : c ∈ text) (hc : p c = false) :
    c ∈ text.dropWhile p := by
  rw [← List.takeWhile_append_dropWhile (p := p) (l := text), List.mem_append] at hmem
  refine hmem.resolve_left fun h => ?_
  rw [List.mem_takeWhile_imp h] at hc
  cases hc

theorem mem_trim (hmem : c ∈ text) (hblank : c.isBlank = false) : c ∈ Text.trim text := by
  rw [Text.trim, Text.trimRight, List.mem_reverse]
  exact mem_dropWhile (List.mem_reverse.mpr (mem_dropWhile hmem hblank)) hblank

theorem mem_of_mem_trim (h : c ∈ Text.trim text) : c ∈ text := by
  rw [Text.trim, Text.trimRight, List.mem_reverse] at h
  exact (List.dropWhile_sublist _).subset (List.mem_reverse.mp ((List.dropWhile_sublist _).subset h))

/-- What is between the parentheses of an address. -/
def within (address : Text) : Text :=
  (address.drop 4).dropLast

/-- An address has no quotes, or one on both sides. -/
theorem addressParts_quote (text : Text) :
    (addressParts text).1 = [] ∨
      ∃ quote ∈ within text, IsQuote quote ∧ (addressParts text).1 = [quote] := by
  unfold addressParts
  dsimp only
  split
  · rename_i c d more hinside
    split
    · rename_i hquote
      refine .inr ⟨c, mem_of_mem_trim (hinside ▸ List.mem_cons_self), ?_, rfl⟩
      simpa [IsQuote] using ((Bool.and_eq_true _ _).mp hquote).1
    · exact .inl rfl
  · exact .inl rfl

/-- What is no blank in an address is of its quotes or of its reference. -/
theorem mem_addressParts (hmem : c ∈ within text) (hblank : c.isBlank = false) :
    c ∈ (addressParts text).1 ∨ c ∈ (addressParts text).2 := by
  have hinside : c ∈ Text.trim (within text) := mem_trim hmem hblank
  unfold addressParts
  dsimp only
  split
  · rename_i d e more heq
    split
    · rename_i hquote
      rw [within, heq] at hinside
      obtain ⟨-, hlast⟩ := (Bool.and_eq_true _ _).mp hquote
      obtain ⟨lead, hlead⟩ := List.getLast?_eq_some_iff.mp (beq_iff_eq.mp hlast)
      rcases List.mem_cons.mp hinside with rfl | hinside
      · exact .inl List.mem_cons_self
      · rw [hlead, List.mem_append, List.mem_singleton] at hinside
        rcases hinside with hinside | rfl
        · refine .inr (mem_trim ?_ hblank)
          rwa [hlead, List.dropLast_concat]
        · exact .inl List.mem_cons_self
    · exact .inr hinside
  · exact .inr hinside

/-- An address is its letters, what is within, and a parenthesis. -/
theorem IsAddress.shape (h : IsAddress rest text) :
    ∃ c letters, text = c :: (letters ++ (within text ++ [CodePoint.ofChar ')'])) ∧ IsAddressLetter c ∧
      letters.map CodePoint.asciiLower = Text.ofString "rl(" := by
  have hshape {c : CodePoint} {letters : Text} (hc : IsAddressLetter c)
      (hletters : letters.map CodePoint.asciiLower = Text.ofString "rl(") (body : Text)
      (htext : text = c :: (letters ++ (body ++ [CodePoint.ofChar ')']))) :
      ∃ c letters, text = c :: (letters ++ (within text ++ [CodePoint.ofChar ')'])) ∧
        IsAddressLetter c ∧ letters.map CodePoint.asciiLower = Text.ofString "rl(" := by
    have hlength : letters.length = 3 := by
      have h := congrArg List.length hletters
      rwa [List.length_map] at h
    have hwithin : within text = body := by
      rw [within, htext, List.drop_succ_cons, List.drop_left' hlength, List.dropLast_concat]
    exact ⟨c, letters, hwithin ▸ htext, hc, hletters⟩
  rcases h with @⟨c, quote, letters, blanks, inside, hc, hletters, hblanks, hquote, hinside⟩ |
    @⟨c, d, letters, blanks, inside, hc, hletters, hblanks, hd, hquoted, hinside⟩
  · obtain ⟨lead, e, closed, rfl, -, he⟩ := Machine.walk_of_size? hinside
    obtain rfl := closerMachine_found he
    exact hshape hc hletters (blanks ++ quote :: lead) (by simp)
  · obtain ⟨lead, e, s, hlead, hwalk, he⟩ := Machine.walk_of_size? (t := d :: inside) hinside
    obtain rfl := addressMachine_found he
    rw [hlead] at hshape ⊢
    exact hshape hc hletters (blanks ++ lead) (by simp)

/-- The letters of an address are no quotes, and nothing else that is looked for. -/
theorem not_mem_letters {letters : Text} (hletters : letters.map CodePoint.asciiLower = Text.ofString "rl(")
    {d : CodePoint} (hlower : d.asciiLower = d) (hd : d ∉ Text.ofString "rl(") : d ∉ letters := by
  intro hmem
  refine hd ?_
  rw [← hletters, List.mem_map]
  exact ⟨d, hmem, hlower⟩

/-- An address with the same quotes and a link between them. -/
def linkedAddress (quotes new : Text) : Text :=
  CodePoint.ofChar 'u' :: ("rl(" ++ (quotes ++ (new ++ (quotes ++ [CodePoint.ofChar ')']))))

/-- A link is read as an address, whether it stands in quotes or not. -/
theorem isAddress_linked (hnew : IsLink new) {quotes : Text} (hquotes : quotes = [] ∨ ∃ q, IsQuote q ∧ quotes = [q])
    (rest : Text) : IsAddress rest (linkedAddress quotes new) := by
  have hletters : (Text.ofString "rl(").map CodePoint.asciiLower = Text.ofString "rl(" := by decide
  rcases hquotes with rfl | ⟨q, hq, rfl⟩
  · obtain ⟨d, more, rfl, hblank, -, hno⟩ := hnew.head
    have hinside : addressMachine.walk (.go .inside) (d :: more) = .go .inside := by
      rw [addressMachine_inside, if_neg (hnew.not_mem (by decide))]
    have hsize := Machine.size?_of_walk hinside (if_pos rfl) rest
    refine @IsAddress.plain rest _ d _ [] (more ++ [CodePoint.ofChar ')']) (.inl rfl) hletters
      (fun _ h => nomatch h) hblank (quotedAddressSize_of_not_quote hno _) ?_
    rw [List.append_assoc, List.singleton_append, ← List.cons_append, hsize]
    simp
  · obtain ⟨d, more, rfl, hblank, hend, -⟩ := hnew.head
    have hself := hnew.not_mem (isHarmless_of_isQuote hq)
    have hinside : (closerMachine q).walk (.go false) (d :: more ++ [q]) = .go true := by
      rw [Machine.walk_append, closerMachine_plain hself, Machine.walk_cons]
      exact if_pos rfl
    have hfound : closerMachine q true (CodePoint.ofChar ')') = .stop true := rfl
    have hsize := Machine.size?_of_walk hinside hfound rest
    have haddress := @IsAddress.quoted rest _ q _ [] (d :: more ++ [q] ++ [CodePoint.ofChar ')']) (.inl rfl) hletters
      (fun _ h => nomatch h) hq (by
        rw [List.append_assoc, List.singleton_append, hsize]
        simp)
    rwa [List.append_assoc] at haddress

/-- What a linked address holds behind its first letter. -/
theorem mem_linked {quotes : Text} (hnew : IsLink new) (hc : isHarmless c = false)
    (hmem : c ∈ Text.ofString "rl(" ++ (quotes ++ (new ++ (quotes ++ [CodePoint.ofChar ')'])))) :
    c ∈ Text.ofString "rl(" ∨ c ∈ quotes ∨ c = CodePoint.ofChar ')' := by
  have hno := hnew.not_mem hc
  simp only [List.mem_append, List.mem_singleton] at hmem ⊢
  grind

/-- An address with a link for its reference. -/
theorem recasts_address (htext : IsAddress rest text)
    (hslash : CodePoint.ofChar '\\' ∉ (addressParts text).2) (hnew : IsLink new) :
    Recasts (some (addressParts text).2) .address rest text (linkedAddress (addressParts text).1 new) := by
  obtain ⟨c, letters, hshape, hc, hletters⟩ := htext.shape
  have hquotes := addressParts_quote text
  have hparts {d : CodePoint} := @mem_addressParts text d
  generalize within text = body at hshape hquotes hparts
  generalize addressParts text = parts at hquotes hparts hslash ⊢
  obtain ⟨quotes, reference⟩ := parts
  dsimp only at hquotes hparts hslash ⊢
  subst hshape
  have hhead : HeadAlike c (CodePoint.ofChar 'u') := .inr ⟨hc, rfl⟩
  have hquotes' : quotes = [] ∨ ∃ q, IsQuote q ∧ quotes = [q] :=
    hquotes.imp_right fun ⟨q, _, hq, hquotes⟩ => ⟨q, hq, hquotes⟩
  have hnoquote {d : CodePoint} (hd : ¬ IsQuote d) : d ∉ quotes := by
    rcases hquotes with rfl | ⟨q, -, hq, rfl⟩
    · exact List.not_mem_nil
    · rw [List.mem_singleton]
      rintro rfl
      exact hd hq
  have hlinked {d : CodePoint} (hd : isHarmless d = false) (hletter : d ∉ Text.ofString "rl(")
      (hquote : d ∉ quotes) (hend : d ≠ CodePoint.ofChar ')') :
      d ∉ Text.ofString "rl(" ++ (quotes ++ (new ++ (quotes ++ [CodePoint.ofChar ')']))) := by
    intro hmem
    rcases mem_linked hnew hd hmem with h | h | h
    · exact hletter h
    · exact hquote h
    · exact hend h
  have hold {d : CodePoint} (hlower : d.asciiLower = d) (hletter : d ∉ Text.ofString "rl(")
      (hblank : d.isBlank = false) (hend : d ≠ CodePoint.ofChar ')') (hquote : d ∉ quotes)
      (hreference : d ∉ reference) : d ∉ letters ++ (body ++ [CodePoint.ofChar ')']) := by
    rw [List.mem_append, List.mem_append, List.mem_singleton]
    rintro (h | h | h)
    · exact not_mem_letters hletters hlower hletter h
    · exact (hparts h hblank).elim hquote hreference
    · exact hend h
  refine ⟨?_, fun {q} hq hline => ?_, fun {q} hq hcore => ?_, fun {rest'} _ _ => ?_, fun {rest'} _ _ => ?_⟩
  · refine unnoticed_of_plain hhead ?_ fun _ => by simp
    exact List.not_mem_cons_of_ne_of_not_mem (by decide)
      (hlinked (by decide) (by decide) (hnoquote (by unfold IsQuote; decide)) (by decide))
  · have hslash' := hnoquote (d := CodePoint.ofChar '\\') (by unfold IsQuote; decide)
    have hline' := hnoquote (d := CodePoint.ofChar '\n') (by unfold IsQuote; decide)
    refine safe_stringMachine hq hhead (below_stringMachine ⟨?_, ?_⟩ ⟨?_, ?_⟩ fun hmem => ?_)
    · exact hold (by decide) (by decide) (by decide) (by decide) hslash' hslash
    · exact List.not_mem_of_not_mem_cons (hline rfl)
    · exact hlinked (by decide) (by decide) hslash' (by decide)
    · exact hlinked (by decide) (by decide) hline' (by decide)
    · have hquote : q ∈ quotes := by
        rcases mem_linked hnew (isHarmless_of_isQuote hq) hmem with h | h | h
        · rcases hq with rfl | rfl <;> exact absurd h (by decide)
        · exact h
        · rcases hq with rfl | rfl <;> exact absurd h (by decide)
      rcases hquotes with rfl | ⟨q', hmem', -, rfl⟩
      · cases hquote
      · obtain rfl := List.mem_singleton.mp hquote
        exact List.mem_append_right _ (List.mem_append_left _ hmem')
  · refine safe_closerMachine hq hhead fun closed hclosed => ?_
    have hplain : q ≠ c ∧ q.asciiLower = q ∧ q ∉ Text.ofString "rl(" ∧ q ≠ CodePoint.ofChar ')' := by
      rcases hc with rfl | rfl <;> rcases hq with rfl | rfl <;> decide
    obtain ⟨hne, hlower, hletter, hend⟩ := hplain
    obtain rfl : closed = false := by
      rw [← Bool.not_eq_true]
      exact fun h => hne (hclosed.mp h).symm
    by_cases hmem : q ∈ quotes
    · -- Between the quotes there is a link, which is not closed.
      obtain rfl : quotes = [q] := by
        rcases hquotes with rfl | ⟨q', -, -, rfl⟩
        · cases hmem
        · rw [List.mem_singleton.mp hmem]
      obtain ⟨d, more, rfl, hblank, hend, -⟩ := hnew.head
      have hopen : closerMachine q false q = .go true := if_pos rfl
      rw [Machine.walk_append (.go false) (Text.ofString "rl("), closerMachine_plain hletter,
        List.singleton_append, Machine.walk_cons, hopen, List.cons_append, closerMachine_lost hblank hend]
      exact Machine.below_lost _
    · exact below_closerMachine (hold hlower hletter hq.isBlank hend hmem (hcore reference rfl))
        (hlinked (isHarmless_of_isQuote hq) hletter hmem hend)
  · exact (isAddress_linked hnew hquotes' rest').staysOpen
  · exact tokenAt_of_isAddress (isAddress_linked hnew hquotes' rest')

/-! ### Strings in pieces -/

/-- What may stand anywhere may stand between the pieces of a text. -/
theorem Machine.Safe.join {σ : Type} {m : Machine σ} {sep : Text} (h : m.Safe [] sep) (parts : List Text) :
    m.Safe parts.flatten (Text.join sep parts) := by
  induction parts with
  | nil => exact .refl _
  | cons part rest ih =>
    cases rest with
    | nil =>
      rw [Text.join, List.flatten_singleton]
      exact .refl _
    | cons next others =>
      rw [join_cons_cons, List.flatten_cons]
      exact (Machine.Safe.refl part).append (h.append ih)

theorem safe_lineContinuation_comment : commentMachine.Safe [] lineContinuation := by
  intro s
  cases s with
  | slashed => exact Machine.below_lost _
  | inside => exact .refl _
  | starred => exact below_inside nofun

theorem safe_lineContinuation_address : addressMachine.Safe [] lineContinuation := by
  intro s
  cases s with
  | inside => exact .refl _
  | _ => exact Machine.below_lost _

theorem safe_lineContinuation_string (hq : IsQuote q) : (stringMachine q).Safe [] lineContinuation := by
  intro s
  cases s with
  | false => rcases hq with rfl | rfl <;> exact .refl _
  | true => rcases hq with rfl | rfl <;> exact Machine.below_lost _

theorem safe_lineContinuation_closer (hq : IsQuote q) : (closerMachine q).Safe [] lineContinuation := by
  intro s
  cases s with
  | false => rcases hq with rfl | rfl <;> exact .refl _
  | true => exact Machine.below_lost _

/-- Ends of lines behind backslashes do not end a string. -/
theorem stringMachine_join (hquote : IsQuote quote) {parts : List Text}
    (hslash : CodePoint.ofChar '\\' ∉ parts.flatten)
    (hwalk : (stringMachine quote).walk (.go false) parts.flatten = .go false) :
    (stringMachine quote).walk (.go false) (Text.join lineContinuation parts) = .go false := by
  induction parts with
  | nil => rfl
  | cons part rest ih =>
    rw [List.flatten_cons, List.mem_append, not_or] at hslash
    obtain ⟨hpart, hrest⟩ := (stringMachine_plain (by
      rw [List.flatten_cons, List.mem_append]
      exact not_or.mpr hslash)).mp hwalk
    rw [List.flatten_cons, List.mem_append, not_or] at hpart hrest
    have hfirst := (stringMachine_plain hslash.1).mpr ⟨hpart.1, hrest.1⟩
    have hothers := ih hslash.2 ((stringMachine_plain hslash.2).mpr ⟨hpart.2, hrest.2⟩)
    cases rest with
    | nil => exact hfirst
    | cons next others =>
      have hbetween : (stringMachine quote).walk (.go false) lineContinuation = .go false := by
        rcases hquote with rfl | rfl <;> rfl
      rw [join_cons_cons, Machine.walk_append, hfirst, Machine.walk_append, hbetween, hothers]

/-- A string in pieces, which nothing notices. -/
theorem recasts_chunk (core : Option Text) (hquote : IsQuote quote) {parts : List Text}
    (hslash : CodePoint.ofChar '\\' ∉ parts.flatten)
    (hwalk : (stringMachine quote).walk (.go false) parts.flatten = .go false) :
    Recasts core .string rest (quote :: (parts.flatten ++ [quote]))
      (quote :: (Text.join lineContinuation parts ++ [quote])) := by
  have hsafe {σ : Type} {m : Machine σ} (h : m.Safe [] lineContinuation) :
      m.Safe (quote :: (parts.flatten ++ [quote])) (quote :: (Text.join lineContinuation parts ++ [quote])) :=
    (Machine.Safe.refl [quote]).append ((h.join parts).append (.refl [quote]))
  have hhead : HeadAlike quote quote := .inl ⟨rfl, .inr (.inr hquote)⟩
  exact {
    unnoticed := unnoticed_of_head hhead (hsafe safe_lineContinuation_comment)
      (hsafe safe_lineContinuation_address)
    string := fun hq _ => hsafe (safe_lineContinuation_string hq)
    closer := fun hq _ => hsafe (safe_lineContinuation_closer hq)
    stays := fun hkind _ => by cases hkind
    again := fun _ _ => tokenAt_of_string hquote (stringMachine_join hquote hslash hwalk) _ }

end VeiledGateway.Style
