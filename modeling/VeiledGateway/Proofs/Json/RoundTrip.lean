/-
  Round trips: a value that is written compactly is read back.

  A text in quotes is read back, by the strict reader too, where nothing is escaped that need not be:
  each code point is written as itself, as an escape of one letter, or as the escape of a control code,
  and the reader takes any of these as one code point.  A value with floating-point numbers in it is
  left out here.  What is read back of an object has each name once, with the last of its values, so it
  is `merged`.
-/
import VeiledGateway.Json.Printer
import VeiledGateway.Json.Reader
import VeiledGateway.Proofs.Number.Digits
import VeiledGateway.Proofs.Text.Prefix

set_option autoImplicit false

namespace VeiledGateway.Json

/-! ## Escapes of control codes -/

theorem hex4?_append {t rest : Text} {n : Nat} (h : hex4? t = some (n, [])) :
    hex4? (t ++ rest) = some (n, rest) := by
  rcases t with _ | ⟨a, _ | ⟨b, _ | ⟨c, _ | ⟨d, more⟩⟩⟩⟩
  · cases h
  · cases h
  · cases h
  · cases h
  · simp only [hex4?, Option.bind_eq_bind, Option.bind_eq_some_iff, Option.some.injEq,
      Prod.mk.injEq] at h
    obtain ⟨a', ha, b', hb, c', hc, d', hd, hn, rfl⟩ := h
    simp [hex4?, ha, hb, hc, hd, hn]

theorem hex4?_hex {n : Nat} (h : n < 0x20) : hex4? (Text.hex n 4) = some (n, []) := by
  have hall : ∀ m < 0x20, hex4? (Text.hex m 4) = some (m, []) := by decide
  exact hall n h

/-- The escape of a control code is read back. -/
theorem unicodeEscape?_hex {c : CodePoint} (h : c.val < 0x20) (strict : Bool) (rest : Text) :
    unicodeEscape? strict (Text.hex c.val 4 ++ rest) = some (c, rest) := by
  have hcode : CodePoint.ofNat c.val = c := by simp [CodePoint.ofNat, CodePoint.ofNat?, c.isLt]
  have hhigh : c.isHighSurrogate = false := by
    simp only [CodePoint.isHighSurrogate, Bool.and_eq_false_iff, decide_eq_false_iff_not]
    omega
  have hsurrogate : c.isSurrogate = false := by
    simp only [CodePoint.isSurrogate, Bool.and_eq_false_iff, decide_eq_false_iff_not]
    omega
  rw [unicodeEscape?, hex4?_append (hex4?_hex h)]
  simp [hcode, hhigh, hsurrogate]

/-! ## Code points -/

/-- A code point that is escaped by one letter, or written as itself or by its number. -/
theorem quoteCode_cases (c : CodePoint) :
    (∃ letter, quoteCode false c = [CodePoint.ofChar '\\', letter] ∧ letter ≠ CodePoint.ofChar 'u' ∧
      escape? letter = some c) ∨
    (c.val < 0x20 ∧ quoteCode false c = unitEscape c.val) ∨
    (0x20 ≤ c.val ∧ c ≠ CodePoint.ofChar '"' ∧ c ≠ CodePoint.ofChar '\\' ∧
      quoteCode false c = [c]) := by
  unfold quoteCode shortEscape?
  by_cases hquote : c = CodePoint.ofChar '"'
  · subst hquote
    exact .inl ⟨CodePoint.ofChar '"', rfl, by decide, rfl⟩
  by_cases hslash : c = CodePoint.ofChar '\\'
  · subst hslash
    exact .inl ⟨CodePoint.ofChar '\\', rfl, by decide, rfl⟩
  by_cases hn : c = CodePoint.ofChar '\n'
  · subst hn
    exact .inl ⟨CodePoint.ofChar 'n', rfl, by decide, rfl⟩
  by_cases hr : c = CodePoint.ofChar '\r'
  · subst hr
    exact .inl ⟨CodePoint.ofChar 'r', rfl, by decide, rfl⟩
  by_cases ht : c = CodePoint.ofChar '\t'
  · subst ht
    exact .inl ⟨CodePoint.ofChar 't', rfl, by decide, rfl⟩
  by_cases hf : c = CodePoint.ofChar '\x0C'
  · subst hf
    exact .inl ⟨CodePoint.ofChar 'f', rfl, by decide, rfl⟩
  by_cases hb : c = CodePoint.ofChar '\x08'
  · subst hb
    exact .inl ⟨CodePoint.ofChar 'b', rfl, by decide, rfl⟩
  simp only [beq_iff_eq, hquote, hslash, hn, hr, ht, hf, hb, if_false, Bool.false_and,
    Bool.false_eq_true]
  by_cases hcontrol : c.val < 0x20
  · exact .inr (.inl ⟨hcontrol, if_pos hcontrol⟩)
  · exact .inr (.inr ⟨by omega, hquote, hslash, if_neg hcontrol⟩)

/-- A code point in quotes is read back before what follows it. -/
theorem readText?_quoteCode {strict : Bool} {fuel : Nat} {rest t after : Text} (c : CodePoint)
    (h : readText? strict fuel rest = some (t, after)) :
    readText? strict (fuel + 1) (quoteCode false c ++ rest) = some (c :: t, after) := by
  rcases quoteCode_cases c with ⟨letter, hquote, hletter, hescape⟩ | ⟨hcontrol, hquote⟩ |
    ⟨hplain, hnotQuote, hnotSlash, hquote⟩
  · rw [hquote]
    have hsign : (CodePoint.ofChar '\\' == CodePoint.ofChar '"') = false := by decide
    simp only [List.cons_append, List.nil_append, readText?, hsign, beq_self_eq_true,
      beq_eq_false_iff_ne.mpr hletter, hescape, h]
    rfl
  · rw [hquote]
    have hread := unicodeEscape?_hex hcontrol strict rest
    have hunit : unitEscape c.val ++ rest =
        CodePoint.ofChar '\\' :: CodePoint.ofChar 'u' :: (Text.hex c.val 4 ++ rest) := rfl
    have hsign : (CodePoint.ofChar '\\' == CodePoint.ofChar '"') = false := by decide
    have hval : ¬ (CodePoint.ofChar '\\').val < 0x20 := by decide
    simp [hunit, readText?, hsign, hval, hread, h]
  · rw [hquote]
    have hlow : ¬ c.val < 0x20 := by omega
    simp [readText?, hnotQuote, hnotSlash, hlow, h]

/-! ## Texts -/

/-- A text in quotes is read back, up to the closing quote. -/
theorem readText?_quoted {strict : Bool} (t rest : Text) {fuel : Nat} (h : t.length < fuel) :
    readText? strict fuel (t.flatMap (quoteCode false) ++ CodePoint.ofChar '"' :: rest)
      = some (t, rest) := by
  induction t generalizing fuel with
  | nil =>
    obtain ⟨fuel, rfl⟩ : ∃ less, fuel = less + 1 := ⟨fuel - 1, by simp at h; omega⟩
    rfl
  | cons c t ih =>
    obtain ⟨fuel, rfl⟩ : ∃ less, fuel = less + 1 := ⟨fuel - 1, by omega⟩
    rw [List.flatMap_cons, List.append_assoc]
    exact readText?_quoteCode c (ih (by simpa using h))

theorem quoteCode_ne_nil (c : CodePoint) : quoteCode false c ≠ [] := by
  rcases quoteCode_cases c with ⟨letter, hquote, -, -⟩ | ⟨-, hquote⟩ | ⟨-, -, -, hquote⟩
  · rw [hquote]
    exact List.cons_ne_nil _ _
  · rw [hquote]
    exact List.cons_ne_nil _ _
  · rw [hquote]
    exact List.cons_ne_nil _ _

/-- Quoting makes no text shorter. -/
theorem length_le_quoted (t : Text) : t.length ≤ (t.flatMap (quoteCode false)).length := by
  induction t with
  | nil => simp
  | cons c t ih =>
    have hcode : 0 < (quoteCode false c).length := List.length_pos_iff.mpr (quoteCode_ne_nil c)
    simp only [List.flatMap_cons, List.length_append, List.length_cons]
    omega

/-- A text in quotes is read back by the reader that is at what follows the first quote. -/
theorem readText?_quoteWith (strict : Bool) (t rest : Text) :
    ∃ more, quoteWith false t ++ rest = CodePoint.ofChar '"' :: more ∧
      readText? strict (more.length + 1) more = some (t, rest) := by
  refine ⟨t.flatMap (quoteCode false) ++ CodePoint.ofChar '"' :: rest, ?_, ?_⟩
  · have hquote : Text.ofString "\"" = [CodePoint.ofChar '"'] := rfl
    simp [quoteWith, hquote]
  · refine readText?_quoted t rest ?_
    have hlength := length_le_quoted t
    simp only [List.length_append, List.length_cons]
    omega

/-! ## Values that are exact -/

mutual

/-- No floating-point number is in a value. -/
def isExact : Json → Bool
  | .real _ => false
  | .list items => areExact items
  | .object fields => areExactFields fields
  | _ => true

def areExact : List Json → Bool
  | [] => true
  | item :: rest => isExact item && areExact rest

def areExactFields : List (Text × Json) → Bool
  | [] => true
  | (_, value) :: rest => isExact value && areExactFields rest

end

mutual

/-- A value in whose objects no name stands twice: the last value under a name counts. -/
def merged : Json → Json
  | .list items => .list (mergedItems items)
  | .object fields => .object (Entries.ofPairs (mergedFields fields))
  | j => j

def mergedItems : List Json → List Json
  | [] => []
  | item :: rest => merged item :: mergedItems rest

def mergedFields : List (Text × Json) → List (Text × Json)
  | [] => []
  | (name, value) :: rest => (name, merged value) :: mergedFields rest

end

/-! ## What ends a value -/

/-- Nothing more of a value stands here: the text ends, or with it the value around. -/
def Ends (rest : Text) : Prop :=
  rest = [] ∨ ∃ c more, rest = c :: more ∧
    (c = CodePoint.ofChar ',' ∨ c = CodePoint.ofChar ']' ∨ c = CodePoint.ofChar '\x7d')

theorem ends_cons {c : CodePoint} (more : Text)
    (h : c = CodePoint.ofChar ',' ∨ c = CodePoint.ofChar ']' ∨ c = CodePoint.ofChar '\x7d') :
    Ends (c :: more) :=
  .inr ⟨c, more, rfl, h⟩

theorem Ends.takeWhile_eq_nil {rest : Text} (h : Ends rest) :
    rest.takeWhile CodePoint.isAsciiDigit = [] := by
  rcases h with rfl | ⟨c, more, rfl, rfl | rfl | rfl⟩ <;> rfl

theorem Ends.dropWhile_eq {rest : Text} (h : Ends rest) :
    rest.dropWhile CodePoint.isAsciiDigit = rest := by
  rcases h with rfl | ⟨c, more, rfl, rfl | rfl | rfl⟩ <;> rfl

/-- What follows a number neither goes on with it nor begins an exponent. -/
theorem Ends.cases {rest : Text} (h : Ends rest) :
    rest = [] ∨ ∃ c more, rest = c :: more ∧ (c == CodePoint.ofChar '.') = false ∧
      (c == CodePoint.ofChar 'e' || c == CodePoint.ofChar 'E') = false := by
  rcases h with rfl | ⟨c, more, rfl, rfl | rfl | rfl⟩
  · exact .inl rfl
  · exact .inr ⟨_, more, rfl, by decide, by decide⟩
  · exact .inr ⟨_, more, rfl, by decide, by decide⟩
  · exact .inr ⟨_, more, rfl, by decide, by decide⟩

/-! ## Numbers -/

/-- Digits are read back as the number that they write. -/
theorem readNumber?_ofNat {rest : Text} (h : Ends rest) (negative : Bool) (n : Nat) :
    readNumber? negative (Text.ofNat n ++ rest) =
      some (.int (if negative then -(n : Int) else n), rest) := by
  have hwhole : (Text.ofNat n ++ rest).takeWhile CodePoint.isAsciiDigit = Text.ofNat n := by
    rw [List.takeWhile_append_of_pos Text.isAsciiDigit_of_mem_ofNat, h.takeWhile_eq_nil,
      List.append_nil]
  have hrest : (Text.ofNat n ++ rest).dropWhile CodePoint.isAsciiDigit = rest := by
    rw [List.dropWhile_append_of_pos Text.isAsciiDigit_of_mem_ofNat, h.dropWhile_eq]
  have hsome : (Text.ofNat n).isEmpty = false := by simp [Text.ofNat_ne_nil]
  have hled : (decide (1 < (Text.ofNat n).length)
      && (Text.ofNat n).head? == some (CodePoint.ofChar '0')) = false := by
    rw [Bool.and_eq_false_iff]
    by_cases hlength : 1 < (Text.ofNat n).length
    · exact .inr (beq_eq_false_iff_ne.mpr (Text.ofNat_not_zero_led n hlength))
    · exact .inl (decide_eq_false hlength)
  unfold readNumber?
  simp only [hwhole, hrest, hsome, hled, Bool.false_eq_true, if_false]
  rcases h.cases with rfl | ⟨c, more, rfl, hpoint, hexponent⟩
  · simp [Decimal.digitsValue_ofNat]
  · simp only [hpoint, hexponent, Bool.false_eq_true, if_false, Option.bind_eq_bind,
      Option.bind_some, Decimal.digitsValue_ofNat]

/-- A code point is none of those outside a class that it is in. -/
theorem beq_eq_false_of_apart {p : CodePoint → Bool} {c d : CodePoint} (hc : p c = true)
    (hd : p d = false) : (c == d) = false := by
  rw [beq_eq_false_iff_ne]
  rintro rfl
  rw [hc] at hd
  cases hd

theorem readValue?_digit {strict : Bool} {fuel : Nat} {c : CodePoint} (more : Text)
    (h : c.isAsciiDigit = true) :
    readValue? strict (fuel + 1) (c :: more) = readNumber? false (c :: more) := by
  have hne {d : CodePoint} (hd : d.isAsciiDigit = false) : (c == d) = false := beq_eq_false_of_apart h hd
  have hquote : (c == CodePoint.ofChar '"') = false := hne (by decide)
  have hbrace : (c == CodePoint.ofChar '\x7b') = false := hne (by decide)
  have hbracket : (c == CodePoint.ofChar '[') = false := hne (by decide)
  have hminus : (c == CodePoint.ofChar '-') = false := hne (by decide)
  rw [readValue?]
  simp only [hquote, hbrace, hbracket, hminus, h, Bool.false_eq_true, if_false, if_true]

theorem readValue?_minus {strict : Bool} {fuel : Nat} {more : Text}
    (h : Text.dropPrefix? more "Infinity" = none) :
    readValue? strict (fuel + 1) (CodePoint.ofChar '-' :: more) = readNumber? true more := by
  have hquote : (CodePoint.ofChar '-' == CodePoint.ofChar '"') = false := by decide
  have hbrace : (CodePoint.ofChar '-' == CodePoint.ofChar '\x7b') = false := by decide
  have hbracket : (CodePoint.ofChar '-' == CodePoint.ofChar '[') = false := by decide
  rw [readValue?]
  simp only [hquote, hbrace, hbracket, beq_self_eq_true, h, Bool.false_eq_true, if_false, if_true]

/-- A whole number is read back. -/
theorem readValue?_ofInt {strict : Bool} {fuel : Nat} {rest : Text} (h : Ends rest) (i : Int) :
    readValue? strict (fuel + 1) (Text.ofInt i ++ rest) = some (.int i, rest) := by
  have hdigits : ∀ n : Nat, ∃ c more, Text.ofNat n ++ rest = c :: more ∧ c.isAsciiDigit = true := by
    intro n
    obtain ⟨c, more, hn⟩ := List.exists_cons_of_ne_nil (Text.ofNat_ne_nil n)
    exact ⟨c, more ++ rest, by rw [hn]; rfl,
      Text.isAsciiDigit_of_mem_ofNat c (by rw [hn]; exact List.mem_cons_self)⟩
  cases i with
  | ofNat n =>
    obtain ⟨c, more, hn, hc⟩ := hdigits n
    have hread := readNumber?_ofNat h false n
    rw [hn] at hread
    rw [Text.ofInt, hn, readValue?_digit more hc, hread]
    rfl
  | negSucc n =>
    obtain ⟨c, more, hn, hc⟩ := hdigits (n + 1)
    have hinfinity : Text.dropPrefix? (Text.ofNat (n + 1) ++ rest) "Infinity" = none := by
      have hne : c ≠ CodePoint.ofChar 'I' := by
        rintro rfl
        exact absurd hc (by decide)
      rw [hn]
      exact if_neg hne
    rw [Text.ofInt, List.cons_append, readValue?_minus hinfinity, readNumber?_ofNat h]
    rfl

/-! ## Words -/

theorem readValue?_word {strict : Bool} {fuel : Nat} {c : CodePoint} (more : Text)
    (h : c.isAsciiLetter = true) :
    readValue? strict (fuel + 1) (c :: more) =
      match Text.dropPrefix? (c :: more) "null", Text.dropPrefix? (c :: more) "true",
          Text.dropPrefix? (c :: more) "false", Text.dropPrefix? (c :: more) "NaN",
          Text.dropPrefix? (c :: more) "Infinity" with
      | some rest, _, _, _, _ => some (.null, rest)
      | _, some rest, _, _, _ => some (.bool true, rest)
      | _, _, some rest, _, _ => some (.bool false, rest)
      | _, _, _, some rest, _ => some (.real (0.0 / 0.0), rest)
      | _, _, _, _, some rest => some (.real (1.0 / 0.0), rest)
      | _, _, _, _, _ => none := by
  have hne {d : CodePoint} (hd : d.isAsciiLetter = false) : (c == d) = false := beq_eq_false_of_apart h hd
  have hquote : (c == CodePoint.ofChar '"') = false := hne (by decide)
  have hbrace : (c == CodePoint.ofChar '\x7b') = false := hne (by decide)
  have hbracket : (c == CodePoint.ofChar '[') = false := hne (by decide)
  have hminus : (c == CodePoint.ofChar '-') = false := hne (by decide)
  have hdigit : c.isAsciiDigit = false := by
    simp only [CodePoint.isAsciiLetter, CodePoint.isAsciiLower, CodePoint.isAsciiUpper] at h
    simp only [CodePoint.isAsciiDigit, Bool.and_eq_false_iff, decide_eq_false_iff_not]
    grind
  rw [readValue?, hquote, hbrace, hbracket, hminus, hdigit]
  rfl

theorem readValue?_null (strict : Bool) (fuel : Nat) (rest : Text) :
    readValue? strict (fuel + 1) (("null" : Text) ++ rest) = some (.null, rest) := by
  have htext : ("null" : Text) ++ rest = CodePoint.ofChar 'n' :: (("ull" : Text) ++ rest) := rfl
  rw [htext, readValue?_word _ (by decide), ← htext, Text.dropPrefix?_append]

theorem readValue?_true (strict : Bool) (fuel : Nat) (rest : Text) :
    readValue? strict (fuel + 1) (("true" : Text) ++ rest) = some (.bool true, rest) := by
  have htext : ("true" : Text) ++ rest = CodePoint.ofChar 't' :: (("rue" : Text) ++ rest) := rfl
  have hnull : Text.dropPrefix? (("true" : Text) ++ rest) "null" = none := rfl
  rw [htext, readValue?_word _ (by decide), ← htext, Text.dropPrefix?_append, hnull]

theorem readValue?_false (strict : Bool) (fuel : Nat) (rest : Text) :
    readValue? strict (fuel + 1) (("false" : Text) ++ rest) = some (.bool false, rest) := by
  have htext : ("false" : Text) ++ rest = CodePoint.ofChar 'f' :: (("alse" : Text) ++ rest) := rfl
  have hnull : Text.dropPrefix? (("false" : Text) ++ rest) "null" = none := rfl
  have htrue : Text.dropPrefix? (("false" : Text) ++ rest) "true" = none := rfl
  rw [htext, readValue?_word _ (by decide), ← htext, Text.dropPrefix?_append, hnull, htrue]

/-! ## Texts, lists and objects -/

/-- A text in quotes is read back. -/
theorem readValue?_quoteWith (strict : Bool) (fuel : Nat) (t rest : Text) :
    readValue? strict (fuel + 1) (quoteWith false t ++ rest) = some (.text t, rest) := by
  obtain ⟨more, htext, hread⟩ := readText?_quoteWith strict t rest
  rw [htext, readValue?]
  simp only [beq_self_eq_true, if_true, hread, Option.bind_eq_bind, Option.bind_some]

/-- What a value is rendered as begins with no blank, and it closes no brackets. -/
theorem render_head (depth : Nat) {j : Json} (h : j.isExact = true) :
    ∃ c more, render false .compact depth j = c :: more ∧ isSpace c = false ∧
      (c == CodePoint.ofChar ']') = false := by
  cases j with
  | null => exact ⟨CodePoint.ofChar 'n', "ull", rfl, by decide, by decide⟩
  | bool b =>
    cases b with
    | false => exact ⟨CodePoint.ofChar 'f', "alse", rfl, by decide, by decide⟩
    | true => exact ⟨CodePoint.ofChar 't', "rue", rfl, by decide, by decide⟩
  | int i =>
    cases i with
    | ofNat n =>
      obtain ⟨c, more, hn⟩ := List.exists_cons_of_ne_nil (Text.ofNat_ne_nil n)
      have hc : c.isAsciiDigit = true :=
        Text.isAsciiDigit_of_mem_ofNat c (by rw [hn]; exact List.mem_cons_self)
      have hne {d : CodePoint} (hd : d.isAsciiDigit = false) : (c == d) = false :=
        beq_eq_false_of_apart hc hd
      refine ⟨c, more, hn, ?_, hne (by decide)⟩
      simp only [isSpace, hne (by decide : (CodePoint.ofChar ' ').isAsciiDigit = false),
        hne (by decide : (CodePoint.ofChar '\n').isAsciiDigit = false),
        hne (by decide : (CodePoint.ofChar '\r').isAsciiDigit = false),
        hne (by decide : (CodePoint.ofChar '\t').isAsciiDigit = false), Bool.or_self]
    | negSucc n => exact ⟨CodePoint.ofChar '-', _, rfl, by decide, by decide⟩
  | real x => cases h
  | text t => exact ⟨CodePoint.ofChar '"', _, rfl, by decide, by decide⟩
  | list items =>
    cases items with
    | nil => exact ⟨CodePoint.ofChar '[', _, rfl, by decide, by decide⟩
    | cons item rest => exact ⟨CodePoint.ofChar '[', _, rfl, by decide, by decide⟩
  | object fields =>
    cases fields with
    | nil => exact ⟨CodePoint.ofChar '\x7b', _, rfl, by decide, by decide⟩
    | cons field rest => exact ⟨CodePoint.ofChar '\x7b', _, rfl, by decide, by decide⟩

theorem skipSpace_of_head {c : CodePoint} {more : Text} (h : isSpace c = false) :
    skipSpace (c :: more) = c :: more := by
  rw [skipSpace, List.dropWhile_cons_of_neg (by simp [h])]

theorem skipSpace_render (depth : Nat) {j : Json} (h : j.isExact = true) (rest : Text) :
    skipSpace (render false .compact depth j ++ rest) = render false .compact depth j ++ rest := by
  obtain ⟨c, more, hrender, hspace, -⟩ := render_head depth h
  rw [hrender, List.cons_append, skipSpace_of_head hspace]

theorem render_list_cons (depth : Nat) (item : Json) (items : List Json) (rest : Text) :
    render false .compact depth (.list (item :: items)) ++ rest =
      CodePoint.ofChar '[' ::
        (Text.join "," (renderItems false .compact (depth + 1) (item :: items))
          ++ CodePoint.ofChar ']' :: rest) := by
  have hopen : Text.ofString "[" = [CodePoint.ofChar '['] := rfl
  have hclose : Text.ofString "]" = [CodePoint.ofChar ']'] := rfl
  simp [render, enclose, renderItems, hopen, hclose]

theorem render_object_cons (depth : Nat) (field : Text × Json) (fields : List (Text × Json))
    (rest : Text) :
    render false .compact depth (.object (field :: fields)) ++ rest =
      CodePoint.ofChar '\x7b' ::
        (Text.join "," (renderFields false .compact (depth + 1) (field :: fields))
          ++ CodePoint.ofChar '\x7d' :: rest) := by
  have hopen : Text.ofString "\x7b" = [CodePoint.ofChar '\x7b'] := rfl
  have hclose : Text.ofString "\x7d" = [CodePoint.ofChar '\x7d'] := rfl
  simp [render, enclose, renderFields, hopen, hclose]

/-- What follows one part of several: a comma, and the other parts. -/
theorem join_comma_cons (part next : Text) (others : List Text) (closing : CodePoint)
    (rest : Text) :
    Text.join "," (part :: next :: others) ++ closing :: rest =
      part ++ CodePoint.ofChar ',' :: (Text.join "," (next :: others) ++ closing :: rest) := by
  have hcomma : Text.ofString "," = [CodePoint.ofChar ','] := rfl
  simp [Text.join, hcomma]

theorem length_join_comma_cons (part next : Text) (others : List Text) :
    (Text.join "," (part :: next :: others)).length =
      part.length + 1 + (Text.join "," (next :: others)).length := by
  have hcomma : (Text.ofString ",").length = 1 := rfl
  rw [Text.join]
  · simp only [List.length_append, hcomma]
  · exact List.cons_ne_nil _ _

/-! ## One part more -/

section Steps

variable {strict : Bool} {fuel : Nat} {t rest after : Text} {value : Json}

theorem readItems?_last (h : readValue? strict fuel t = some (value, CodePoint.ofChar ']' :: rest)) :
    readItems? strict (fuel + 1) t = some ([value], rest) := by
  have hspace : skipSpace (CodePoint.ofChar ']' :: rest) = CodePoint.ofChar ']' :: rest := rfl
  rw [readItems?, h]
  simp only [Option.bind_eq_bind, Option.bind_some, hspace, beq_self_eq_true, if_true]

theorem readItems?_more {items : List Json}
    (h : readValue? strict fuel t = some (value, CodePoint.ofChar ',' :: rest))
    (hrest : readItems? strict fuel (skipSpace rest) = some (items, after)) :
    readItems? strict (fuel + 1) t = some (value :: items, after) := by
  have hspace : skipSpace (CodePoint.ofChar ',' :: rest) = CodePoint.ofChar ',' :: rest := rfl
  have hcomma : (CodePoint.ofChar ',' == CodePoint.ofChar ']') = false := by decide
  rw [readItems?, h]
  simp only [Option.bind_eq_bind, Option.bind_some, hspace, hcomma, hrest, beq_self_eq_true,
    Bool.false_eq_true, if_false, if_true]

theorem readFields?_last (name : Text)
    (h : readValue? strict fuel (skipSpace t) = some (value, CodePoint.ofChar '\x7d' :: rest)) :
    readFields? strict (fuel + 1) (quoteWith false name ++ CodePoint.ofChar ':' :: t)
      = some ([(name, value)], rest) := by
  obtain ⟨more, htext, hread⟩ := readText?_quoteWith strict name (CodePoint.ofChar ':' :: t)
  have hcolon : skipSpace (CodePoint.ofChar ':' :: t) = CodePoint.ofChar ':' :: t := rfl
  have hspace : skipSpace (CodePoint.ofChar '\x7d' :: rest) = CodePoint.ofChar '\x7d' :: rest := rfl
  rw [htext, readFields?]
  simp only [bne_self_eq_false, Bool.false_eq_true, if_false, hread, Option.bind_eq_bind,
    Option.bind_some, hcolon, h, hspace, beq_self_eq_true, if_true]

theorem readFields?_more (name : Text) {pairs : List (Text × Json)}
    (h : readValue? strict fuel (skipSpace t) = some (value, CodePoint.ofChar ',' :: rest))
    (hrest : readFields? strict fuel (skipSpace rest) = some (pairs, after)) :
    readFields? strict (fuel + 1) (quoteWith false name ++ CodePoint.ofChar ':' :: t)
      = some ((name, value) :: pairs, after) := by
  obtain ⟨more, htext, hread⟩ := readText?_quoteWith strict name (CodePoint.ofChar ':' :: t)
  have hcolon : skipSpace (CodePoint.ofChar ':' :: t) = CodePoint.ofChar ':' :: t := rfl
  have hspace : skipSpace (CodePoint.ofChar ',' :: rest) = CodePoint.ofChar ',' :: rest := rfl
  have hcomma : (CodePoint.ofChar ',' == CodePoint.ofChar '\x7d') = false := by decide
  rw [htext, readFields?]
  simp only [bne_self_eq_false, Bool.false_eq_true, if_false, hread, Option.bind_eq_bind,
    Option.bind_some, hcolon, h, hspace, hcomma, hrest, beq_self_eq_true, if_true]

end Steps

/-! ## Values -/

/-- The name of a field is read past before its value. -/
theorem renderFields_cons (depth : Nat) (name : Text) (value : Json)
    (fields : List (Text × Json)) :
    renderFields false .compact depth ((name, value) :: fields) =
      (quoteWith false name ++ CodePoint.ofChar ':' :: render false .compact depth value)
        :: renderFields false .compact depth fields := by
  have hcolon : Text.ofString ":" = [CodePoint.ofChar ':'] := rfl
  simp [renderFields, hcolon]

/-- The items begin with no blank, and not with the end of the list. -/
theorem join_renderItems_head (depth : Nat) {item : Json} (h : item.isExact = true)
    (items : List Json) (rest : Text) :
    ∃ c more, Text.join "," (renderItems false .compact depth (item :: items)) ++ rest = c :: more ∧
      isSpace c = false ∧ (c == CodePoint.ofChar ']') = false := by
  obtain ⟨c, more, hrender, hspace, hclose⟩ := render_head depth h
  rw [renderItems]
  cases renderItems false .compact depth items with
  | nil => exact ⟨c, more ++ rest, by rw [Text.join, hrender]; rfl, hspace, hclose⟩
  | cons next others => exact ⟨c, _, by simp [Text.join, hrender]; rfl, hspace, hclose⟩

/-- The fields begin with the quote of a name. -/
theorem join_renderFields_head (depth : Nat) (field : Text × Json) (fields : List (Text × Json))
    (rest : Text) :
    ∃ more, Text.join "," (renderFields false .compact depth (field :: fields)) ++ rest =
      CodePoint.ofChar '"' :: more := by
  obtain ⟨name, value⟩ := field
  have hquote : Text.ofString "\"" = [CodePoint.ofChar '"'] := rfl
  rw [renderFields_cons]
  cases renderFields false .compact depth fields with
  | nil => exact ⟨_, by simp [Text.join, quoteWith, hquote]; rfl⟩
  | cons next others => exact ⟨_, by simp [Text.join, quoteWith, hquote]; rfl⟩

mutual

/-- A value that is written compactly is read back, before whatever ends it. -/
theorem readValue?_render (strict : Bool) :
    ∀ (j : Json) {depth fuel : Nat} {rest : Text}, j.isExact = true → Ends rest →
      (render false .compact depth j).length < fuel →
      readValue? strict fuel (render false .compact depth j ++ rest) = some (j.merged, rest)
  | .null, _, fuel, rest, _, _, hfuel => by
    obtain ⟨fuel, rfl⟩ : ∃ less, fuel = less + 1 := ⟨fuel - 1, by omega⟩
    exact readValue?_null strict fuel rest
  | .bool b, _, fuel, rest, _, _, hfuel => by
    obtain ⟨fuel, rfl⟩ : ∃ less, fuel = less + 1 := ⟨fuel - 1, by omega⟩
    cases b with
    | false => exact readValue?_false strict fuel rest
    | true => exact readValue?_true strict fuel rest
  | .int i, _, fuel, rest, _, hends, hfuel => by
    obtain ⟨fuel, rfl⟩ : ∃ less, fuel = less + 1 := ⟨fuel - 1, by omega⟩
    exact readValue?_ofInt hends i
  | .real x, _, _, _, hexact, _, _ => by
    cases hexact
  | .text t, _, fuel, rest, _, _, hfuel => by
    obtain ⟨fuel, rfl⟩ : ∃ less, fuel = less + 1 := ⟨fuel - 1, by omega⟩
    exact readValue?_quoteWith strict fuel t rest
  | .list [], _, fuel, rest, _, _, hfuel => by
    obtain ⟨fuel, rfl⟩ : ∃ less, fuel = less + 1 := ⟨fuel - 1, by omega⟩
    rfl
  | .list (item :: items), depth, fuel, rest, hexact, _, hfuel => by
    obtain ⟨fuel, rfl⟩ : ∃ less, fuel = less + 1 := ⟨fuel - 1, by omega⟩
    have hlength := congrArg List.length (render_list_cons depth item items [])
    simp only [List.append_nil, List.length_cons, List.length_append, List.length_nil] at hlength
    have hitems : readItems? strict fuel
        (Text.join "," (renderItems false .compact (depth + 1) (item :: items))
          ++ CodePoint.ofChar ']' :: rest) = some (mergedItems (item :: items), rest) :=
      readItems?_render strict (item :: items) (List.cons_ne_nil _ _) hexact (by omega)
    obtain ⟨c, more, htext, hspace, hclose⟩ := join_renderItems_head (depth + 1)
      (Bool.and_eq_true_iff.mp hexact).1 items (CodePoint.ofChar ']' :: rest)
    have hquote : (CodePoint.ofChar '[' == CodePoint.ofChar '"') = false := by decide
    have hbrace : (CodePoint.ofChar '[' == CodePoint.ofChar '\x7b') = false := by decide
    rw [htext] at hitems
    rw [render_list_cons, readValue?]
    simp only [hquote, hbrace, beq_self_eq_true, Bool.false_eq_true, if_false, if_true, htext,
      skipSpace_of_head hspace, hclose, hitems, Option.bind_eq_bind, Option.bind_some, merged]
  | .object [], _, fuel, rest, _, _, hfuel => by
    obtain ⟨fuel, rfl⟩ : ∃ less, fuel = less + 1 := ⟨fuel - 1, by omega⟩
    rfl
  | .object (field :: fields), depth, fuel, rest, hexact, _, hfuel => by
    obtain ⟨fuel, rfl⟩ : ∃ less, fuel = less + 1 := ⟨fuel - 1, by omega⟩
    have hlength := congrArg List.length (render_object_cons depth field fields [])
    simp only [List.append_nil, List.length_cons, List.length_append, List.length_nil] at hlength
    have hfields : readFields? strict fuel
        (Text.join "," (renderFields false .compact (depth + 1) (field :: fields))
          ++ CodePoint.ofChar '\x7d' :: rest) = some (mergedFields (field :: fields), rest) :=
      readFields?_render strict (field :: fields) (List.cons_ne_nil _ _) hexact (by omega)
    obtain ⟨more, htext⟩ := join_renderFields_head (depth + 1) field fields
      (CodePoint.ofChar '\x7d' :: rest)
    have hquote : (CodePoint.ofChar '\x7b' == CodePoint.ofChar '"') = false := by decide
    have hclose : (CodePoint.ofChar '"' == CodePoint.ofChar '\x7d') = false := by decide
    have hspace : skipSpace (CodePoint.ofChar '"' :: more) = CodePoint.ofChar '"' :: more := rfl
    rw [htext] at hfields
    rw [render_object_cons, readValue?]
    simp only [hquote, beq_self_eq_true, Bool.false_eq_true, if_false, if_true, htext, hspace,
      hclose, hfields, Option.bind_eq_bind, Option.bind_some, merged]

theorem readItems?_render (strict : Bool) :
    ∀ (items : List Json) {depth fuel : Nat} {rest : Text}, items ≠ [] → areExact items = true →
      (Text.join "," (renderItems false .compact depth items)).length + 1 < fuel →
      readItems? strict fuel
        (Text.join "," (renderItems false .compact depth items) ++ CodePoint.ofChar ']' :: rest)
        = some (mergedItems items, rest)
  | [], _, _, _, hsome, _, _ => absurd rfl hsome
  | [item], depth, fuel, rest, _, hexact, hfuel => by
    obtain ⟨fuel, rfl⟩ : ∃ less, fuel = less + 1 := ⟨fuel - 1, by omega⟩
    have hitem : item.isExact = true := (Bool.and_eq_true_iff.mp hexact).1
    simp only [renderItems, Text.join] at hfuel ⊢
    exact readItems?_last (readValue?_render strict item hitem (ends_cons rest (by simp)) (by omega))
  | item :: next :: items, depth, fuel, rest, _, hexact, hfuel => by
    obtain ⟨fuel, rfl⟩ : ∃ less, fuel = less + 1 := ⟨fuel - 1, by omega⟩
    obtain ⟨hitem, hitems⟩ := Bool.and_eq_true_iff.mp hexact
    obtain ⟨c, more, htext, hspace, -⟩ := join_renderItems_head depth
      (Bool.and_eq_true_iff.mp hitems).1 items (CodePoint.ofChar ']' :: rest)
    obtain ⟨first, others, hparts⟩ : ∃ first others,
        renderItems false .compact depth (next :: items) = first :: others := ⟨_, _, rfl⟩
    rw [renderItems, hparts] at hfuel ⊢
    rw [length_join_comma_cons, ← hparts] at hfuel
    rw [join_comma_cons, ← hparts]
    refine readItems?_more
      (readValue?_render strict item hitem (ends_cons _ (.inl rfl)) (by omega)) ?_
    rw [htext, skipSpace_of_head hspace, ← htext]
    exact readItems?_render strict (next :: items) (List.cons_ne_nil _ _) hitems (by omega)

theorem readFields?_render (strict : Bool) :
    ∀ (fields : List (Text × Json)) {depth fuel : Nat} {rest : Text}, fields ≠ [] →
      areExactFields fields = true →
      (Text.join "," (renderFields false .compact depth fields)).length + 1 < fuel →
      readFields? strict fuel
        (Text.join "," (renderFields false .compact depth fields) ++ CodePoint.ofChar '\x7d' :: rest)
        = some (mergedFields fields, rest)
  | [], _, _, _, hsome, _, _ => absurd rfl hsome
  | [(name, value)], depth, fuel, rest, _, hexact, hfuel => by
    obtain ⟨fuel, rfl⟩ : ∃ less, fuel = less + 1 := ⟨fuel - 1, by omega⟩
    have hvalue : value.isExact = true := (Bool.and_eq_true_iff.mp hexact).1
    rw [renderFields_cons] at hfuel ⊢
    simp only [renderFields, Text.join, List.length_append, List.length_cons] at hfuel
    simp only [renderFields, Text.join, List.append_assoc, List.cons_append]
    refine readFields?_last name ?_
    rw [skipSpace_render depth hvalue]
    exact readValue?_render strict value hvalue (ends_cons rest (by simp)) (by omega)
  | (name, value) :: next :: fields, depth, fuel, rest, _, hexact, hfuel => by
    obtain ⟨fuel, rfl⟩ : ∃ less, fuel = less + 1 := ⟨fuel - 1, by omega⟩
    obtain ⟨hvalue, hfields⟩ := Bool.and_eq_true_iff.mp hexact
    obtain ⟨more, htext⟩ := join_renderFields_head depth next fields
      (CodePoint.ofChar '\x7d' :: rest)
    have hspace : skipSpace (CodePoint.ofChar '"' :: more) = CodePoint.ofChar '"' :: more := rfl
    obtain ⟨first, others, hparts⟩ : ∃ first others,
        renderFields false .compact depth (next :: fields) = first :: others := ⟨_, _, rfl⟩
    rw [renderFields_cons, hparts] at hfuel ⊢
    rw [length_join_comma_cons, ← hparts] at hfuel
    rw [join_comma_cons, ← hparts]
    simp only [List.length_append, List.length_cons] at hfuel
    simp only [List.append_assoc, List.cons_append]
    have hmore : readFields? strict fuel (skipSpace
        (Text.join "," (renderFields false .compact depth (next :: fields))
          ++ CodePoint.ofChar '\x7d' :: rest)) = some (mergedFields (next :: fields), rest) := by
      rw [htext, hspace, ← htext]
      exact readFields?_render strict (next :: fields) (List.cons_ne_nil _ _) hfields (by omega)
    refine readFields?_more name ?_ hmore
    rw [skipSpace_render depth hvalue]
    exact readValue?_render strict value hvalue (ends_cons _ (.inl rfl)) (by omega)

end

/-- A text that writes a value compactly is read as that value. -/
theorem readWith?_render (strict : Bool) {j : Json} (h : j.isExact = true) :
    readWith? strict (j.render false .compact 0) = some j.merged := by
  have hspace : skipSpace (j.render false .compact 0) = j.render false .compact 0 := by
    simpa using skipSpace_render 0 h []
  have hread : readValue? strict ((j.render false .compact 0).length + 1)
      (j.render false .compact 0) = some (j.merged, []) := by
    simpa using readValue?_render strict j h (.inl rfl) (Nat.lt_succ_self _)
  rw [readWith?, hspace, hread]
  rfl

end VeiledGateway.Json
