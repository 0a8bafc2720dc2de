/-
  Escaping: the ways in which a name may be written in a style sheet.

  A writer may put each code point of a name down as it is, behind a backslash, or by its code in
  hexadecimal, and may choose anew for each.  `Escaping` says which texts come about so; unlike
  `Spells`, it does not refer to how a text is read.  All of them are decoded to the name, so the choice
  of the writer makes no difference; the serialization of CSS is one of them.
-/
import VeiledGateway.Proofs.Number.Digits
import VeiledGateway.Proofs.Style.Spelling

set_option autoImplicit false

namespace VeiledGateway.Style

/-! ## Ways to write a name -/

/-- A code point that may stand in a name as it is: a letter, a digit, a hyphen, an underscore, or one that
is not ASCII. -/
def isNameCodePoint (c : CodePoint) : Bool :=
  !c.isAscii || c.isAsciiLetter || c.isAsciiDigit || c == '-' || c == '_'

/-- White space of CSS, of which there is less than of Unicode. -/
def isSheetBlank (c : CodePoint) : Bool :=
  c == ' ' || c == '\t' || c == '\n' || c == '\r' || c == '\x0c'

/-- Digits that write the code of a code point in hexadecimal: in any case, with zeros at the head
perhaps, and no more than six. -/
def Codes (digits : Text) (c : CodePoint) : Prop :=
  digits.length ≤ 6 ∧ digits.map CodePoint.asciiLower = Text.hex c.val digits.length

instance (digits : Text) (c : CodePoint) : Decidable (Codes digits c) :=
  inferInstanceAs (Decidable (_ ∧ _))

/-- A text that writes a name, code point by code point. -/
inductive Escaping : Text → Text → Prop
  | nil : Escaping [] []
  | itself {c : CodePoint} {spelling name : Text} (hc : isNameCodePoint c = true)
      (hrest : Escaping spelling name) : Escaping (c :: spelling) (c :: name)
  | behind {c : CodePoint} {spelling name : Text} (hhex : c.isHexDigit = false)
      (hline : c ≠ CodePoint.ofChar '\n') (hrest : Escaping spelling name) :
      Escaping (CodePoint.ofChar '\\' :: c :: spelling) (c :: name)
  | code {digits spelling name : Text} {c blank : CodePoint} (hdigits : Codes digits c)
      (hblank : isSheetBlank blank = true) (hrest : Escaping spelling name) :
      Escaping (CodePoint.ofChar '\\' :: (digits ++ blank :: spelling)) (c :: name)
  /-- The blank behind a code may be left out if what comes next is neither a digit nor a blank. -/
  | bare {digits spelling name : Text} {c : CodePoint} (hdigits : Codes digits c)
      (hnext : ∀ d, spelling.head? = some d → d.isHexDigit = false ∧ d.isBlank = false)
      (hrest : Escaping spelling name) :
      Escaping (CodePoint.ofChar '\\' :: (digits ++ spelling)) (c :: name)

variable {digits spelling name : Text} {c : CodePoint}

/-! ## Codes -/

theorem hexValue?_asciiLower (c : CodePoint) : c.asciiLower.hexValue? = c.hexValue? := by
  unfold CodePoint.asciiLower
  split
  · rename_i hupper
    have hlow : c.val < 128 := by
      simp only [CodePoint.isAsciiUpper, Bool.and_eq_true, decide_eq_true_eq] at hupper
      omega
    have hall : ∀ n < 128, (CodePoint.ofNat n).isAsciiUpper = true →
        (CodePoint.ofNat ((CodePoint.ofNat n).val + 0x20)).hexValue? = (CodePoint.ofNat n).hexValue? := by
      decide +kernel
    have hc := hall c.val hlow
    rw [CodePoint.ofNat_val] at hc
    exact hc hupper
  · rfl

theorem isHexDigit_asciiLower (c : CodePoint) : c.asciiLower.isHexDigit = c.isHexDigit :=
  congrArg Option.isSome (hexValue?_asciiLower c)

/-- The value of digits does not depend on their case. -/
theorem hexNumber_map_asciiLower (digits : Text) :
    hexNumber (digits.map CodePoint.asciiLower) = hexNumber digits := by
  rw [hexNumber, List.foldl_map]
  simp only [hexValue?_asciiLower]
  rfl

theorem hexNumber_append_digit (digits : Text) {n : Nat} (h : n < 16) :
    hexNumber (digits ++ [CodePoint.ofChar n.digitChar]) = hexNumber digits * 16 + n := by
  rw [hexNumber, List.foldl_append, List.foldl_cons, List.foldl_nil, hexValue?_digitChar h]
  rfl

theorem hexNumber_zeros (n : Nat) (digits : Text) :
    hexNumber (List.replicate n (CodePoint.ofChar '0') ++ digits) = hexNumber digits := by
  induction n with
  | zero => rfl
  | succ n ih =>
    rw [List.replicate_succ, List.cons_append]
    exact ih

theorem hexNumber_toDigits (n : Nat) :
    hexNumber ((Nat.toDigits 16 n).map CodePoint.ofChar) = n := by
  induction n using Nat.strongRecOn with
  | ind n ih =>
    by_cases hlast : n < 16
    · rw [Nat.toDigits_of_lt_base hlast]
      exact (hexNumber_append_digit [] hlast).trans (by simp [hexNumber])
    · rw [Nat.toDigits_of_base_le (by decide) (Nat.le_of_not_lt hlast), List.map_append, List.map_singleton,
        hexNumber_append_digit _ (Nat.mod_lt n (by decide)), ih (n / 16) (by omega)]
      omega

/-- A number is the value of its digits, whatever zeros stand at their head. -/
theorem hexNumber_hex (n width : Nat) : hexNumber (Text.hex n width) = n :=
  (hexNumber_zeros _ _).trans (hexNumber_toDigits n)

theorem isHexDigit_of_mem_hex {n width : Nat} : ∀ d ∈ Text.hex n width, d.isHexDigit = true := by
  have hall : ∀ d ∈ ("0123456789abcdef" : Text), d.isHexDigit = true := by decide
  exact fun d hd => hall d (Text.mem_hex n width d hd)

theorem Codes.hexNumber_eq (h : Codes digits c) : hexNumber digits = c.val := by
  rw [← hexNumber_map_asciiLower, h.2, hexNumber_hex]

theorem Codes.isHexDigit (h : Codes digits c) : ∀ d ∈ digits, d.isHexDigit = true := by
  intro d hd
  rw [← isHexDigit_asciiLower]
  exact isHexDigit_of_mem_hex _ (h.2 ▸ List.mem_map_of_mem hd)

theorem Codes.ne_nil (h : Codes digits c) : digits ≠ [] := by
  rintro rfl
  have hnil : Nat.toDigits 16 c.val = [] := List.map_eq_nil_iff.mp (List.append_eq_nil_iff.mp h.2.symm).2
  exact Nat.toDigits_ne_nil hnil

theorem codePointOf_val (hnul : c.val ≠ 0) : codePointOf c.val = c := by
  rw [codePointOf, if_neg hnul, CodePoint.ofNat_val]

/-! ## Decoding -/

theorem isBlank_of_isSheetBlank (h : isSheetBlank c = true) : c.isBlank = true := by
  simp only [isSheetBlank, Bool.or_eq_true, beq_iff_eq] at h
  rcases h with (((rfl | rfl) | rfl) | rfl) | rfl <;> rfl

/-- A writer writes spellings, of names that can be written. -/
theorem Escaping.spells (h : Escaping spelling name) (hname : Writable name) :
    Spells isPlain [] spelling name := by
  induction h with
  | nil => exact .nil
  | itself hc _ ih =>
    refine .plain ?_ (ih (List.forall_mem_cons.mp hname).2)
    rw [isPlain, bne_iff_ne]
    rintro rfl
    exact absurd hc (by decide)
  | behind hhex hline _ ih => exact .sign hhex hline (ih (List.forall_mem_cons.mp hname).2)
  | @code digits spelling name c blank hdigits hblank _ ih =>
    obtain ⟨hnul, hrest⟩ := List.forall_mem_cons.mp hname
    have hspells := Spells.code hdigits.ne_nil hdigits.1 hdigits.isHexDigit (isBlank_of_isSheetBlank hblank)
      (ih hrest)
    rwa [hdigits.hexNumber_eq, codePointOf_val hnul] at hspells
  | @bare digits spelling name c hdigits hnext _ ih =>
    obtain ⟨hnul, hrest⟩ := List.forall_mem_cons.mp hname
    have hbehind : ∀ d, (spelling ++ []).head? = some d →
        d.isBlank = false ∧ (d.isHexDigit = true → digits.length = 6) := by
      intro d hd
      rw [List.append_nil] at hd
      obtain ⟨hhex, hblank⟩ := hnext d hd
      exact ⟨hblank, fun htrue => absurd (hhex.symm.trans htrue) Bool.false_ne_true⟩
    have hspells := Spells.bare hdigits.ne_nil hdigits.1 hdigits.isHexDigit hbehind (ih hrest)
    rwa [hdigits.hexNumber_eq, codePointOf_val hnul] at hspells

/-! ## The serialization -/

theorem escaping_coded (hascii : c.isAscii = true) (h : Escaping spelling name) :
    Escaping (coded c ++ spelling) (c :: name) := by
  have hcodes : Codes (Text.hex c.val 1) c :=
    of_isAscii (p := fun c => Codes (Text.hex c.val 1) c) (by decide +kernel) hascii
  rw [coded, List.cons_append, List.append_assoc]
  exact .code hcodes (by decide) h

theorem isNameCodePoint_of_kind (h : c.isAscii = false ∨ isNamePart c = true) :
    isNameCodePoint c = true := by
  rcases hascii : c.isAscii with _ | _
  · rw [isNameCodePoint, hascii]
    rfl
  · exact of_isAscii (p := fun c => isNamePart c = true → isNameCodePoint c = true) (by decide +kernel)
      hascii (by simpa [hascii] using h)

theorem escaping_spelled (hnul : c.val ≠ 0) (h : Escaping spelling name) :
    Escaping (spelled c ++ spelling) (c :: name) := by
  rcases spelled_cases hnul with ⟨hascii, hspelled⟩ | ⟨hhex, hline, hspelled⟩ | ⟨hkind, hspelled⟩ <;>
    rw [hspelled]
  · exact escaping_coded hascii h
  · exact .behind hhex hline h
  · exact .itself (isNameCodePoint_of_kind hkind) h

theorem escaping_spelledFirst (hnul : c.val ≠ 0) (h : Escaping spelling name) :
    Escaping (spelledFirst c ++ spelling) (c :: name) := by
  rcases spelledFirst_cases c with ⟨hascii, hspelled⟩ | ⟨-, hspelled⟩ <;> rw [hspelled]
  · exact escaping_coded hascii h
  · exact escaping_spelled hnul h

theorem escaping_flatMap (hname : Writable name) : Escaping (name.flatMap spelled) name := by
  induction name with
  | nil => exact .nil
  | cons c name ih =>
    obtain ⟨hnul, hrest⟩ := List.forall_mem_cons.mp hname
    exact escaping_spelled hnul (ih hrest)

/-- The serialization of CSS is a way to write a name. -/
theorem escaping_serialize (hname : Writable name) : Escaping (serialize name) name := by
  rcases lead_cases name with rfl | rfl | ⟨hyphen, c, rest, rfl, hlead⟩
  · exact .nil
  · exact .behind (by decide) (by decide) .nil
  · rw [serialize_of_lead hlead]
    obtain ⟨-, hname⟩ := List.forall_mem_append.mp hname
    obtain ⟨hnul, hrest⟩ := List.forall_mem_cons.mp hname
    have htail := escaping_spelledFirst hnul (escaping_flatMap hrest)
    rcases hlead with ⟨rfl, -⟩ | rfl
    · exact htail
    · exact .itself (by decide) htail

/-! ## All ways to write a name -/

/-- A name is decoded from whatever way it is written in; its serialization is one. -/
theorem unescape_escaping (hname : Writable name) :
    (∀ spelling, Escaping spelling name → unescape spelling = name) ∧
      Escaping (serialize name) name ∧ unescape (serialize name) = name := by
  have hdecoded (spelling : Text) (h : Escaping spelling name) : unescape spelling = name :=
    unescape_of_spells (by decide) (h.spells hname)
  exact ⟨hdecoded, escaping_serialize hname, hdecoded _ (escaping_serialize hname)⟩

/-- A name written in all ways: a digit by its code with a blank and another one as it is, a backslash and a
colon behind backslashes, and letters of other alphabets by their codes without a blank and as they are. -/
theorem mixed_escaping_decoded :
    let name : Text := "10\\:é😀ß"
    let spelling : Text := "\\31 0\\\\\\:\\0000E9\\1f600ß"
    Writable name ∧ Escaping spelling name ∧ unescape spelling = name ∧
      unescape (serialize name) = name := by
  intro name spelling
  have hname : Writable name := by
    unfold Writable
    decide +kernel
  have hspelling : Escaping spelling name := by
    have hone : Codes "31" (CodePoint.ofChar '1') := by decide +kernel
    have hacute : Codes "0000E9" (CodePoint.ofChar 'é') := by decide +kernel
    have hgrin : Codes "1f600" (CodePoint.ofChar '😀') := by decide +kernel
    have hend : Escaping ("ß" : Text) "ß" := .itself (by decide) .nil
    have hface : Escaping ("\\1f600ß" : Text) "😀ß" := .bare hgrin (by decide +kernel) hend
    have haccent : Escaping ("\\0000E9\\1f600ß" : Text) "é😀ß" :=
      .bare hacute (by decide +kernel) hface
    have hsigns : Escaping ("\\\\\\:\\0000E9\\1f600ß" : Text) "\\:é😀ß" :=
      .behind (by decide) (by decide) (.behind (by decide) (by decide) haccent)
    exact .code hone (by decide) (.itself (by decide) hsigns)
  obtain ⟨hall, -, hserialized⟩ := unescape_escaping hname
  exact ⟨hname, hspelling, hall spelling hspelling, hserialized⟩

end VeiledGateway.Style
