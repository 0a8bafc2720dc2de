/-
  Digits: a whole number in decimal is read back from its digits, and a digit in hexadecimal has its value.
-/
import VeiledGateway.Number.Decimal

set_option autoImplicit false

namespace VeiledGateway

/-! ## The digits of a number -/

namespace Text

theorem ofNat_ne_nil (n : Nat) : ofNat n ≠ [] := by
  simp [ofNat]

theorem isAsciiDigit_ofChar {c : Char} (h : c.isDigit = true) :
    (CodePoint.ofChar c).isAsciiDigit = true := by
  simp only [Char.isDigit, Bool.and_eq_true, decide_eq_true_eq, ge_iff_le, UInt32.le_iff_toNat_le] at h
  have hlow : 0x30 ≤ c.toNat := h.1
  have hhigh : c.toNat ≤ 0x39 := h.2
  simp [CodePoint.isAsciiDigit, CodePoint.ofChar, hlow, hhigh]

/-- A number is written in digits alone. -/
theorem isAsciiDigit_of_mem_ofNat {n : Nat} : ∀ c ∈ ofNat n, c.isAsciiDigit = true := by
  intro c hc
  obtain ⟨d, hd, rfl⟩ := List.mem_map.mp hc
  exact isAsciiDigit_ofChar (Nat.isDigit_of_mem_toDigits (by decide) (by decide) hd)

theorem digitChar_ne_zero {n : Nat} (hpos : 0 < n) (hlt : n < 10) : n.digitChar ≠ '0' := by
  have hall : ∀ m < 10, 0 < m → m.digitChar ≠ '0' := by decide
  exact hall n hlt hpos

/-- The digits of a number that is not zero begin with none. -/
theorem head?_toDigits {n : Nat} (h : 0 < n) : (Nat.toDigits 10 n).head? ≠ some '0' := by
  induction n using Nat.strongRecOn with
  | ind n ih =>
    rw [Nat.toDigits_eq_if (by decide)]
    split
    · rename_i hlt
      simpa using digitChar_ne_zero h hlt
    · rename_i hge
      have hrest := ih (n / 10) (by omega) (by omega)
      obtain ⟨first, more, hdigits⟩ := List.exists_cons_of_ne_nil (Nat.toDigits_ne_nil : Nat.toDigits 10 (n / 10) ≠ [])
      rw [hdigits] at hrest ⊢
      exact hrest

/-- Only zero is written with a zero at its head, and that is all of it. -/
theorem ofNat_not_zero_led (n : Nat) :
    1 < (ofNat n).length → (ofNat n).head? ≠ some (CodePoint.ofChar '0') := by
  intro hlength hhead
  rcases Nat.eq_zero_or_pos n with rfl | hpos
  · exact absurd hlength (by decide)
  · rw [ofNat, List.head?_map] at hhead
    obtain ⟨c, hc, hzero⟩ := Option.map_eq_some_iff.mp hhead
    have hval : c.toNat = '0'.toNat := congrArg CodePoint.val hzero
    obtain rfl := Char.toNat_inj.mp hval
    exact head?_toDigits hpos hc

end Text

/-! ## The number of digits -/

/-- A number is the value of its digits. -/
theorem Decimal.digitsValue_ofNat (n : Nat) : digitsValue (Text.ofNat n) = n := by
  have hfold : ∀ (ds : List Char) (m : Nat),
      (ds.map CodePoint.ofChar).foldl (fun n d => n * 10 + (d.val - 0x30)) m
        = Nat.ofDigitChars 10 ds m := by
    intro ds
    induction ds with
    | nil => simp
    | cons d ds ih =>
      intro m
      rw [List.map_cons, List.foldl_cons, ih, Nat.ofDigitChars_cons, Nat.mul_comm]
      rfl
  rw [digitsValue, Text.ofNat, hfold, Nat.ofDigitChars_ten_toDigits]

/-! ## Digits in hexadecimal -/

/-- A number is written in digits below its base. -/
theorem exists_of_mem_toDigits {b n : Nat} (hb : 1 < b) : ∀ d ∈ Nat.toDigits b n, ∃ m < b, d = m.digitChar := by
  induction n using Nat.strongRecOn with
  | ind n ih =>
    intro d hd
    by_cases hlast : n < b
    · rw [Nat.toDigits_of_lt_base hlast] at hd
      exact ⟨n, hlast, List.mem_singleton.mp hd⟩
    · rw [Nat.toDigits_of_base_le hb (Nat.le_of_not_lt hlast)] at hd
      rcases List.mem_append.mp hd with hlead | hlast'
      · exact ih (n / b) (Nat.div_lt_self (by omega) hb) d hlead
      · exact ⟨n % b, Nat.mod_lt n (by omega), List.mem_singleton.mp hlast'⟩

theorem hexValue?_digitChar {n : Nat} (h : n < 16) :
    (CodePoint.ofChar n.digitChar).hexValue? = some n := by
  have hall : ∀ m < 16, (CodePoint.ofChar m.digitChar).hexValue? = some m := by decide
  exact hall n h

/-- A number in hexadecimal has lower-case digits. -/
theorem Text.mem_hex (n width : Nat) : ∀ c ∈ Text.hex n width, c ∈ ("0123456789abcdef" : Text) := by
  have hall : ∀ m < 16, CodePoint.ofChar m.digitChar ∈ ("0123456789abcdef" : Text) := by decide
  intro c hc
  rcases List.mem_append.mp hc with hzero | hdigit
  · rw [List.eq_of_mem_replicate hzero]
    exact hall 0 (by decide)
  · obtain ⟨digit, hmem, rfl⟩ := List.mem_map.mp hdigit
    obtain ⟨m, hm, rfl⟩ := exists_of_mem_toDigits (by decide) digit hmem
    exact hall m hm

end VeiledGateway
