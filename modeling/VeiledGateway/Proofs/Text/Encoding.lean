/-
  Texts that have an encoding.

  A text has one exactly if it is plain, that is, no surrogate half stands in it; and then it is
  decoded from its bytes.  Whatever bytes are decoded, the text is plain.
-/
import Mathlib.Tactic.SplitIfs
import VeiledGateway.Text.Utf8

set_option autoImplicit false

namespace VeiledGateway

/-- No surrogate half stands in a text. -/
def Text.Plain (t : Text) : Prop :=
  ∀ c ∈ t, c.isSurrogate = false

instance (t : Text) : Decidable t.Plain :=
  inferInstanceAs (Decidable (∀ c ∈ t, c.isSurrogate = false))

theorem Text.isScalar_iff_plain {t : Text} : t.IsScalar ↔ t.Plain :=
  forall₂_congr fun c _ => by rw [CodePoint.isScalar, Bool.not_eq_true']

namespace Utf8

/-! ## Encoding -/

theorem encodeFrom_of_plain {t : Text} (h : t.Plain) (position : Nat) :
    encodeFrom position t = .ok (t.flatMap encodeCode) := by
  induction t generalizing position with
  | nil => rfl
  | cons c rest ih =>
    obtain ⟨hc, hrest⟩ := List.forall_mem_cons.mp h
    rw [encodeFrom, hc, ih hrest]
    rfl

theorem plain_of_encodeFrom {t : Text} {position : Nat} {bytes : List UInt8}
    (h : encodeFrom position t = .ok bytes) : t.Plain := by
  induction t generalizing position bytes with
  | nil => exact fun c hc => absurd hc List.not_mem_nil
  | cons c rest ih =>
    rw [encodeFrom] at h
    split at h
    · cases h
    · rename_i hc
      split at h
      · rename_i hrest
        exact List.forall_mem_cons.mpr ⟨Bool.eq_false_iff.mpr hc, ih hrest⟩
      · cases h

/-- A text has an encoding exactly if it is plain. -/
theorem exists_encode_iff {t : Text} : (∃ bytes, encode t = .ok bytes) ↔ t.Plain :=
  ⟨fun ⟨_, h⟩ => plain_of_encodeFrom h, fun h => ⟨_, encodeFrom_of_plain h 0⟩⟩

/-! ## Steps -/

theorem toNat_ofNat {n : Nat} (h : n < 0x100) : (UInt8.ofNat n).toNat = n := by
  rw [UInt8.toNat_ofNat']
  omega

theorem eq_iff_toNat {b : UInt8} {n : Nat} (h : n < 0x100) : b = UInt8.ofNat n ↔ b.toNat = n := by
  rw [← UInt8.toNat_inj, toNat_ofNat h]

/-- A byte may stand second after a first one of three or four. -/
def Follows (b b1 : UInt8) : Prop :=
  (secondRange b).1.toNat ≤ b1.toNat ∧ b1.toNat ≤ (secondRange b).2.toNat

/-- A second byte continues a sequence, and after four first bytes it has less room. -/
theorem follows_iff {b b1 : UInt8} : Follows b b1 ↔
    0x80 ≤ b1.toNat ∧ b1.toNat ≤ 0xBF ∧ (b.toNat = 0xE0 → 0xA0 ≤ b1.toNat) ∧
      (b.toNat = 0xED → b1.toNat ≤ 0x9F) ∧ (b.toNat = 0xF0 → 0x90 ≤ b1.toNat) ∧
      (b.toNat = 0xF4 → b1.toNat ≤ 0x8F) := by
  have he0 : b = 0xE0 ↔ b.toNat = 0xE0 := eq_iff_toNat (by decide)
  have hed : b = 0xED ↔ b.toNat = 0xED := eq_iff_toNat (by decide)
  have hf0 : b = 0xF0 ↔ b.toNat = 0xF0 := eq_iff_toNat (by decide)
  have hf4 : b = 0xF4 ↔ b.toNat = 0xF4 := eq_iff_toNat (by decide)
  unfold Follows secondRange
  simp only [he0, hed, hf0, hf4]
  split_ifs <;> simp <;> omega

theorem isContinuation_iff {b : UInt8} :
    isContinuation b = true ↔ 0x80 ≤ b.toNat ∧ b.toNat ≤ 0xBF := by
  rw [isContinuation, Bool.and_eq_true, decide_eq_true_iff, decide_eq_true_iff,
    UInt8.le_iff_toNat_le, UInt8.le_iff_toNat_le]
  exact Iff.rfl

/-- The first sequence of bytes is that of a code point with one to four bytes. -/
inductive Reads : UInt8 → List UInt8 → Nat → Nat → Prop where
  | one {b : UInt8} {rest : List UInt8} (hb : b.toNat < 0x80) : Reads b rest b.toNat 1
  | two {b b1 : UInt8} {rest : List UInt8} (hb : 0xC2 ≤ b.toNat ∧ b.toNat < 0xE0)
      (h1 : isContinuation b1 = true) :
      Reads b (b1 :: rest) (payload b 0x20 * 0x40 + payload b1 0x40) 2
  | three {b b1 b2 : UInt8} {rest : List UInt8} (hb : 0xE0 ≤ b.toNat ∧ b.toNat < 0xF0)
      (h1 : Follows b b1) (h2 : isContinuation b2 = true) :
      Reads b (b1 :: b2 :: rest)
        (payload b 0x10 * 0x1000 + payload b1 0x40 * 0x40 + payload b2 0x40) 3
  | four {b b1 b2 b3 : UInt8} {rest : List UInt8} (hb : 0xF0 ≤ b.toNat ∧ b.toNat ≤ 0xF4)
      (h1 : Follows b b1) (h2 : isContinuation b2 = true) (h3 : isContinuation b3 = true) :
      Reads b (b1 :: b2 :: b3 :: rest)
        (payload b 0x08 * 0x40000 + payload b1 0x40 * 0x1000 + payload b2 0x40 * 0x40
          + payload b3 0x40) 4

theorem lt_iff_toNat {b : UInt8} {n : Nat} (h : n < 0x100) : b < UInt8.ofNat n ↔ b.toNat < n := by
  rw [UInt8.lt_iff_toNat_lt, toNat_ofNat h]

/-- What kind of sequence a byte begins is told by where it lies. -/
theorem first_iff (b : UInt8) :
    (b < 0x80 ↔ b.toNat < 0x80) ∧
      ((b < 0xC2 || 0xF4 < b) = true ↔ b.toNat < 0xC2 ∨ 0xF4 < b.toNat) ∧
      (b < 0xE0 ↔ b.toNat < 0xE0) ∧ (b < 0xF0 ↔ b.toNat < 0xF0) := by
  refine ⟨lt_iff_toNat (by decide), ?_, lt_iff_toNat (by decide), lt_iff_toNat (by decide)⟩
  rw [Bool.or_eq_true, decide_eq_true_iff, decide_eq_true_iff, UInt8.lt_iff_toNat_lt,
    UInt8.lt_iff_toNat_lt]
  exact Iff.rfl

theorem not_follows_iff {b b1 : UInt8} :
    (b1 < (secondRange b).1 || (secondRange b).2 < b1) = true ↔ ¬ Follows b b1 := by
  rw [Bool.or_eq_true, decide_eq_true_iff, decide_eq_true_iff, UInt8.lt_iff_toNat_lt,
    UInt8.lt_iff_toNat_lt, Follows]
  omega

theorem step_of_reads {b : UInt8} {rest : List UInt8} {n used : Nat} (h : Reads b rest n used) :
    step b rest = .code (CodePoint.ofNat n) used := by
  obtain ⟨h80, hstart, he0, hf0⟩ := first_iff b
  cases h with
  | one hb => rw [step.eq_def, if_pos (h80.mpr hb)]
  | two hb h1 =>
    rw [step.eq_def, if_neg ((not_congr h80).mpr (by omega)), if_neg ((not_congr hstart).mpr (by omega)),
      if_pos (he0.mpr hb.2)]
    simp only [h1, if_true]
  | three hb h1 h2 =>
    rw [step.eq_def, if_neg ((not_congr h80).mpr (by omega)), if_neg ((not_congr hstart).mpr (by omega)),
      if_neg ((not_congr he0).mpr (by omega))]
    dsimp only
    rw [if_neg (mt not_follows_iff.mp (Classical.not_not.mpr h1)), h2, if_pos (hf0.mpr hb.2)]
    rfl
  | four hb h1 h2 h3 =>
    rw [step.eq_def, if_neg ((not_congr h80).mpr (by omega)), if_neg ((not_congr hstart).mpr (by omega)),
      if_neg ((not_congr he0).mpr (by omega))]
    dsimp only
    rw [if_neg (mt not_follows_iff.mp (Classical.not_not.mpr h1)), h2, if_neg ((not_congr hf0).mpr (by omega)), h3]
    rfl

theorem reads_of_step {b : UInt8} {rest : List UInt8} {c : CodePoint} {used : Nat}
    (h : step b rest = .code c used) : ∃ n, c = CodePoint.ofNat n ∧ Reads b rest n used := by
  obtain ⟨h80, hstart, he0, hf0⟩ := first_iff b
  rw [step.eq_def] at h
  split at h
  · rename_i hb
    cases h
    exact ⟨_, rfl, .one (h80.mp hb)⟩
  rename_i hb
  rw [h80] at hb
  split at h
  · cases h
  rename_i hlead
  rw [hstart] at hlead
  split at h
  · rename_i htwo
    rw [he0] at htwo
    split at h
    · cases h
    · split at h
      · rename_i h1
        cases h
        exact ⟨_, rfl, .two ⟨by omega, htwo⟩ h1⟩
      · cases h
  · rename_i hmore
    rw [he0] at hmore
    dsimp only at h
    split at h
    · cases h
    · split at h
      · cases h
      · rename_i hfollows
        rw [not_follows_iff, Classical.not_not] at hfollows
        split at h
        · cases h
        · split at h
          · cases h
          · rename_i h2
            rw [Bool.not_eq_true', Bool.not_eq_false] at h2
            split at h
            · rename_i hthree
              cases h
              exact ⟨_, rfl, .three ⟨by omega, hf0.mp hthree⟩ hfollows h2⟩
            · rename_i hfour
              rw [hf0] at hfour
              split at h
              · cases h
              · split at h
                · rename_i h3
                  cases h
                  exact ⟨_, rfl, .four ⟨by omega, by omega⟩ hfollows h2 h3⟩
                · cases h

/-! ## Decoding -/

/-- The bytes of a code point that is no surrogate half are read as it, whatever follows. -/
theorem reads_encodeCode {c : CodePoint} (h : c.isSurrogate = false) :
    ∃ b more, encodeCode c = b :: more ∧ ∀ rest, Reads b (more ++ rest) c.val (more.length + 1) := by
  have hlt := c.isLt
  have hhalf : ¬ (0xD800 ≤ c.val ∧ c.val ≤ 0xDFFF) := by
    simpa [CodePoint.isSurrogate] using h
  unfold encodeCode
  dsimp only
  generalize c.val = n at hlt hhalf ⊢
  split
  · rename_i hone
    have hb : (UInt8.ofNat n).toNat = n := toNat_ofNat (by omega)
    refine ⟨_, _, rfl, fun rest => ?_⟩
    have hreads : Reads (UInt8.ofNat n) rest (UInt8.ofNat n).toNat 1 := .one (by omega)
    rwa [hb] at hreads
  split
  · rename_i hone htwo
    have hb : (UInt8.ofNat (0xC0 + n / 0x40)).toNat = 0xC0 + n / 0x40 := toNat_ofNat (by omega)
    have h1 : (UInt8.ofNat (0x80 + n % 0x40)).toNat = 0x80 + n % 0x40 := toNat_ofNat (by omega)
    have hvalue : payload (UInt8.ofNat (0xC0 + n / 0x40)) 0x20 * 0x40
        + payload (UInt8.ofNat (0x80 + n % 0x40)) 0x40 = n := by
      rw [payload, payload, hb, h1]
      omega
    refine ⟨_, _, rfl, fun rest => ?_⟩
    have hreads : Reads (UInt8.ofNat (0xC0 + n / 0x40)) (UInt8.ofNat (0x80 + n % 0x40) :: rest) _ 2 :=
      .two ⟨by omega, by omega⟩ (isContinuation_iff.mpr (by omega))
    rwa [hvalue] at hreads
  split
  · rename_i hone htwo hthree
    have hb : (UInt8.ofNat (0xE0 + n / 0x1000)).toNat = 0xE0 + n / 0x1000 := toNat_ofNat (by omega)
    have h1 : (UInt8.ofNat (0x80 + n / 0x40 % 0x40)).toNat = 0x80 + n / 0x40 % 0x40 :=
      toNat_ofNat (by omega)
    have h2 : (UInt8.ofNat (0x80 + n % 0x40)).toNat = 0x80 + n % 0x40 := toNat_ofNat (by omega)
    have hvalue : payload (UInt8.ofNat (0xE0 + n / 0x1000)) 0x10 * 0x1000
        + payload (UInt8.ofNat (0x80 + n / 0x40 % 0x40)) 0x40 * 0x40
        + payload (UInt8.ofNat (0x80 + n % 0x40)) 0x40 = n := by
      rw [payload, payload, payload, hb, h1, h2]
      omega
    have hfollows : Follows (UInt8.ofNat (0xE0 + n / 0x1000)) (UInt8.ofNat (0x80 + n / 0x40 % 0x40)) := by
      rw [follows_iff, hb, h1]
      omega
    refine ⟨_, _, rfl, fun rest => ?_⟩
    have hreads : Reads (UInt8.ofNat (0xE0 + n / 0x1000)) (UInt8.ofNat (0x80 + n / 0x40 % 0x40)
        :: UInt8.ofNat (0x80 + n % 0x40) :: rest) _ 3 :=
      .three ⟨by omega, by omega⟩ hfollows (isContinuation_iff.mpr (by omega))
    rwa [hvalue] at hreads
  · rename_i hone htwo hthree
    have hb : (UInt8.ofNat (0xF0 + n / 0x40000)).toNat = 0xF0 + n / 0x40000 := toNat_ofNat (by omega)
    have h1 : (UInt8.ofNat (0x80 + n / 0x1000 % 0x40)).toNat = 0x80 + n / 0x1000 % 0x40 :=
      toNat_ofNat (by omega)
    have h2 : (UInt8.ofNat (0x80 + n / 0x40 % 0x40)).toNat = 0x80 + n / 0x40 % 0x40 :=
      toNat_ofNat (by omega)
    have h3 : (UInt8.ofNat (0x80 + n % 0x40)).toNat = 0x80 + n % 0x40 := toNat_ofNat (by omega)
    have hvalue : payload (UInt8.ofNat (0xF0 + n / 0x40000)) 0x08 * 0x40000
        + payload (UInt8.ofNat (0x80 + n / 0x1000 % 0x40)) 0x40 * 0x1000
        + payload (UInt8.ofNat (0x80 + n / 0x40 % 0x40)) 0x40 * 0x40
        + payload (UInt8.ofNat (0x80 + n % 0x40)) 0x40 = n := by
      rw [payload, payload, payload, payload, hb, h1, h2, h3]
      omega
    have hfollows : Follows (UInt8.ofNat (0xF0 + n / 0x40000))
        (UInt8.ofNat (0x80 + n / 0x1000 % 0x40)) := by
      rw [follows_iff, hb, h1]
      omega
    refine ⟨_, _, rfl, fun rest => ?_⟩
    have hreads : Reads (UInt8.ofNat (0xF0 + n / 0x40000)) (UInt8.ofNat (0x80 + n / 0x1000 % 0x40)
        :: UInt8.ofNat (0x80 + n / 0x40 % 0x40) :: UInt8.ofNat (0x80 + n % 0x40) :: rest) _ 4 :=
      .four ⟨by omega, by omega⟩ hfollows (isContinuation_iff.mpr (by omega))
        (isContinuation_iff.mpr (by omega))
    rwa [hvalue] at hreads

theorem isSurrogate_ofNat {n : Nat} (h : ¬ (0xD800 ≤ n ∧ n ≤ 0xDFFF)) :
    (CodePoint.ofNat n).isSurrogate = false := by
  unfold CodePoint.ofNat CodePoint.ofNat?
  split
  · simpa [CodePoint.isSurrogate] using h
  · rfl

/-- No sequence is read as a surrogate half. -/
theorem isSurrogate_of_reads {b : UInt8} {rest : List UInt8} {n used : Nat}
    (h : Reads b rest n used) : (CodePoint.ofNat n).isSurrogate = false := by
  refine isSurrogate_ofNat ?_
  cases h with
  | one hb => omega
  | two hb h1 =>
    rw [payload, payload]
    omega
  | three hb h1 h2 =>
    rw [follows_iff] at h1
    rw [payload, payload, payload]
    omega
  | four hb h1 h2 h3 =>
    rw [follows_iff] at h1
    rw [payload, payload, payload, payload]
    omega

/-- The bytes of a plain text are decoded into it. -/
theorem decodeLossy_encode {t : Text} (h : t.Plain) : decodeLossy (t.flatMap encodeCode) = t := by
  have hfuel : ∀ fuel, (t.flatMap encodeCode).length ≤ fuel →
      decodeLossyFrom fuel (t.flatMap encodeCode) = t := by
    induction t with
    | nil =>
      intro fuel _
      cases fuel <;> rfl
    | cons c rest ih =>
      obtain ⟨hc, hrest⟩ := List.forall_mem_cons.mp h
      obtain ⟨b, more, hbytes, hreads⟩ := reads_encodeCode hc
      intro fuel hlength
      rw [List.flatMap_cons, hbytes, List.cons_append] at hlength ⊢
      obtain ⟨less, rfl⟩ : ∃ less, fuel = less + 1 := ⟨fuel - 1, by simp at hlength; omega⟩
      rw [decodeLossyFrom, step_of_reads (hreads _)]
      dsimp only
      rw [Nat.add_sub_cancel, List.drop_left, CodePoint.ofNat_val, ih hrest less ?_]
      simp only [List.length_cons, List.length_append] at hlength
      omega
  exact hfuel _ (Nat.le_refl _)

/-- Texts with the same bytes are the same. -/
theorem eq_of_encode {t t' : Text} {bytes : List UInt8} (h : encode t = .ok bytes)
    (h' : encode t' = .ok bytes) : t = t' := by
  have hplain := plain_of_encodeFrom h
  have hplain' := plain_of_encodeFrom h'
  rw [encode, encodeFrom_of_plain hplain] at h
  rw [encode, encodeFrom_of_plain hplain'] at h'
  rw [← decodeLossy_encode hplain, Except.ok.inj h, ← Except.ok.inj h', decodeLossy_encode hplain']

/-- What is decoded is plain. -/
theorem plain_decodeLossy (bytes : List UInt8) : (decodeLossy bytes).Plain := by
  have hfuel : ∀ fuel bytes, (decodeLossyFrom fuel bytes).Plain := by
    intro fuel
    induction fuel with
    | zero => exact fun bytes c hc => absurd hc List.not_mem_nil
    | succ fuel ih =>
      intro bytes
      cases bytes with
      | nil => exact fun c hc => absurd hc List.not_mem_nil
      | cons b rest =>
        rw [decodeLossyFrom]
        split
        · rename_i c used hstep
          obtain ⟨n, rfl, hreads⟩ := reads_of_step hstep
          exact List.forall_mem_cons.mpr ⟨isSurrogate_of_reads hreads, ih _⟩
        · exact List.forall_mem_cons.mpr ⟨rfl, ih _⟩
  exact hfuel bytes.length bytes

end Utf8

end VeiledGateway
