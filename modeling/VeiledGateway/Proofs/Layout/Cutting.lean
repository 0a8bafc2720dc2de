/-
  Cutting: layouts, and the pieces of a text by them.

  A text is used up before its layout is, or goes on behind it, and the last piece may be shorter than
  its digit says.  Whichever it is, the pieces make up the text.  A layout that is drawn for a text
  comes out even, so every piece is as long as its digit says.
-/
import Mathlib.Algebra.GroupWithZero.Nat
import Mathlib.Data.List.SplitLengths
import Mathlib.Logic.Function.Iterate
import VeiledGateway.Layout
import VeiledGateway.Proofs.Text.Encoding

set_option autoImplicit false

namespace VeiledGateway.Layout

variable {t layout : Text} {ns : List Nat} {parts : List Text}

/-! ## Digits -/

/-- A layout that can be told apart digit by digit, whatever text it was made for. -/
def IsDigits (layout : Text) : Prop :=
  ∀ d ∈ layout, d.digitValue?.isSome = true

instance (layout : Text) : Decidable (IsDigits layout) :=
  inferInstanceAs (Decidable (∀ d ∈ layout, d.digitValue?.isSome = true))

/-- The lengths that the digits of a layout stand for. -/
def lengths (layout : Text) : List Nat :=
  layout.filterMap CodePoint.digitValue?

theorem lengths_cons {c : CodePoint} {n : Nat} (h : c.digitValue? = some n) (rest : Text) :
    lengths (c :: rest) = n :: lengths rest :=
  List.filterMap_cons_some h

theorem digitValue?_digit {n : Nat} (h : n < 10) : (digit n).digitValue? = some n := by
  have hall : ∀ m < 10, (digit m).digitValue? = some m := by decide
  exact hall n h

theorem lengths_digits (h : ∀ n ∈ ns, n < 10) : lengths (ns.map digit) = ns := by
  induction ns with
  | nil => rfl
  | cons n rest ih =>
    obtain ⟨hn, hrest⟩ := List.forall_mem_cons.mp h
    rw [List.map_cons, lengths_cons (digitValue?_digit hn), ih hrest]

/-! ## Cutting -/

/-- A text that is cut by lengths.  So many of them count as are needed to reach its end; if it goes on
behind all of them, the rest of it is one more piece. -/
inductive CutBy (t : Text) (ns : List Nat) : List Text → Prop
  | usedUp (k : Nat) (hends : t.length ≤ (ns.take k).sum)
      (hfirst : ∀ i < k, (ns.take i).sum < t.length) : CutBy t ns ((ns.take k).splitLengths t)
  | goesOn (hshort : ns.sum < t.length) : CutBy t ns (ns.splitLengths t ++ [t.drop ns.sum])

theorem CutBy.cons (hne : t ≠ []) {n : Nat} (h : CutBy (t.drop n) ns parts) :
    CutBy t (n :: ns) (t.take n :: parts) := by
  have hpos : 0 < t.length := List.length_pos_iff.mpr hne
  cases h with
  | usedUp k hends hfirst =>
    rw [List.length_drop] at hends
    have hused : CutBy t (n :: ns) (((n :: ns).take (k + 1)).splitLengths t) := by
      refine .usedUp (k + 1) ?_ fun i hi => ?_
      · rw [List.take_succ_cons, List.sum_cons]
        omega
      · cases i with
        | zero => exact hpos
        | succ i =>
          have hbefore := hfirst i (Nat.lt_of_succ_lt_succ hi)
          rw [List.length_drop] at hbefore
          rw [List.take_succ_cons, List.sum_cons]
          omega
    rwa [List.take_succ_cons, List.splitLengths_cons] at hused
  | goesOn hshort =>
    rw [List.length_drop] at hshort
    have hrest : CutBy t (n :: ns) ((n :: ns).splitLengths t ++ [t.drop (n :: ns).sum]) := by
      refine .goesOn ?_
      rw [List.sum_cons]
      omega
    rwa [List.splitLengths_cons, List.sum_cons, ← List.drop_drop] at hrest

/-- The pieces by a layout are the text cut by its lengths. -/
theorem cutBy_of_split (h : split t layout = .ok parts) : CutBy t (lengths layout) parts := by
  induction layout generalizing t parts with
  | nil =>
    obtain rfl := Except.ok.inj h
    cases t with
    | nil => exact .usedUp 0 (Nat.zero_le _) nofun
    | cons c t => exact .goesOn (Nat.zero_lt_succ _)
  | cons c rest ih =>
    rw [split] at h
    split at h
    · rename_i hempty
      obtain rfl := Except.ok.inj h
      obtain rfl := List.isEmpty_iff.mp hempty
      exact .usedUp 0 (Nat.zero_le _) nofun
    · rename_i hmore
      split at h
      · cases h
      · rename_i n hn
        rcases hsplit : split (t.drop n) rest with fault | others
        · rw [hsplit] at h
          cases h
        · rw [hsplit] at h
          obtain rfl := Except.ok.inj h
          rw [lengths_cons hn]
          exact (ih hsplit).cons fun hnil => hmore (List.isEmpty_iff.mpr hnil)

/-- What is cut off, and what is left over. -/
theorem flatten_splitLengths_append_drop (ns : List Nat) (t : Text) :
    (ns.splitLengths t).flatten ++ t.drop ns.sum = t := by
  induction ns generalizing t with
  | nil => rfl
  | cons n rest ih =>
    rw [List.splitLengths_cons, List.flatten_cons, List.sum_cons, ← List.drop_drop, List.append_assoc,
      ih, List.take_append_drop]

theorem CutBy.flatten (h : CutBy t ns parts) : parts.flatten = t := by
  cases h with
  | usedUp k hends hfirst => exact List.flatten_splitLengths t _ hends
  | goesOn hshort =>
    rw [List.flatten_append, List.flatten_singleton]
    exact flatten_splitLengths_append_drop ns t

/-- The pieces of a text make up the text, by any layout that is not refused. -/
theorem flatten_split (h : split t layout = .ok parts) : parts.flatten = t :=
  (cutBy_of_split h).flatten

/-- Lengths that come out even, none of them nothing, are the lengths of the pieces. -/
theorem CutBy.map_length (h : CutBy t ns parts) (hpos : ∀ n ∈ ns, 1 ≤ n) (hsum : ns.sum = t.length) :
    parts.map List.length = ns := by
  cases h with
  | usedUp k hends hfirst =>
    have hsplit : (ns.take k).sum + (ns.drop k).sum = ns.sum := by
      rw [← List.sum_append, List.take_append_drop]
    -- A length that is left over would be nothing.
    have hrest : ns.drop k = [] := by
      refine List.eq_nil_iff_forall_not_mem.mpr fun n hn => ?_
      have hzero := List.sum_eq_zero_iff_forall_eq_nat.mp (show (ns.drop k).sum = 0 by omega) n hn
      have hone := hpos n (List.mem_of_mem_drop hn)
      omega
    have hall : ns.take k = ns := by
      rw [← List.append_nil (ns.take k), ← hrest, List.take_append_drop]
    rw [hall]
    exact List.map_splitLengths_length t ns (Nat.le_of_eq hsum)
  | goesOn hshort => omega

/-- A layout of digits cuts every text, also one that it was not made for. -/
theorem IsDigits.exists_split (h : IsDigits layout) (t : Text) :
    ∃ parts, split t layout = .ok parts := by
  induction layout generalizing t with
  | nil => exact ⟨_, rfl⟩
  | cons c rest ih =>
    obtain ⟨hc, hrest⟩ := List.forall_mem_cons.mp h
    obtain ⟨n, hn⟩ := Option.isSome_iff_exists.mp hc
    rw [split, hn]
    split
    · exact ⟨_, rfl⟩
    · obtain ⟨parts, hparts⟩ := ih hrest (t.drop n)
      refine ⟨t.take n :: parts, ?_⟩
      dsimp only
      rw [hparts, Except.map]

/-! ## Drawing -/

/-- A layout of pieces of one to three code points, as many as there are altogether. -/
def Covers (size : Nat) (layout : Text) : Prop :=
  ∃ lengths : List Nat, layout = lengths.map digit ∧ (∀ n ∈ lengths, 1 ≤ n ∧ n ≤ 3) ∧
    lengths.foldr (· + ·) 0 = size

section Draw

variable {σ : Type} (draw : Draw σ)

theorem choose_zero (state : σ) : choose draw 0 state = ([], state) := by
  rw [choose, dif_pos rfl]

/-- The first piece is as long as was drawn, but no longer than what is left. -/
theorem choose_of_pos {size : Nat} (hsize : 0 < size) (state : σ) :
    choose draw size state =
      let length := min ((draw state).1.val + 1) size
      let rest := choose draw (size - length) (draw state).2
      (digit length :: rest.1, rest.2) := by
  rw [choose, dif_neg (Nat.ne_of_gt hsize)]

/-- Whatever the source gives, the layout covers the text. -/
theorem covers_choose (size : Nat) (state : σ) : Covers size (choose draw size state).1 := by
  induction size using Nat.strongRecOn generalizing state with
  | ind size ih =>
    rcases Nat.eq_zero_or_pos size with rfl | hsize
    · rw [choose_zero]
      exact ⟨[], rfl, nofun, rfl⟩
    · rw [choose_of_pos draw hsize]
      dsimp only
      obtain ⟨length, hlength⟩ : ∃ n, n = min ((draw state).1.val + 1) size := ⟨_, rfl⟩
      obtain ⟨lengths, hlayout, hbounds, hsum⟩ := ih (size - length) (by omega) (draw state).2
      rw [← hlength, hlayout]
      refine ⟨length :: lengths, rfl, List.forall_mem_cons.mpr ⟨?_, hbounds⟩, ?_⟩
      · omega
      · rw [List.foldr_cons, hsum]
        omega

/-- There is one draw for each piece. -/
theorem state_choose (size : Nat) (state : σ) :
    (choose draw size state).2 =
      (fun s => (draw s).2)^[(choose draw size state).1.length] state := by
  induction size using Nat.strongRecOn generalizing state with
  | ind size ih =>
    rcases Nat.eq_zero_or_pos size with rfl | hsize
    · rw [choose_zero]
      rfl
    · rw [choose_of_pos draw hsize]
      dsimp only
      rw [List.length_cons, Function.iterate_succ_apply]
      exact ih _ (by omega) (draw state).2

/-- All pieces but the last are as long as was drawn. -/
theorem getElem?_choose (size : Nat) (state : σ) {i : Nat}
    (hi : i + 1 < (choose draw size state).1.length) :
    (choose draw size state).1[i]? =
      some (digit ((draw ((fun s => (draw s).2)^[i] state)).1.val + 1)) := by
  induction size using Nat.strongRecOn generalizing state i with
  | ind size ih =>
    rcases Nat.eq_zero_or_pos size with rfl | hsize
    · rw [choose_zero] at hi
      cases hi
    · rw [choose_of_pos draw hsize] at hi ⊢
      dsimp only at hi ⊢
      rw [List.length_cons] at hi
      cases i with
      | zero =>
        -- Behind the first piece something is left, so it was not cut short.
        have hleft : size - min ((draw state).1.val + 1) size ≠ 0 := by
          intro hnone
          rw [hnone, choose_zero] at hi
          cases Nat.lt_of_succ_lt_succ hi
        rw [List.getElem?_cons_zero, Nat.min_eq_left (by omega)]
        rfl
      | succ i =>
        rw [List.getElem?_cons_succ, Function.iterate_succ_apply]
        exact ih _ (by omega) (draw state).2 (Nat.lt_of_succ_lt_succ hi)

end Draw

namespace Covers

variable {size : Nat}

/-- One code point is one piece. -/
theorem eq_of_one (h : Covers 1 layout) : layout = [digit 1] := by
  obtain ⟨lengths, rfl, hbounds, hsum⟩ := h
  match lengths with
  | [] => cases hsum
  | [n] => rw [show n = 1 from hsum, List.map_singleton]
  | n :: m :: rest =>
    have hn := (hbounds n List.mem_cons_self).1
    have hm := (hbounds m (List.mem_cons_of_mem _ List.mem_cons_self)).1
    rw [List.foldr_cons, List.foldr_cons] at hsum
    omega

theorem isDigits (h : Covers size layout) : IsDigits layout := by
  obtain ⟨lengths, rfl, hbounds, -⟩ := h
  intro d hd
  obtain ⟨n, hn, rfl⟩ := List.mem_map.mp hd
  have hbound := hbounds n hn
  rw [digitValue?_digit (by omega), Option.isSome_some]

theorem plain (h : Covers size layout) : layout.Plain := by
  obtain ⟨lengths, rfl, hbounds, -⟩ := h
  intro c hc
  obtain ⟨n, hn, rfl⟩ := List.mem_map.mp hc
  have hbound := hbounds n hn
  exact Utf8.isSurrogate_ofNat (by omega)

theorem mem_digits (h : Covers size layout) : ∀ d ∈ layout, d ∈ ("123" : Text) := by
  have hall : ∀ n < 4, 1 ≤ n → digit n ∈ ("123" : Text) := by decide
  obtain ⟨lengths, rfl, hbounds, -⟩ := h
  intro d hd
  obtain ⟨n, hn, rfl⟩ := List.mem_map.mp hd
  have hbound := hbounds n hn
  exact hall n (by omega) hbound.1

theorem one_le_lengths (h : Covers size layout) : ∀ n ∈ lengths layout, 1 ≤ n := by
  obtain ⟨ns, rfl, hbounds, -⟩ := h
  rw [lengths_digits fun n hn => Nat.lt_of_le_of_lt (hbounds n hn).2 (by decide)]
  exact fun n hn => (hbounds n hn).1

theorem sum_lengths (h : Covers size layout) : (lengths layout).sum = size := by
  obtain ⟨ns, rfl, hbounds, hsum⟩ := h
  rw [lengths_digits fun n hn => Nat.lt_of_le_of_lt (hbounds n hn).2 (by decide)]
  exact hsum

end Covers

/-- A layout that is drawn for a text cuts it. -/
theorem exists_split_choose {σ : Type} (draw : Draw σ) (t : Text) (state : σ) :
    ∃ parts, split t (choose draw t.length state).1 = .ok parts :=
  (covers_choose draw t.length state).isDigits.exists_split t

/-! ## Exactness -/

/-- By a layout of any digits a text is cut into pieces that make it up.  For every text a layout can
be drawn from every source of lengths from one to three, with one draw for each of its digits, which
add up to the length of the text; all but the last are what was drawn.  By it the text is cut into
pieces that are as long as its digits say, and none of them is empty. -/
theorem cut_exact :
    (∀ t layout : Text, IsDigits layout →
      ∃ parts, split t layout = .ok parts ∧ parts.flatten = t ∧ CutBy t (lengths layout) parts) ∧
    ∀ (σ : Type) (draw : Draw σ) (t : Text) (state : σ),
      let next := fun s => (draw s).2
      let layout := (choose draw t.length state).1
      (∀ d ∈ layout, d ∈ ("123" : Text)) ∧ (lengths layout).sum = t.length ∧
        (choose draw t.length state).2 = next^[layout.length] state ∧
        (∀ i, i + 1 < layout.length → layout[i]? = some (digit ((draw (next^[i] state)).1.val + 1))) ∧
        ∃ parts, split t layout = .ok parts ∧ parts.flatten = t ∧
          parts.map List.length = lengths layout ∧ [] ∉ parts := by
  constructor
  · intro t layout hdigits
    obtain ⟨parts, hparts⟩ := hdigits.exists_split t
    exact ⟨parts, hparts, flatten_split hparts, cutBy_of_split hparts⟩
  · intro σ draw t state next layout
    have hcovers : Covers t.length layout := covers_choose draw t.length state
    obtain ⟨parts, hparts⟩ := hcovers.isDigits.exists_split t
    have hlengths := (cutBy_of_split hparts).map_length hcovers.one_le_lengths hcovers.sum_lengths
    refine ⟨hcovers.mem_digits, hcovers.sum_lengths, state_choose draw t.length state,
      fun i hi => getElem?_choose draw t.length state hi, parts, hparts, flatten_split hparts, hlengths, ?_⟩
    intro hempty
    have hmem : ([] : Text).length ∈ lengths layout := hlengths ▸ List.mem_map_of_mem hempty
    exact absurd (hcovers.one_le_lengths _ hmem) (by decide)

/-- A layout that was made for another text: one digit is of another script, one is zero, and together
they are less than this text is long. -/
def staleLayout : Text := "1\u06620"

/-- A source that counts round from one to three. -/
def counting : Draw Nat :=
  fun n => (⟨n % 3, Nat.mod_lt n (by decide)⟩, n + 1)

/-- A stale layout still cuts the whole text, and one that is drawn comes out even. -/
theorem staleLayout_cut :
    (IsDigits staleLayout ∧ split "abcdef" staleLayout = .ok ["a", "bc", "", "def"] ∧
      List.flatten (["a", "bc", "", "def"] : List Text) = ("abcdef" : Text)) ∧
    (choose counting 5 0).1 = ("122" : Text) ∧ split "abcde" "122" = .ok ["a", "bc", "de"] ∧
      (["a", "bc", "de"] : List Text).map List.length = lengths "122" := by
  have hdigits : IsDigits staleLayout := by decide
  have hstale : split "abcdef" staleLayout = .ok ["a", "bc", "", "def"] := by decide
  have hdrawn : (choose counting 5 0).1 = ("122" : Text) := by cbv
  have hsplit : split "abcde" "122" = .ok ["a", "bc", "de"] := by decide
  obtain ⟨parts, hparts, hwhole, -⟩ := cut_exact.1 "abcdef" staleLayout hdigits
  obtain rfl := Except.ok.inj (hparts.symm.trans hstale)
  obtain ⟨-, -, -, -, parts, hparts, -, hlengths, -⟩ := cut_exact.2 Nat counting "abcde" 0
  rw [show (choose counting (List.length ("abcde" : Text)) 0).1 = _ from hdrawn] at hparts hlengths
  obtain rfl := Except.ok.inj (hparts.symm.trans hsplit)
  exact ⟨⟨hdigits, hstale, hwhole⟩, hdrawn, hsplit, hlengths⟩

end VeiledGateway.Layout
