/-
  Edits made in one pass, and one after the other.

  A source is gone through once, and every edit is made where its range is come to.  `splice_exact` says
  what this amounts to: the ranges are replaced one at a time, the last one first, and no order in which
  the edits were added makes a difference.  What stands outside all ranges comes out once and in its
  order, between the new texts.  Only edits that overlap are refused.
-/
import Mathlib.Data.List.Nodup
import Mathlib.Data.List.Pairwise
import VeiledGateway.Proofs.Edits.Applying
import VeiledGateway.Proofs.Outcome

set_option autoImplicit false

namespace VeiledGateway

namespace Range

/-- A range that does not begin before the source, nor end before it begins. -/
structure IsOrdered (r : Range) : Prop where
  nonneg : 0 ≤ r.start
  le : r.start ≤ r.stop

/-- The later one of two ranges begins before the earlier one ends. -/
structure Overlaps (r s : Range) : Prop where
  ne : r ≠ s
  le : r.le s = true
  lt : s.start < r.stop

instance (r : Range) : Decidable r.IsOrdered :=
  decidable_of_iff (0 ≤ r.start ∧ r.start ≤ r.stop)
    ⟨fun ⟨nonneg, le⟩ => ⟨nonneg, le⟩, fun ⟨nonneg, le⟩ => ⟨nonneg, le⟩⟩

instance (r s : Range) : Decidable (r.Overlaps s) :=
  decidable_of_iff (r ≠ s ∧ r.le s = true ∧ s.start < r.stop)
    ⟨fun ⟨ne, le, lt⟩ => ⟨ne, le, lt⟩, fun ⟨ne, le, lt⟩ => ⟨ne, le, lt⟩⟩

/-- What is left of a range in a text of a size.  What reaches past the end is cut; a range that ends
before it stays as it is. -/
def cut (r : Range) (size : Nat) : Range :=
  ⟨min r.start size, min r.stop size⟩

/-- The range goes over a position. -/
def covers (r : Range) (position : Nat) : Bool :=
  r.start ≤ position && position < r.stop

theorem covers_iff {r : Range} {position : Nat} :
    r.covers position = true ↔ r.start ≤ position ∧ (position : Int) < r.stop := by
  simp [covers]

theorem IsProper.isOrdered {r : Range} (h : r.IsProper) : r.IsOrdered :=
  ⟨h.1, Int.le_of_lt h.2⟩

theorem le_antisymm {r s : Range} (h : r.le s = true) (h' : s.le r = true) : r = s := by
  obtain ⟨start, stop⟩ := r
  obtain ⟨start', stop'⟩ := s
  rw [le_iff] at h h'
  simp only at h h'
  rw [mk.injEq]
  omega

/-- Ranges that overlap do not lie apart. -/
theorem Overlaps.not_apart {r s : Range} (h : r.Overlaps s) (hr : r.IsOrdered) (hs : s.IsOrdered) :
    ¬ r.Apart s := by
  obtain ⟨-, hle, hlt⟩ := h
  have := hr.le
  have := hs.le
  rw [le_iff] at hle
  rintro (hapart | hapart) <;> omega

end Range

/-- A text with another one in the place of a range. -/
def Text.exchange (t : Text) (range : Range) (new : Text) : Text :=
  t.take range.start.toNat ++ new ++ t.drop range.stop.toNat

/-- The part between two positions, neither of which is counted from the end. -/
theorem Text.slice_of_nonneg (t : Text) {start stop : Int} (hstart : 0 ≤ start) (hstop : 0 ≤ stop) :
    Text.slice t start stop = (t.drop start.toNat).take (stop.toNat - start.toNat) := by
  rw [slice, place, place, if_neg (by omega), if_neg (by omega)]

theorem Text.take_slice (t : Text) {start stop : Int} (hstart : 0 ≤ start) (hle : start ≤ stop) :
    t.take start.toNat ++ Text.slice t start stop = t.take stop.toNat := by
  rw [slice_of_nonneg t hstart (by omega), ← List.take_add]
  congr 1
  omega

/-- Parts that follow each other make up one part. -/
theorem Text.slice_append (t : Text) {start middle stop : Int} (hstart : 0 ≤ start)
    (hmiddle : start ≤ middle) (hstop : middle ≤ stop) :
    Text.slice t start middle ++ Text.slice t middle stop = Text.slice t start stop := by
  rw [slice_of_nonneg t hstart (by omega), slice_of_nonneg t (by omega) (by omega),
    slice_of_nonneg t hstart (by omega)]
  have hsplit := List.take_add (l := t.drop start.toNat) (i := middle.toNat - start.toNat)
    (j := stop.toNat - middle.toNat)
  rw [List.drop_drop, Nat.add_sub_cancel' (by omega)] at hsplit
  rw [← hsplit]
  congr 1
  omega

theorem Text.slice_append_drop (t : Text) {start stop : Int} (hstart : 0 ≤ start) (hstop : start ≤ stop) :
    Text.slice t start stop ++ t.drop stop.toNat = t.drop start.toNat := by
  have hsplit := List.take_append_drop (stop.toNat - start.toNat) (t.drop start.toNat)
  rw [List.drop_drop, Nat.add_sub_cancel' (by omega)] at hsplit
  rw [slice_of_nonneg t hstart (by omega), hsplit]

/-- A part of the beginning of a text. -/
theorem Text.slice_take (t : Text) {start stop limit : Int} (hstart : 0 ≤ start) (hstop : start ≤ stop)
    (hlimit : stop ≤ limit) : Text.slice (t.take limit.toNat) start stop = Text.slice t start stop := by
  rw [slice_of_nonneg _ hstart (by omega), slice_of_nonneg _ hstart (by omega), List.drop_take,
    List.take_take]
  congr 1
  omega

theorem Text.slice_to_end (t : Text) {start : Int} (hstart : 0 ≤ start) :
    Text.slice t start t.length = t.drop start.toNat := by
  rw [slice_of_nonneg t hstart (by omega), List.take_of_length_le]
  simp

namespace Edits

/-- All ranges replaced one at a time, the last one first. -/
def exchangeAll (source : Text) (edits : Edits) : Text :=
  edits.foldr (fun edit t => t.exchange (edit.1.cut source.length) edit.2) source

/-- No range goes over a position. -/
def leaves (edits : Edits) (position : Nat) : Bool :=
  edits.all fun edit => !edit.1.covers position

/-- What stands outside all ranges. -/
def outside (source : Text) (edits : Edits) : Text :=
  (source.zipIdx.filter fun place => leaves edits place.2).map Prod.fst

/-- The texts of edits, each with what follows it. -/
def interleave (edits : Edits) (gaps : List Text) : Text :=
  (List.zipWith (· ++ ·) (edits.map Prod.snd) gaps).flatten

variable {source : Text} {edits : Edits} {position : Int} {output : Text} {fault : Fault}

/-! ## One pass -/

theorem splice_cons_eq_ok {edit : Range × Text} {rest : Edits}
    (h : splice source position (edit :: rest) = .ok output) :
    position ≤ edit.1.start ∧ ∃ after, splice source edit.1.stop rest = .ok after ∧
      output = Text.slice source position edit.1.start ++ edit.2 ++ after := by
  rw [splice] at h
  split at h
  · cases h
  · rename_i hstart
    obtain ⟨after, hafter, h⟩ := Outcome.bind_eq_ok.mp h
    exact ⟨Int.not_lt.mp hstart, after, hafter, (Outcome.pure_eq_ok.mp h).symm⟩

/-- Edits that are made begin where the one before ended, or later. -/
theorem apart_of_splice (hordered : ∀ edit ∈ edits, edit.1.IsOrdered)
    (h : splice source position edits = .ok output) :
    (∀ edit ∈ edits, position ≤ edit.1.start) ∧
      edits.Pairwise fun a b => a.1.stop ≤ b.1.start := by
  induction edits generalizing position output with
  | nil => exact ⟨nofun, .nil⟩
  | cons edit rest ih =>
    obtain ⟨hedit, hrest⟩ := List.forall_mem_cons.mp hordered
    obtain ⟨hstart, after, hafter, -⟩ := splice_cons_eq_ok h
    obtain ⟨hstarts, hpairwise⟩ := ih hrest hafter
    refine ⟨List.forall_mem_cons.mpr ⟨hstart, fun other hother => ?_⟩,
      List.pairwise_cons.mpr ⟨hstarts, hpairwise⟩⟩
    exact Int.le_trans hstart (Int.le_trans hedit.le (hstarts other hother))

/-- Edits in order are refused only for one that begins too early. -/
theorem overlap_of_splice (hsorted : edits.Pairwise fun a b => a.1.le b.1 = true)
    (hmap : (edits.map Prod.fst).Nodup) (h : splice source position edits = .error fault) :
    ∃ b ∈ edits, fault = .overlap b.1.start ∧
      (b.1.start < position ∨ ∃ a ∈ edits, a.1.Overlaps b.1) := by
  induction edits generalizing position with
  | nil => cases h
  | cons edit rest ih =>
    obtain ⟨hle, hsorted⟩ := List.pairwise_cons.mp hsorted
    obtain ⟨hnew, hmap⟩ := List.nodup_cons.mp hmap
    rw [splice] at h
    split at h
    · rename_i hstart
      exact ⟨edit, List.mem_cons_self, (Except.error.inj h).symm, .inl hstart⟩
    · cases hafter : splice source edit.1.stop rest with
      | ok after =>
        rw [hafter] at h
        cases h
      | error other =>
        rw [hafter] at h
        obtain rfl : other = fault := Except.error.inj h
        obtain ⟨b, hb, hfault, hearly⟩ := ih hsorted hmap hafter
        refine ⟨b, List.mem_cons_of_mem _ hb, hfault, .inr ?_⟩
        obtain hlt | ⟨a, ha, hoverlaps⟩ := hearly
        · refine ⟨edit, List.mem_cons_self, fun heq => ?_, hle b hb, hlt⟩
          exact hnew (heq ▸ List.mem_map_of_mem hb)
        · exact ⟨a, List.mem_cons_of_mem _ ha, hoverlaps⟩

/-- What has been passed over, and then what comes out, is what one replacement after the other gives. -/
theorem exchangeAll_of_splice (hordered : ∀ edit ∈ edits, edit.1.IsOrdered) (hposition : 0 ≤ position)
    (h : splice source position edits = .ok output) :
    exchangeAll source edits = source.take position.toNat ++ output := by
  induction edits generalizing position output with
  | nil =>
    obtain rfl := Except.ok.inj h
    rw [Text.slice_to_end source hposition, List.take_append_drop]
    rfl
  | cons edit rest ih =>
    obtain ⟨⟨hnonneg, hle⟩, hrest⟩ := List.forall_mem_cons.mp hordered
    obtain ⟨hstart, after, hafter, rfl⟩ := splice_cons_eq_ok h
    have hinside : exchangeAll source rest = source.take edit.1.stop.toNat ++ after :=
      ih hrest (Int.le_trans hnonneg hle) hafter
    have hlength : (source.take edit.1.stop.toNat).length = (min edit.1.stop source.length).toNat := by
      rw [List.length_take]
      omega
    have hbefore : (source.take edit.1.stop.toNat ++ after).take (min edit.1.start source.length).toNat
        = source.take edit.1.start.toNat := by
      rw [List.take_append_of_le_length (by omega), List.take_take, List.take_eq_take_iff]
      omega
    have hbehind : (source.take edit.1.stop.toNat ++ after).drop (min edit.1.stop source.length).toNat
        = after := by
      rw [← hlength, List.drop_left]
    calc exchangeAll source (edit :: rest)
        = (exchangeAll source rest).exchange (edit.1.cut source.length) edit.2 := rfl
      _ = source.take edit.1.start.toNat ++ edit.2 ++ after := by
          rw [hinside, Text.exchange, Range.cut, hbefore, hbehind]
      _ = source.take position.toNat ++
            (Text.slice source position edit.1.start ++ edit.2 ++ after) := by
          rw [← Text.take_slice source hposition hstart]
          simp only [List.append_assoc]

/-! ## What stands outside -/

/-- Positions are counted from the beginning also in a part of a text. -/
theorem position_of_mem {first size : Nat} {place : CodePoint × Nat}
    (h : place ∈ (source.zipIdx.drop first).take size) :
    first ≤ place.2 ∧ place.2 < first + size := by
  obtain ⟨i, hi⟩ := List.mem_iff_getElem?.mp h
  rw [List.getElem?_take] at hi
  split at hi
  · rw [List.getElem?_drop, List.getElem?_zipIdx] at hi
    obtain ⟨c, -, rfl⟩ := Option.map_eq_some_iff.mp hi
    omega
  · cases hi

theorem le_position_of_mem {first : Nat} {place : CodePoint × Nat} (h : place ∈ source.zipIdx.drop first) :
    first ≤ place.2 := by
  rw [← List.take_length (l := source.zipIdx.drop first)] at h
  exact (position_of_mem h).1

/-- In what is not yet passed over, all up to the first range stands outside, and nothing in it does. -/
theorem filter_leaves_cons {edit : Range × Text} {rest : Edits} (hposition : 0 ≤ position)
    (hstart : position ≤ edit.1.start) (hle : edit.1.start ≤ edit.1.stop)
    (hrest : ∀ other ∈ rest, edit.1.stop ≤ other.1.start) :
    (source.zipIdx.drop position.toNat).filter (fun place => leaves (edit :: rest) place.2)
      = (source.zipIdx.drop position.toNat).take (edit.1.start.toNat - position.toNat)
        ++ (source.zipIdx.drop edit.1.stop.toNat).filter fun place => leaves rest place.2 := by
  have hsplit : source.zipIdx.drop position.toNat
      = (source.zipIdx.drop position.toNat).take (edit.1.start.toNat - position.toNat)
        ++ ((source.zipIdx.drop edit.1.start.toNat).take (edit.1.stop.toNat - edit.1.start.toNat)
          ++ source.zipIdx.drop edit.1.stop.toNat) := by
    have hmiddle := List.take_append_drop (edit.1.start.toNat - position.toNat)
      (source.zipIdx.drop position.toNat)
    have hlast := List.take_append_drop (edit.1.stop.toNat - edit.1.start.toNat)
      (source.zipIdx.drop edit.1.start.toNat)
    rw [List.drop_drop, Nat.add_sub_cancel' (by omega)] at hmiddle hlast
    rw [hlast, hmiddle]
  have hbefore : ∀ place ∈ (source.zipIdx.drop position.toNat).take
      (edit.1.start.toNat - position.toNat), leaves (edit :: rest) place.2 = true := by
    intro place hplace
    have hbounds := position_of_mem hplace
    refine List.all_eq_true.mpr (List.forall_mem_cons.mpr ⟨?_, fun other hother => ?_⟩)
    · rw [Bool.not_eq_true', Bool.eq_false_iff, ne_eq, Range.covers_iff]
      omega
    · have := hrest other hother
      rw [Bool.not_eq_true', Bool.eq_false_iff, ne_eq, Range.covers_iff]
      omega
  have hwithin : ∀ place ∈ (source.zipIdx.drop edit.1.start.toNat).take
      (edit.1.stop.toNat - edit.1.start.toNat), ¬ leaves (edit :: rest) place.2 = true := by
    intro place hplace hleaves
    have hbounds := position_of_mem hplace
    have hfree := List.all_eq_true.mp hleaves edit List.mem_cons_self
    rw [Bool.not_eq_true', Bool.eq_false_iff, ne_eq, Range.covers_iff] at hfree
    omega
  have hbehind : ∀ place ∈ source.zipIdx.drop edit.1.stop.toNat,
      leaves (edit :: rest) place.2 = leaves rest place.2 := by
    intro place hplace
    have hbound := le_position_of_mem hplace
    have hfree : edit.1.covers place.2 = false := by
      rw [Bool.eq_false_iff, ne_eq, Range.covers_iff]
      omega
    rw [leaves, List.all_cons, hfree]
    rfl
  have hfilter := congrArg (List.filter fun place => leaves (edit :: rest) place.2) hsplit
  rwa [List.filter_append, List.filter_append, List.filter_eq_self.mpr hbefore,
    List.filter_eq_nil_iff.mpr hwithin, List.nil_append, List.filter_congr hbehind] at hfilter

/-- What comes out are the new texts, and between them what stands outside the ranges. -/
theorem exists_gaps (hordered : ∀ edit ∈ edits, edit.1.IsOrdered) (hposition : 0 ≤ position)
    (h : splice source position edits = .ok output) :
    ∃ lead gaps, gaps.length = edits.length ∧
      lead ++ gaps.flatten =
        ((source.zipIdx.drop position.toNat).filter fun place => leaves edits place.2).map Prod.fst ∧
      output = lead ++ interleave edits gaps := by
  induction edits generalizing position output with
  | nil =>
    obtain rfl := Except.ok.inj h
    refine ⟨source.drop position.toNat, [], rfl, ?_, ?_⟩
    · have hall : (source.zipIdx.drop position.toNat).filter (fun place => leaves [] place.2)
          = source.zipIdx.drop position.toNat := List.filter_eq_self.mpr fun _ _ => rfl
      rw [hall, List.map_drop, List.zipIdx_map_fst]
      exact List.append_nil _
    · rw [Text.slice_to_end source hposition]
      exact (List.append_nil _).symm
  | cons edit rest ih =>
    obtain ⟨⟨hnonneg, hle⟩, hrest⟩ := List.forall_mem_cons.mp hordered
    obtain ⟨hstart, after, hafter, rfl⟩ := splice_cons_eq_ok h
    obtain ⟨lead, gaps, hcount, hkept, rfl⟩ := ih hrest (Int.le_trans hnonneg hle) hafter
    refine ⟨Text.slice source position edit.1.start, lead :: gaps, congrArg Nat.succ hcount, ?_, ?_⟩
    · rw [filter_leaves_cons hposition hstart hle (apart_of_splice hrest hafter).1, List.map_append,
        ← hkept, List.map_take, List.map_drop, List.zipIdx_map_fst,
        Text.slice_of_nonneg source hposition (by omega)]
      rfl
    · simp [interleave, List.append_assoc]

/-! ## All edits of a source -/

theorem ofList_eq_self (hmap : (edits.map Prod.fst).Nodup) : ofList edits = edits := by
  suffices hfold : ∀ before : Edits, ((before ++ edits).map Prod.fst).Nodup →
      edits.foldl (fun edits edit => put edits edit.1 edit.2) before = before ++ edits from
    hfold [] hmap
  clear hmap
  induction edits with
  | nil => exact fun before _ => (List.append_nil before).symm
  | cons edit rest ih =>
    intro before hnodup
    have hput : put before edit.1 edit.2 = before ++ [edit] := by
      have hnew : edit.1 ∉ before.map Prod.fst := by
        rw [List.map_append, List.nodup_append] at hnodup
        exact fun hmem => hnodup.2.2 _ hmem _ List.mem_cons_self rfl
      clear hnodup ih
      induction before with
      | nil => rfl
      | cons first others ih =>
        rw [List.map_cons, List.mem_cons, not_or] at hnew
        rw [put, if_neg (Ne.symm hnew.1), ih hnew.2]
        rfl
    have hassoc : before ++ edit :: rest = before ++ [edit] ++ rest := by simp
    rw [List.foldl_cons, hput, hassoc]
    exact ih _ (hassoc ▸ hnodup)

/-- The order in which edits were added is no part of their order. -/
theorem sorted_eq_of_perm {added : Edits} (hmap : (edits.map Prod.fst).Nodup) (h : added.Perm edits) :
    sorted added = sorted edits := by
  refine List.Perm.eq_of_pairwise (fun a b ha hb hab hba => ?_) (pairwise_sorted added)
    (pairwise_sorted edits) ((sorted_perm added).trans (h.trans (sorted_perm edits).symm))
  refine List.inj_on_of_nodup_map hmap ?_ ?_ (Range.le_antisymm hab hba)
  · exact h.mem_iff.mp ((sorted_perm added).mem_iff.mp ha)
  · exact (sorted_perm edits).mem_iff.mp hb

/-- Edits are refused for one that overlaps another. -/
theorem overlap_of_apply (hmap : (edits.map Prod.fst).Nodup) (hordered : ∀ edit ∈ edits, edit.1.IsOrdered)
    (h : apply source edits = .error fault) :
    ∃ a ∈ edits, ∃ b ∈ edits, a.1.Overlaps b.1 ∧ fault = .overlap b.1.start := by
  have hmem : ∀ {edit}, edit ∈ sorted edits ↔ edit ∈ edits := (sorted_perm edits).mem_iff
  obtain ⟨b, hb, rfl, hearly⟩ := overlap_of_splice (pairwise_sorted edits)
    (((sorted_perm edits).map Prod.fst).nodup_iff.mpr hmap) h
  obtain ⟨a, ha, hoverlaps⟩ :=
    hearly.resolve_left (Int.not_lt.mpr (hordered b (hmem.mp hb)).nonneg)
  exact ⟨a, hmem.mp ha, b, hmem.mp hb, hoverlaps, rfl⟩

/-- Edits of ranges that lie apart can be made, also where a range is empty. -/
theorem exists_apply_of_apart (source : Text) (hmap : (edits.map Prod.fst).Nodup)
    (hordered : ∀ edit ∈ edits, edit.1.IsOrdered)
    (hapart : ∀ a ∈ edits, ∀ b ∈ edits, a.1 ≠ b.1 → a.1.Apart b.1) :
    ∃ output, apply source edits = .ok output := by
  cases houtput : apply source edits with
  | ok output => exact ⟨output, rfl⟩
  | error fault =>
    obtain ⟨a, ha, b, hb, hoverlaps, -⟩ := overlap_of_apply hmap hordered houtput
    exact absurd (hapart a ha b hb hoverlaps.ne) (hoverlaps.not_apart (hordered a ha) (hordered b hb))

/-! ## The text at a range -/

/-- The text that stands at a range once edits are made, if they leave all of it or replace it. -/
def textAt (source : Text) (edits : Edits) (range : Range) : Text :=
  (edits.lookup range).getD (Text.slice source range.start range.stop)

variable {range : Range}

theorem lookup_of_forall_ne (h : ∀ edit ∈ edits, edit.1 ≠ range) : List.lookup range edits = none :=
  List.lookup_eq_none_iff.mpr fun edit hedit => bne_iff_ne.mpr (h edit hedit).symm

theorem lookup_iff_mem (hmap : (edits.map Prod.fst).Nodup) {text : Text} :
    List.lookup range edits = some text ↔ (range, text) ∈ edits := by
  constructor
  · intro h
    obtain ⟨before, after, rfl, -⟩ := List.lookup_eq_some_iff.mp h
    exact List.mem_append_right _ List.mem_cons_self
  · intro hmem
    rw [← ofList_eq_self hmap]
    refine lookup_ofList_of_forall ⟨_, hmem, rfl⟩ fun edit hedit heq => ?_
    exact congrArg Prod.snd (List.inj_on_of_nodup_map hmap hedit hmem heq)

/-- The source up to a range, with what is made of it: the edits are those that end there. -/
def spliceUpTo (source : Text) (position : Int) (edits : Edits) (range : Range) : Except Fault Text :=
  splice (source.take range.start.toNat) position (edits.filter fun edit => edit.1.stop ≤ range.start)

theorem spliceUpTo_of_later (hposition : 0 ≤ position) (hrange : 0 ≤ range.start)
    (h : ∀ edit ∈ edits, range.start < edit.1.stop) :
    spliceUpTo source position edits range = .ok (Text.slice source position range.start) := by
  have hnone : (edits.filter fun edit => edit.1.stop ≤ range.start) = [] :=
    List.filter_eq_nil_iff.mpr fun edit hedit hle =>
      absurd (of_decide_eq_true hle) (Int.not_le.mpr (h edit hedit))
  rw [spliceUpTo, hnone, splice, Text.slice_to_end _ hposition, List.drop_take,
    Text.slice_of_nonneg source hposition hrange]

theorem spliceUpTo_cons {edit : Range × Text} {rest : Edits} {before : Text} (hposition : 0 ≤ position)
    (hstart : position ≤ edit.1.start) (hle : edit.1.start ≤ edit.1.stop)
    (hstop : edit.1.stop ≤ range.start)
    (h : spliceUpTo source edit.1.stop rest range = .ok before) :
    spliceUpTo source position (edit :: rest) range
      = .ok (Text.slice source position edit.1.start ++ edit.2 ++ before) := by
  have hslice : Text.slice (source.take range.start.toNat) position edit.1.start
      = Text.slice source position edit.1.start :=
    Text.slice_take source hposition hstart (Int.le_trans hle hstop)
  have hfilter : ((edit :: rest).filter fun edit => edit.1.stop ≤ range.start)
      = edit :: rest.filter fun edit => edit.1.stop ≤ range.start :=
    List.filter_cons_of_pos (decide_eq_true hstop)
  rw [spliceUpTo] at h
  rw [spliceUpTo, hfilter, splice, if_neg (Int.not_lt.mpr hstart), h, hslice]
  rfl

/-- What stands before a range is what is made of the source up to it, and then comes the text at the
range. -/
theorem exists_around_of_splice (hrange : range.IsProper) (hposition : 0 ≤ position)
    (hstart : position ≤ range.start) (hordered : ∀ edit ∈ edits, edit.1.IsOrdered)
    (hfree : ∀ edit ∈ edits, edit.1 = range ∨ edit.1.Apart range)
    (h : splice source position edits = .ok output) :
    ∃ before after, spliceUpTo source position edits range = .ok before ∧
      output = before ++ textAt source edits range ++ after := by
  obtain ⟨hnonneg, hlt⟩ := hrange
  induction edits generalizing position output with
  | nil =>
    obtain rfl := Except.ok.inj h
    refine ⟨_, source.drop range.stop.toNat, spliceUpTo_of_later hposition hnonneg nofun, ?_⟩
    have hnone : textAt source [] range = Text.slice source range.start range.stop := rfl
    rw [hnone, Text.slice_append source hposition hstart (Int.le_of_lt hlt),
      Text.slice_append_drop source hposition (by omega), Text.slice_to_end source hposition]
  | cons edit rest ih =>
    obtain ⟨⟨hedit, hle⟩, hrest⟩ := List.forall_mem_cons.mp hordered
    obtain ⟨hfirst, hothers⟩ := List.forall_mem_cons.mp hfree
    obtain ⟨hbegin, after, hafter, rfl⟩ := splice_cons_eq_ok h
    have hfollow : ∀ other ∈ rest, edit.1.stop ≤ other.1.start := (apart_of_splice hrest hafter).1
    have hlater (hedit : range.start < edit.1.stop) :
        ∀ other ∈ edit :: rest, range.start < other.1.stop := by
      refine List.forall_mem_cons.mpr ⟨hedit, fun other hother => ?_⟩
      have hnext := hfollow other hother
      have hle := (hrest other hother).le
      omega
    obtain heq | hstop | hbehind := hfirst
    · refine ⟨_, after, spliceUpTo_of_later hposition hnonneg (hlater (heq ▸ hlt)), ?_⟩
      rw [textAt, lookup_cons, if_pos heq.symm, heq]
      rfl
    · obtain ⟨before, behind, hbefore, houtput⟩ := ih (by omega) hstop hrest hothers hafter
      refine ⟨_, behind, spliceUpTo_cons hposition hbegin hle hstop hbefore, ?_⟩
      have hne : range ≠ edit.1 := fun heq => by
        rw [← heq] at hstop
        omega
      have hsame : textAt source (edit :: rest) range = textAt source rest range := by
        rw [textAt, lookup_cons, if_neg hne]
        rfl
      rw [hsame, houtput]
      simp only [List.append_assoc]
    · have hnone : List.lookup range (edit :: rest) = none := by
        refine lookup_of_forall_ne (List.forall_mem_cons.mpr ⟨fun heq => ?_, fun other hother heq => ?_⟩)
        · rw [heq] at hbehind
          omega
        · have hnext := hfollow other hother
          rw [heq] at hnext
          omega
      refine ⟨_, Text.slice source range.stop edit.1.start ++ edit.2 ++ after,
        spliceUpTo_of_later hposition hnonneg (hlater (by omega)), ?_⟩
      rw [textAt, hnone, Option.getD_none, Text.slice_append source hposition hstart (Int.le_of_lt hlt),
        ← Text.slice_append source hposition (by omega) hbehind]
      simp only [List.append_assoc]

/-- The text at a range that edits leave or replace, in its place. -/
theorem exists_around (hrange : range.IsProper) (hmap : (edits.map Prod.fst).Nodup)
    (hordered : ∀ edit ∈ edits, edit.1.IsOrdered)
    (hfree : ∀ edit ∈ edits, edit.1 = range ∨ edit.1.Apart range) (h : apply source edits = .ok output) :
    ∃ before after, spliceUpTo source 0 (sorted edits) range = .ok before ∧
      output = before ++ textAt source edits range ++ after := by
  have hmem : ∀ {edit}, edit ∈ sorted edits → edit ∈ edits := (sorted_perm edits).mem_iff.mp
  have hlookup : List.lookup range (sorted edits) = edits.lookup range := by
    refine Option.ext fun text => ?_
    rw [lookup_iff_mem (((sorted_perm edits).map Prod.fst).nodup_iff.mpr hmap), lookup_iff_mem hmap,
      (sorted_perm edits).mem_iff]
  have haround := exists_around_of_splice hrange (Int.le_refl 0) hrange.1
    (fun edit hedit => hordered edit (hmem hedit)) (fun edit hedit => hfree edit (hmem hedit)) h
  rwa [textAt, hlookup] at haround

/-- What it is to make edits exactly. -/
structure Exact (source : Text) (edits : Edits) : Prop where
  /-- They are refused just if two of them overlap, and the later one is the reason. -/
  refused : (∃ fault, apply source edits = .error fault) ↔
    ∃ a ∈ edits, ∃ b ∈ edits, a.1.Overlaps b.1
  reason : ∀ fault, apply source edits = .error fault →
    ∃ a ∈ edits, ∃ b ∈ edits, a.1.Overlaps b.1 ∧ fault = .overlap b.1.start
  /-- If they are made, the ranges are replaced one at a time, the last one first. -/
  made : ∀ output, apply source edits = .ok output → output = exchangeAll source (sorted edits)
  /-- All that stands outside the ranges comes out once and in its order, between the new texts. -/
  kept : ∀ output, apply source edits = .ok output → ∃ lead gaps, gaps.length = edits.length ∧
    lead ++ gaps.flatten = outside source edits ∧ output = lead ++ interleave (sorted edits) gaps
  /-- They may have been added in any order. -/
  unordered : ∀ added : List (Range × Text), added.Perm edits →
    apply source (ofList added) = apply source edits

/-- Edits of ranges that do not end before they begin are made exactly. -/
theorem splice_exact (hmap : (edits.map Prod.fst).Nodup)
    (hordered : ∀ edit ∈ edits, edit.1.IsOrdered) (source : Text) : Exact source edits := by
  have hperm : (sorted edits).Perm edits := sorted_perm edits
  have hsorted : ∀ edit ∈ sorted edits, edit.1.IsOrdered := fun edit hedit =>
    hordered edit (hperm.mem_iff.mp hedit)
  refine ⟨⟨?_, ?_⟩, fun fault => overlap_of_apply hmap hordered, fun output houtput => ?_,
    fun output houtput => ?_, fun added hadded => ?_⟩
  · rintro ⟨fault, hfault⟩
    obtain ⟨a, ha, b, hb, hoverlaps, -⟩ := overlap_of_apply hmap hordered hfault
    exact ⟨a, ha, b, hb, hoverlaps⟩
  · rintro ⟨a, ha, b, hb, hoverlaps⟩
    cases houtput : apply source edits with
    | error fault => exact ⟨fault, rfl⟩
    | ok output =>
      have hapart : (sorted edits).Pairwise fun a b => a.1.Apart b.1 :=
        (apart_of_splice hsorted houtput).2.imp fun h => .inl h
      have : Std.Symm fun a b : Range × Text => a.1.Apart b.1 := ⟨fun _ _ h => h.symm⟩
      refine absurd ?_ (hoverlaps.not_apart (hordered a ha) (hordered b hb))
      exact hapart.forall (hperm.mem_iff.mpr ha) (hperm.mem_iff.mpr hb)
        fun heq => hoverlaps.ne (congrArg Prod.fst heq)
  · exact (exchangeAll_of_splice hsorted (Int.le_refl 0) houtput).symm
  · obtain ⟨lead, gaps, hcount, hkept, houtput⟩ := exists_gaps hsorted (Int.le_refl 0) houtput
    refine ⟨lead, gaps, hcount.trans hperm.length_eq, hkept.trans ?_, houtput⟩
    have hleaves (position : Nat) : leaves (sorted edits) position = leaves edits position :=
      hperm.all_eq
    simp only [Int.toNat_zero, List.drop_zero, outside, hleaves]
  · have hnodup : (added.map Prod.fst).Nodup := (hadded.map Prod.fst).nodup_iff.mpr hmap
    rw [ofList_eq_self hnodup, apply, apply, sorted_eq_of_perm hmap hadded]

/-- Edits with an empty range at the start of another one, and with two behind the end. -/
def mixedEdits : Edits :=
  [(⟨9, 12⟩, "z"), (⟨2, 4⟩, "x"), (⟨7, 8⟩, "y"), (⟨2, 2⟩, "-")]

/-- Each of them is made, those behind the end in their order there. -/
theorem mixedEdits_exact :
    ((mixedEdits.map Prod.fst).Nodup ∧ ∀ edit ∈ mixedEdits, edit.1.IsOrdered) ∧
    Exact "abcdef" mixedEdits ∧ apply "abcdef" mixedEdits = .ok "ab-xefyz" := by
  have hmap : (mixedEdits.map Prod.fst).Nodup := by decide
  have hordered : ∀ edit ∈ mixedEdits, edit.1.IsOrdered := by decide
  have hsorted : sorted mixedEdits =
      ([(⟨2, 2⟩, "-"), (⟨2, 4⟩, "x"), (⟨7, 8⟩, "y"), (⟨9, 12⟩, "z")] : Edits) :=
    (sorted_eq_of_perm (by decide) (by decide)).trans (List.mergeSort_of_pairwise (by decide))
  refine ⟨⟨hmap, hordered⟩, splice_exact hmap hordered _, ?_⟩
  rw [apply, hsorted]
  decide

end Edits

end VeiledGateway
