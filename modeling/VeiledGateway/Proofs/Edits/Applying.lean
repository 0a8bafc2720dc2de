/-
  Edits that can be made together.

  Of two edits of one range the later one counts.  Edits whose ranges lie apart can always be made:
  none of them is refused.
-/
import VeiledGateway.Edits

set_option autoImplicit false

namespace VeiledGateway

namespace Range

/-- A range that holds something. -/
def IsProper (r : Range) : Prop :=
  0 ≤ r.start ∧ r.start < r.stop

/-- Two ranges of which one ends before the other begins. -/
def Apart (r s : Range) : Prop :=
  r.stop ≤ s.start ∨ s.stop ≤ r.start

instance (r : Range) : Decidable r.IsProper :=
  inferInstanceAs (Decidable (_ ∧ _))

instance (r s : Range) : Decidable (r.Apart s) :=
  inferInstanceAs (Decidable (_ ∨ _))

theorem Apart.symm {r s : Range} (h : r.Apart s) : s.Apart r :=
  Or.symm h

instance : Std.Symm Apart :=
  ⟨fun _ _ => Apart.symm⟩

theorem Apart.ne {r s : Range} (h : r.Apart s) (hr : r.IsProper) : r ≠ s := by
  rintro rfl
  have hlt := hr.2
  obtain h | h := h <;> omega

theorem le_iff {r s : Range} :
    r.le s = true ↔ r.start < s.start ∨ (r.start = s.start ∧ r.stop ≤ s.stop) := by
  simp [Range.le]

theorem le_trans {r s u : Range} (h : r.le s = true) (h' : s.le u = true) : r.le u = true := by
  rw [le_iff] at h h' ⊢
  omega

theorem le_total (r s : Range) : (r.le s || s.le r) = true := by
  rw [Bool.or_eq_true, le_iff, le_iff]
  omega

/-- Of two proper ranges that lie apart, the one that is first in order ends before the other. -/
theorem stop_le_start {r s : Range} (h : r.le s = true) (hapart : r.Apart s) (hs : s.IsProper) :
    r.stop ≤ s.start := by
  have hlt := hs.2
  rw [le_iff] at h
  obtain hapart | hapart := hapart <;> omega

end Range

namespace Edits

variable {edits list : List (Range × Text)} {range : Range} {text : Text}

/-! ## The edit of a range -/

theorem lookup_cons (edit : Range × Text) (rest : Edits) (r : Range) :
    List.lookup r (edit :: rest) = if r = edit.1 then some edit.2 else List.lookup r rest := by
  by_cases hr : r = edit.1
  · rw [List.lookup_cons, beq_iff_eq.mpr hr, if_pos hr]
  · rw [List.lookup_cons, beq_eq_false_iff_ne.mpr hr, if_neg hr]

theorem lookup_put (edits : Edits) (range : Range) (text : Text) (r : Range) :
    List.lookup r (edits.put range text) = if r = range then some text else edits.lookup r := by
  induction edits with
  | nil => exact lookup_cons (range, text) [] r
  | cons edit rest ih =>
    unfold put
    split
    · rename_i hedit
      rw [lookup_cons, lookup_cons, hedit]
      split <;> rfl
    · rename_i hedit
      rw [lookup_cons, lookup_cons, ih]
      by_cases hr : r = range
      · rw [if_pos hr, if_pos hr, if_neg fun h => hedit (h.symm.trans hr)]
      · rw [if_neg hr, if_neg hr]

/-- The last edit of a range is the one that counts. -/
theorem lookup_ofList (list : List (Range × Text)) (r : Range) :
    (ofList list).lookup r = list.reverse.lookup r := by
  suffices h : ∀ edits : Edits,
      (list.foldl (fun edits edit => put edits edit.1 edit.2) edits).lookup r
        = (list.reverse.lookup r).or (edits.lookup r) by
    rw [ofList, h []]
    exact Option.or_none
  intro edits
  induction list generalizing edits with
  | nil => rfl
  | cons edit rest ih =>
    rw [List.foldl_cons, ih, lookup_put, List.reverse_cons, List.lookup_append, Option.or_assoc]
    congr 1
    rw [lookup_cons]
    split <;> rfl

/-- A range whose edits all have one text. -/
theorem lookup_ofList_of_forall (hmem : ∃ edit ∈ list, edit.1 = range)
    (hall : ∀ edit ∈ list, edit.1 = range → edit.2 = text) :
    (ofList list).lookup range = some text := by
  rw [lookup_ofList]
  cases hlookup : list.reverse.lookup range with
  | none =>
    obtain ⟨edit, hedit, rfl⟩ := hmem
    have hne := List.lookup_eq_none_iff.mp hlookup edit (List.mem_reverse.mpr hedit)
    simp at hne
  | some other =>
    obtain ⟨before, after, hlist, -⟩ := List.lookup_eq_some_iff.mp hlookup
    have hother : (range, other) ∈ list := by
      rw [← List.mem_reverse, hlist]
      exact List.mem_append_right _ List.mem_cons_self
    exact congrArg some (hall _ hother rfl)

theorem lookup_ofList_of_not_mem (hne : ∀ edit ∈ list, edit.1 ≠ range) :
    (ofList list).lookup range = none := by
  rw [lookup_ofList]
  refine List.lookup_eq_none_iff.mpr fun edit hedit => ?_
  exact bne_iff_ne.mpr (hne edit (List.mem_reverse.mp hedit)).symm

/-! ## Edits of ranges apart -/

theorem mem_of_mem_put {edits : Edits} {edit : Range × Text} (h : edit ∈ edits.put range text) :
    edit = (range, text) ∨ edit ∈ edits := by
  induction edits with
  | nil => exact .inl (List.mem_singleton.mp h)
  | cons first rest ih =>
    unfold put at h
    split at h
    · exact (List.mem_cons.mp h).imp_right (List.mem_cons_of_mem _)
    · obtain rfl | hrest := List.mem_cons.mp h
      · exact .inr List.mem_cons_self
      · exact (ih hrest).imp_right (List.mem_cons_of_mem _)

theorem nodup_put {edits : Edits} (h : (edits.map Prod.fst).Nodup) (range : Range) (text : Text) :
    ((edits.put range text).map Prod.fst).Nodup := by
  induction edits with
  | nil => simp [put]
  | cons first rest ih =>
    obtain ⟨hnew, hrest⟩ := List.nodup_cons.mp h
    unfold put
    split
    · rename_i hfirst
      exact List.nodup_cons.mpr ⟨hfirst ▸ hnew, hrest⟩
    · rename_i hfirst
      refine List.nodup_cons.mpr ⟨fun hmem => ?_, ih hrest⟩
      obtain ⟨edit, hedit, heq⟩ := List.mem_map.mp hmem
      obtain rfl | hedit := mem_of_mem_put hedit
      · exact hfirst heq.symm
      · exact hnew (heq ▸ List.mem_map_of_mem hedit)

theorem mem_of_mem_ofList {edit : Range × Text} (h : edit ∈ ofList list) : edit ∈ list := by
  suffices hfold : ∀ edits : Edits,
      edit ∈ list.foldl (fun edits edit => put edits edit.1 edit.2) edits →
        edit ∈ edits ∨ edit ∈ list from
    (hfold [] h).resolve_left List.not_mem_nil
  clear h
  intro edits h
  induction list generalizing edits with
  | nil => exact .inl h
  | cons first rest ih =>
    obtain hput | hrest := ih _ h
    · exact (mem_of_mem_put hput).symm.imp_right fun h => List.mem_cons.mpr (.inl h)
    · exact .inr (List.mem_cons_of_mem _ hrest)

theorem nodup_ofList (list : List (Range × Text)) : ((ofList list).map Prod.fst).Nodup := by
  suffices hfold : ∀ edits : Edits, (edits.map Prod.fst).Nodup →
      ((list.foldl (fun edits edit => put edits edit.1 edit.2) edits).map Prod.fst).Nodup from
    hfold [] List.nodup_nil
  intro edits h
  induction list generalizing edits with
  | nil => exact h
  | cons first rest ih => exact ih _ (nodup_put h _ _)

/-- Edits in order of which each begins where the one before ended, or later, can be made. -/
theorem exists_splice (source : Text) {position : Int}
    (hstart : ∀ edit ∈ edits, position ≤ edit.1.start)
    (hsorted : edits.Pairwise fun a b => a.1.stop ≤ b.1.start) :
    ∃ output, splice source position edits = .ok output := by
  induction edits generalizing position with
  | nil => exact ⟨_, rfl⟩
  | cons edit rest ih =>
    obtain ⟨hfirst, hrest⟩ := List.pairwise_cons.mp hsorted
    obtain ⟨after, hafter⟩ := ih hfirst hrest
    refine ⟨Text.slice source position edit.1.start ++ edit.2 ++ after, ?_⟩
    rw [splice, if_neg (Int.not_lt.mpr (hstart edit List.mem_cons_self)), hafter]
    rfl

theorem sorted_perm (edits : Edits) : (sorted edits).Perm edits :=
  List.mergeSort_perm _ _

theorem pairwise_sorted (edits : Edits) : (sorted edits).Pairwise fun a b => a.1.le b.1 = true :=
  List.pairwise_mergeSort (fun a b c => Range.le_trans (r := a.1) (s := b.1) (u := c.1))
    (fun a b => Range.le_total a.1 b.1) edits

/-- Edits of proper ranges that lie apart can be made. -/
theorem exists_apply (source : Text) (hproper : ∀ edit ∈ edits, edit.1.IsProper)
    (hapart : edits.Pairwise fun a b => a.1.Apart b.1) :
    ∃ output, apply source edits = .ok output := by
  have hmem : ∀ {edit}, edit ∈ sorted edits → edit.1.IsProper := fun hedit =>
    hproper _ ((sorted_perm edits).mem_iff.mp hedit)
  have hsorted : (sorted edits).Pairwise fun a b => a.1.Apart b.1 :=
    (sorted_perm edits).symm.pairwise hapart fun h => h.symm
  refine exists_splice source (fun edit hedit => (hmem hedit).1) ?_
  exact ((pairwise_sorted edits).and hsorted).imp_of_mem fun _ hb h =>
    Range.stop_le_start h.1 h.2 (hmem hb)

end Edits

end VeiledGateway
