/-
  More about entries under names: what is read after entries have been taken out, or their values
  have been changed.
-/
import VeiledGateway.Text.Entries

set_option autoImplicit false

namespace VeiledGateway.Entries

variable {α β : Type}

theorem get?_erase_self (entries : Entries α) (name : Text) :
    get? (erase entries name) name = none := by
  induction entries with
  | nil => rfl
  | cons entry rest ih =>
    by_cases h : entry.1 = name
    · rw [erase, List.filter_cons_of_neg (by simp [h])]
      exact ih
    · rw [erase, List.filter_cons_of_pos (by simp [h]), get?, if_neg h]
      exact ih

theorem get?_erase_of_ne (entries : Entries α) {name other : Text} (h : other ≠ name) :
    get? (erase entries name) other = get? entries other := by
  induction entries with
  | nil => rfl
  | cons entry rest ih =>
    by_cases hname : entry.1 = name
    · have hother : ¬ entry.1 = other := fun e => h (e.symm.trans hname)
      rw [erase, List.filter_cons_of_neg (by simp [hname]), get?, if_neg hother]
      exact ih
    · rw [erase, List.filter_cons_of_pos (by simp [hname]), get?, get?]
      split
      · rfl
      · exact ih

/-- What is read of entries of which some were dropped is the first entry left of its name. -/
theorem get?_filter_of_some {entries : Entries α} {keep : Text × α → Bool} {name : Text} {value : α}
    (h : get? entries name = some value) (hkeep : keep (name, value) = true) :
    get? (entries.filter keep) name = some value := by
  induction entries with
  | nil => cases h
  | cons entry rest ih =>
    rw [get?] at h
    split at h
    · rename_i hname
      obtain rfl := Option.some.inj h
      rw [List.filter_cons_of_pos (by rw [← hname] at hkeep; exact hkeep), get?, if_pos hname]
    · rename_i hname
      rw [List.filter_cons]
      split
      · rw [get?, if_neg hname]
        exact ih h
      · exact ih h

/-! ## Entries behind entries -/

/-- A name that has no entry gets one behind the others. -/
theorem put_of_get?_eq_none {entries : Entries α} {name : Text} (h : get? entries name = none)
    (value : α) : put entries name value = entries ++ [(name, value)] := by
  induction entries with
  | nil => rfl
  | cons entry rest ih =>
    rw [get?] at h
    split at h
    · cases h
    · rename_i hname
      rw [put, if_neg hname, ih h, List.cons_append]

theorem get?_append_of_some {entries : Entries α} {name : Text} {value : α}
    (h : get? entries name = some value) (more : Entries α) :
    get? (entries ++ more) name = some value := by
  induction entries with
  | nil => cases h
  | cons entry rest ih =>
    rw [get?] at h
    rw [List.cons_append, get?]
    split at h
    · rename_i hname
      rw [if_pos hname, h]
    · rename_i hname
      rw [if_neg hname]
      exact ih h

/-! ## Names that stand once -/

/-- No name stands twice. -/
def Single (entries : Entries α) : Prop :=
  (entries.map Prod.fst).Nodup

theorem Single.filter {entries : Entries α} (h : Single entries) (keep : Text × α → Bool) :
    Single (entries.filter keep) :=
  List.Nodup.sublist (List.filter_sublist.map Prod.fst) h

theorem Single.erase {entries : Entries α} (h : Single entries) (name : Text) :
    Single (erase entries name) :=
  h.filter _

theorem mem_names_put {entries : Entries α} {name other : Text} {value : α} :
    other ∈ (put entries name value).map Prod.fst → other = name ∨ other ∈ entries.map Prod.fst := by
  induction entries with
  | nil => simp [put]
  | cons entry rest ih =>
    rw [put]
    split
    · rename_i hname
      intro h
      rw [List.map_cons, List.mem_cons] at h
      exact h.imp id fun hrest => List.mem_cons_of_mem _ hrest
    · intro h
      rw [List.map_cons, List.mem_cons] at h
      rcases h with rfl | h
      · exact .inr List.mem_cons_self
      · exact (ih h).imp id fun hrest => List.mem_cons_of_mem _ hrest

/-- A value that replaces another adds no name. -/
theorem names_put_of_has {entries : Entries α} {name : Text} (h : has entries name = true)
    (value : α) : (put entries name value).map Prod.fst = entries.map Prod.fst := by
  induction entries with
  | nil => cases h
  | cons entry rest ih =>
    rw [put]
    split
    · rename_i hname
      rw [List.map_cons, List.map_cons, hname]
    · rename_i hname
      rw [has, get?, if_neg hname] at h
      rw [List.map_cons, List.map_cons, ih h]

theorem Single.put {entries : Entries α} (h : Single entries) (name : Text) (value : α) :
    Single (put entries name value) := by
  induction entries with
  | nil => simp [Single, Entries.put]
  | cons entry rest ih =>
    obtain ⟨hnew, hrest⟩ := List.nodup_cons.mp h
    rw [Entries.put]
    split
    · rename_i hname
      exact List.nodup_cons.mpr ⟨hname ▸ hnew, hrest⟩
    · rename_i hname
      refine List.nodup_cons.mpr ⟨?_, ih hrest⟩
      intro hmem
      rcases mem_names_put hmem with heq | hmem
      · exact hname heq
      · exact hnew hmem

theorem mem_of_get? {entries : Entries α} {name : Text} {value : α}
    (h : get? entries name = some value) : (name, value) ∈ entries := by
  induction entries with
  | nil => cases h
  | cons entry rest ih =>
    rw [get?] at h
    split at h
    · rename_i hname
      obtain rfl := Option.some.inj h
      rw [← hname]
      exact List.mem_cons_self
    · exact List.mem_cons_of_mem _ (ih h)

theorem Single.get?_of_mem {entries : Entries α} (h : Single entries) {name : Text} {value : α}
    (hmem : (name, value) ∈ entries) : get? entries name = some value := by
  induction entries with
  | nil => cases hmem
  | cons entry rest ih =>
    obtain ⟨hnew, hrest⟩ := List.nodup_cons.mp h
    rw [get?]
    rcases List.mem_cons.mp hmem with rfl | hmem
    · rw [if_pos rfl]
    · have hother : entry.1 ≠ name := fun heq => hnew (heq ▸ List.mem_map_of_mem hmem)
      rw [if_neg hother]
      exact ih hrest hmem

theorem get?_eq_none_of_not_mem {entries : Entries α} {name : Text}
    (h : name ∉ entries.map Prod.fst) : get? entries name = none := by
  induction entries with
  | nil => rfl
  | cons entry rest ih =>
    rw [List.map_cons, List.mem_cons, not_or] at h
    rw [get?, if_neg (Ne.symm h.1)]
    exact ih h.2

theorem Single.get?_filter_of_dropped {entries : Entries α} (hsingle : Single entries)
    {keep : Text × α → Bool} {name : Text} {value : α} (h : get? entries name = some value)
    (hdrop : keep (name, value) = false) : get? (entries.filter keep) name = none := by
  induction entries with
  | nil => rfl
  | cons entry rest ih =>
    obtain ⟨hnew, hrest⟩ := List.nodup_cons.mp hsingle
    rw [get?] at h
    split at h
    · rename_i hname
      obtain rfl := Option.some.inj h
      rw [List.filter_cons_of_neg (by rw [← hname] at hdrop; simp [hdrop])]
      refine get?_eq_none_of_not_mem fun hmem => hnew ?_
      rw [hname]
      exact (List.filter_sublist.map Prod.fst).subset hmem
    · rename_i hname
      rw [List.filter_cons]
      split
      · rw [get?, if_neg hname]
        exact ih hrest h
      · exact ih hrest h

theorem get?_filter_of_none {entries : Entries α} {keep : Text × α → Bool} {name : Text}
    (h : get? entries name = none) : get? (entries.filter keep) name = none := by
  induction entries with
  | nil => rfl
  | cons entry rest ih =>
    rw [get?] at h
    split at h
    · cases h
    · rename_i hname
      rw [List.filter_cons]
      split
      · rw [get?, if_neg hname]
        exact ih h
      · exact ih h

/-! ## Changed values -/

theorem put_map (entries : Entries α) (f : α → β) (name : Text) (value : α) :
    put (entries.map fun entry => (entry.1, f entry.2)) name (f value) =
      (put entries name value).map fun entry => (entry.1, f entry.2) := by
  induction entries with
  | nil => rfl
  | cons entry rest ih =>
    rw [List.map_cons, put, put]
    split
    · rfl
    · rw [ih]
      rfl

/-- Values may be changed before or after the entries are put in order. -/
theorem ofPairs_map (pairs : List (Text × α)) (f : α → β) :
    ofPairs (pairs.map fun pair => (pair.1, f pair.2)) =
      (ofPairs pairs).map fun entry => (entry.1, f entry.2) := by
  have hfold : ∀ entries : Entries α,
      (pairs.map fun pair => (pair.1, f pair.2)).foldl
          (fun entries pair => put entries pair.1 pair.2)
          (entries.map fun entry => (entry.1, f entry.2)) =
        (pairs.foldl (fun entries pair => put entries pair.1 pair.2) entries).map
          fun entry => (entry.1, f entry.2) := by
    induction pairs with
    | nil => exact fun _ => rfl
    | cons pair rest ih =>
      intro entries
      rw [List.map_cons, List.foldl_cons, List.foldl_cons, put_map]
      exact ih (put entries pair.1 pair.2)
  exact hfold []

/-! ## Entries from pairs -/

theorem mem_put {entries : Entries α} {name : Text} {value : α} {entry : Text × α}
    (h : entry ∈ put entries name value) : entry = (name, value) ∨ entry ∈ entries := by
  induction entries with
  | nil => exact .inl (List.mem_singleton.mp h)
  | cons first rest ih =>
    rw [put] at h
    split at h
    · exact (List.mem_cons.mp h).imp id (List.mem_cons_of_mem _)
    · rcases List.mem_cons.mp h with rfl | h
      · exact .inr List.mem_cons_self
      · exact (ih h).imp id (List.mem_cons_of_mem _)

theorem mem_of_mem_ofPairs {pairs : List (Text × α)} {entry : Text × α}
    (h : entry ∈ ofPairs pairs) : entry ∈ pairs := by
  have hfold : ∀ entries : Entries α,
      entry ∈ pairs.foldl (fun entries pair => put entries pair.1 pair.2) entries →
        entry ∈ entries ∨ entry ∈ pairs := by
    clear h
    induction pairs with
    | nil => exact fun _ => .inl
    | cons pair rest ih =>
      intro entries h
      rcases ih _ h with hput | hrest
      · rcases mem_put hput with rfl | hold
        · exact .inr List.mem_cons_self
        · exact .inl hold
      · exact .inr (List.mem_cons_of_mem _ hrest)
  exact (hfold [] h).resolve_left List.not_mem_nil

theorem single_ofPairs (pairs : List (Text × α)) : Single (ofPairs pairs) := by
  have hfold : ∀ entries : Entries α, Single entries →
      Single (pairs.foldl (fun entries pair => put entries pair.1 pair.2) entries) := by
    induction pairs with
    | nil => exact fun _ => id
    | cons pair rest ih => exact fun entries h => ih _ (h.put pair.1 pair.2)
  exact hfold [] List.nodup_nil

/-- Pairs of which no name stands twice are the entries that they give. -/
theorem ofPairs_of_single {pairs : List (Text × α)} (h : Single pairs) : ofPairs pairs = pairs := by
  have hfold : ∀ entries : Entries α, Single (entries ++ pairs) →
      pairs.foldl (fun entries pair => put entries pair.1 pair.2) entries = entries ++ pairs := by
    clear h
    induction pairs with
    | nil => exact fun entries _ => (List.append_nil entries).symm
    | cons pair rest ih =>
      intro entries h
      have hnew : pair.1 ∉ entries.map Prod.fst := by
        rw [Single, List.map_append, List.map_cons] at h
        intro hmem
        exact (List.nodup_append.mp h).2.2 pair.1 hmem pair.1 List.mem_cons_self rfl
      rw [List.foldl_cons, put_of_get?_eq_none (get?_eq_none_of_not_mem hnew) pair.2,
        ih _ (by rwa [List.append_assoc]), List.append_assoc]
      rfl
  exact hfold [] h

end VeiledGateway.Entries
