/-
  Outcomes of calculations that may fail.
-/

set_option autoImplicit false

namespace VeiledGateway.Outcome

variable {ε δ α β : Type}

/-- Two calculations one after the other succeed when both do. -/
theorem bind_eq_ok {first : Except ε α} {next : α → Except ε β} {b : β} :
    (first >>= next) = .ok b ↔ ∃ a, first = .ok a ∧ next a = .ok b := by
  cases first with
  | error fault => simp [bind, Except.bind]
  | ok a => simp [bind, Except.bind]

theorem pure_eq_ok {a b : α} : (pure a : Except ε α) = .ok b ↔ a = b :=
  ⟨Except.ok.inj, congrArg Except.ok⟩

theorem eq_ok_of_toOption {outcome : Except ε α} {a : α} (h : outcome.toOption = some a) :
    outcome = .ok a := by
  cases outcome with
  | error fault => cases h
  | ok b => exact congrArg Except.ok (Option.some.inj h)

/-- The same where something is left behind besides. -/
theorem eq_pair_of_toOption {σ : Type} {outcome : Except ε α × σ} {a : α}
    (h : outcome.1.toOption = some a) : outcome = (.ok a, outcome.2) :=
  Prod.ext (eq_ok_of_toOption h) rfl

theorem exists_error_of_toOption {outcome : Except ε α} (h : outcome.toOption = none) :
    ∃ fault, outcome = .error fault := by
  cases outcome with
  | error fault => exact ⟨fault, rfl⟩
  | ok a => cases h

theorem exists_bind_eq_ok {first : Except ε α} {next : α → Except ε β}
    (hfirst : ∃ a, first = .ok a) (hnext : ∀ a, ∃ b, next a = .ok b) :
    ∃ b, (first >>= next) = .ok b := by
  obtain ⟨a, hfirst⟩ := hfirst
  obtain ⟨b, hnext⟩ := hnext a
  exact ⟨b, bind_eq_ok.mpr ⟨a, hfirst, hnext⟩⟩

theorem map_comes_iff {outcome : Except ε α} {f : α → β} :
    (∃ b, outcome.map f = .ok b) ↔ ∃ a, outcome = .ok a := by
  cases outcome with
  | error fault => simp [Except.map]
  | ok a => exact iff_of_true ⟨f a, rfl⟩ ⟨a, rfl⟩

theorem mapError_comes_iff {outcome : Except ε α} {f : ε → δ} :
    (∃ a, outcome.mapError f = .ok a) ↔ ∃ a, outcome = .ok a := by
  cases outcome with
  | error fault => exact iff_of_false nofun nofun
  | ok a => exact iff_of_true ⟨a, rfl⟩ ⟨a, rfl⟩

/-- Calculations for the items of a list succeed together when each of them succeeds. -/
theorem exists_mapM_eq_ok {f : α → Except ε β} {items : List α}
    (h : ∀ item ∈ items, ∃ b, f item = .ok b) : ∃ bs, items.mapM f = .ok bs := by
  induction items with
  | nil => exact ⟨[], rfl⟩
  | cons item rest ih =>
    rw [List.mapM_cons]
    refine exists_bind_eq_ok (h item List.mem_cons_self) fun first => ?_
    refine exists_bind_eq_ok (ih fun other hother => h other (List.mem_cons_of_mem _ hother)) ?_
    exact fun others => ⟨first :: others, rfl⟩

/-- Each calculation of a list has succeeded if all of them together have. -/
theorem exists_of_mapM_eq_ok {f : α → Except ε β} {items : List α} {results : List β}
    (h : items.mapM f = .ok results) : ∀ item ∈ items, ∃ b, f item = .ok b := by
  induction items generalizing results with
  | nil => exact nofun
  | cons first rest ih =>
    rw [List.mapM_cons] at h
    obtain ⟨b, hfirst, h⟩ := bind_eq_ok.mp h
    obtain ⟨others, hothers, -⟩ := bind_eq_ok.mp h
    exact List.forall_mem_cons.mpr ⟨⟨b, hfirst⟩, ih hothers⟩

/-- What the items of a list give stands in what the list gives. -/
theorem mem_of_mapM_eq_ok {f : α → Except ε β} {items : List α} {results : List β}
    (h : items.mapM f = .ok results) {item : α} (hitem : item ∈ items) {b : β}
    (hb : f item = .ok b) : b ∈ results := by
  induction items generalizing results with
  | nil => cases hitem
  | cons first rest ih =>
    rw [List.mapM_cons] at h
    obtain ⟨b', hfirst, h⟩ := bind_eq_ok.mp h
    obtain ⟨others, hothers, h⟩ := bind_eq_ok.mp h
    obtain rfl := pure_eq_ok.mp h
    obtain rfl | hrest := List.mem_cons.mp hitem
    · rw [hb] at hfirst
      exact Except.ok.inj hfirst ▸ List.mem_cons_self
    · exact List.mem_cons_of_mem _ (ih hothers hrest)

end VeiledGateway.Outcome
