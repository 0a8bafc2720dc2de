/-
  Sparing: what is certain to stay when no record is stored.

  To load a record is to check the time of its name: what has run out there goes, and nothing else.
  To enter and leave a lock touches nothing that is kept, and brings the locks back to what they
  were.  So work under a lock that fails leaves the sessions untouched.
-/
import VeiledGateway.Proofs.Session.Records

set_option autoImplicit false

namespace VeiledGateway.Sessions

/-- How many hold or await the locks of a memory. -/
def locks (s : Sessions) : Entries Nat :=
  match s.store with
  | .memory store => store.locks
  | .remote _ _ => []

/-- The time of a name is checked: what had run out there is gone, and all else is kept. -/
structure Checks (s s' : Sessions) (name : Text) : Prop where
  now : s'.now = s.now
  gone : s.RunOut name → s'.kept? name = none
  same : ¬ s.RunOut name → s'.kept? name = s.kept? name
  others : ∀ other, other ≠ name → s'.kept? other = s.kept? other

/-- At most the time of a name is checked, and no lock changes. -/
structure Spares (s s' : Sessions) (name : Text) : Prop where
  now : s'.now = s.now
  own : s.FadesAt s' name
  others : ∀ other, other ≠ name → s'.kept? other = s.kept? other
  locks : s'.locks = s.locks

/-- The time of a name is checked, its lock is let go of, and no other lock changes. -/
structure Untouched (s s' : Sessions) (name : Text) : Prop where
  checks : s.Checks s' name
  /-- As many hold or await the lock as before, and if there are none it is gone. -/
  lock : Entries.get? s'.locks name = (Entries.get? s.locks name).filter (0 < ·)
  otherLocks : ∀ other, other ≠ name → Entries.get? s'.locks other = Entries.get? s.locks other
  /-- A service has been told that the lock is free, unless it refuses to hear of it. -/
  released : ∀ store service, s'.store = .remote store service →
    (Call.release (store.lockKey name)).name ∈ service.refusing ∨
      service.calls.head? = some (.release (store.lockKey name))

/-- Work under the lock of a name begins: the lock is got, and the record is found, or it is new. -/
def Opens (s : Sessions) (name : Text) (record : Record) (s' : Sessions) : Prop :=
  ∃ entered, enter name s = (.ok (), entered) ∧ loadOrDraw name entered = (.ok record, s')

variable {s s' mid : Sessions} {name : Text}

/-! ## Relations -/

theorem kept?_of_store_eq (h : s'.store = s.store) (name : Text) : s'.kept? name = s.kept? name := by
  rw [kept?, kept?, h]

theorem spares_of_eq (hnow : s'.now = s.now) (hstore : s'.store = s.store) (name : Text) :
    s.Spares s' name where
  now := hnow
  own := .inl (kept?_of_store_eq hstore name)
  others := fun other _ => kept?_of_store_eq hstore other
  locks := by rw [locks, locks, hstore]

theorem Checks.fadesAt (h : s.Checks s' name) : s.FadesAt s' name := by
  by_cases hrunOut : s.RunOut name
  · exact .inr ⟨h.gone hrunOut, hrunOut⟩
  · exact .inl (h.same hrunOut)

/-- What has gone before the time is checked had run out. -/
theorem Checks.after_fading (hnow : mid.now = s.now) (hown : s.FadesAt mid name)
    (hothers : ∀ other, other ≠ name → mid.kept? other = s.kept? other)
    (h : mid.Checks s' name) : s.Checks s' name := by
  have hkept : ¬ mid.RunOut name → s'.kept? name = mid.kept? name := h.same
  refine ⟨h.now.trans hnow, ?_, ?_, fun other hother =>
    (h.others other hother).trans (hothers other hother)⟩
  · rintro ⟨raw, expires, hraw, hle⟩
    rcases hown with hsame | ⟨hgone, -⟩
    · exact h.gone ⟨raw, expires, hsame.trans hraw, hnow.symm ▸ hle⟩
    · rw [hkept ?_, hgone]
      rintro ⟨_, _, hsome, -⟩
      rw [hgone] at hsome
      cases hsome
  · intro hlives
    rcases hown with hsame | ⟨-, hrunOut⟩
    · rw [hkept ?_, hsame]
      rintro ⟨raw, expires, hraw, hle⟩
      exact hlives ⟨raw, expires, hsame ▸ hraw, hnow ▸ hle⟩
    · exact absurd hrunOut hlives

theorem Spares.checks (h : s.Spares mid name) (h' : mid.Checks s' name) : s.Checks s' name :=
  h'.after_fading h.now h.own h.others

theorem Spares.trans (h : s.Spares mid name) (h' : mid.Spares s' name) : s.Spares s' name where
  now := h'.now.trans h.now
  own := FadesAt.trans h.now h.own h'.own
  others := fun other hother => (h'.others other hother).trans (h.others other hother)
  locks := h'.locks.trans h.locks

theorem Spares.untouched (h : s.Spares mid name) (h' : mid.Untouched s' name) :
    s.Untouched s' name where
  checks := h.checks h'.checks
  lock := by rw [h'.lock, h.locks]
  otherLocks := fun other hother => by rw [h'.otherLocks other hother, h.locks]
  released := h'.released

/-! ## Loading -/

theorem runOut_memory {store : MemoryStore} (h : s.store = .memory store) :
    s.RunOut name ↔ ∃ stored, Entries.get? store.entries name = some stored ∧ stored.expires ≤ s.now := by
  rw [RunOut, kept?_memory h]
  constructor
  · rintro ⟨raw, expires, hkept, hle⟩
    obtain ⟨stored, hstored, heq⟩ := Option.map_eq_some_iff.mp hkept
    obtain ⟨-, hexpires⟩ := Prod.mk.inj heq
    exact ⟨stored, hstored, Option.some.inj hexpires ▸ hle⟩
  · rintro ⟨stored, hstored, hle⟩
    exact ⟨stored.raw, stored.expires, by rw [hstored]; rfl, hle⟩

theorem not_runOut_remote {store : RemoteStore} {service : Service}
    (h : s.store = .remote store service) : ¬ s.RunOut name := by
  rintro ⟨raw, expires, hkept, -⟩
  rw [kept?_remote h] at hkept
  obtain ⟨_, -, heq⟩ := Option.map_eq_some_iff.mp hkept
  cases (Prod.mk.inj heq).2

theorem checks_of_eq (hstore : s'.store = s.store) (hnow : s'.now = s.now)
    (hlives : ¬ s.RunOut name) : s.Checks s' name where
  now := hnow
  gone := fun hrunOut => absurd hrunOut hlives
  same := fun _ => kept?_of_store_eq hstore name
  others := fun other _ => kept?_of_store_eq hstore other

theorem checks_loadRaw (name : Text) (s : Sessions) :
    s.Checks (loadRaw name s).2 name ∧ (loadRaw name s).2.locks = s.locks := by
  unfold loadRaw
  cases hstore : s.store with
  | memory store =>
    simp only [MemoryStore.load]
    split
    · rename_i hnone
      refine ⟨checks_of_eq hstore.symm rfl ?_, by rw [locks, locks, hstore]⟩
      rw [runOut_memory hstore, hnone]
      simp
    · rename_i stored hstored
      split
      · rename_i hexpired
        refine ⟨⟨rfl, fun _ => ?_, fun hlives => ?_, fun other hother => ?_⟩, by rw [locks, locks, hstore]⟩
        · rw [kept?_memory rfl, Entries.get?_erase_self]
          rfl
        · exact absurd ((runOut_memory hstore).mpr ⟨stored, hstored, hexpired⟩) hlives
        · rw [kept?_memory rfl, kept?_memory hstore, Entries.get?_erase_of_ne _ hother]
      · rename_i hlives
        refine ⟨checks_of_eq hstore.symm rfl ?_, by rw [locks, locks, hstore]⟩
        rw [runOut_memory hstore, hstored]
        simpa using hlives
  | remote store service =>
    have hentries : (store.load Service.client name service).2.entries = service.entries := by
      simp only [RemoteStore.load, Service.client, Service.answer]
      split <;> rfl
    refine ⟨⟨rfl, fun hrunOut => absurd hrunOut (not_runOut_remote hstore), fun _ => ?_,
      fun other _ => ?_⟩, by rw [locks, locks, hstore]⟩
    · rw [kept?_remote rfl, kept?_remote hstore, hentries]
    · rw [kept?_remote rfl, kept?_remote hstore, hentries]

/-- Beyond the text, loading a record changes nothing that is kept. -/
theorem store_load (name : Text) (s : Sessions) :
    (load name s).2.store = (loadRaw name s).2.store ∧ (load name s).2.now = (loadRaw name s).2.now := by
  unfold load
  split
  · rename_i heq
    rw [heq]
    exact ⟨rfl, rfl⟩
  · rename_i heq
    rw [heq]
    exact ⟨rfl, rfl⟩
  · rename_i raw mid heq
    rw [heq]
    exact decode_store mid raw

theorem store_loadOrDraw (name : Text) (s : Sessions) :
    (loadOrDraw name s).2.store = (load name s).2.store ∧
      (loadOrDraw name s).2.now = (load name s).2.now := by
  unfold loadOrDraw
  split <;> rename_i heq <;> rw [heq] <;> exact ⟨rfl, rfl⟩

/-- Whatever is done to what is kept besides, a check stays a check. -/
theorem Checks.congr (h : s.Checks mid name) (hstore : s'.store = mid.store)
    (hnow : s'.now = mid.now) : s.Checks s' name where
  now := hnow.trans h.now
  gone := fun hrunOut => (kept?_of_store_eq hstore name).trans (h.gone hrunOut)
  same := fun hlives => (kept?_of_store_eq hstore name).trans (h.same hlives)
  others := fun other hother => (kept?_of_store_eq hstore other).trans (h.others other hother)

theorem locks_of_store_eq (h : s'.store = s.store) : s'.locks = s.locks := by
  rw [locks, locks, h]

theorem checks_load (name : Text) (s : Sessions) :
    s.Checks (load name s).2 name ∧ (load name s).2.locks = s.locks := by
  obtain ⟨hchecks, hlocks⟩ := checks_loadRaw name s
  obtain ⟨hstore, hnow⟩ := store_load name s
  exact ⟨hchecks.congr hstore hnow, (locks_of_store_eq hstore).trans hlocks⟩

theorem checks_loadOrDraw (name : Text) (s : Sessions) :
    s.Checks (loadOrDraw name s).2 name ∧ (loadOrDraw name s).2.locks = s.locks := by
  obtain ⟨hchecks, hlocks⟩ := checks_load name s
  obtain ⟨hstore, hnow⟩ := store_loadOrDraw name s
  exact ⟨hchecks.congr hstore hnow, (locks_of_store_eq hstore).trans hlocks⟩

theorem spares_load (name : Text) (s : Sessions) : s.Spares (load name s).2 name := by
  obtain ⟨hchecks, hlocks⟩ := checks_load name s
  exact ⟨hchecks.now, hchecks.fadesAt, hchecks.others, hlocks⟩

/-! ## Locks -/

/-- To enter and leave again brings the locks back to what they were. -/
theorem get?_locks_leave {store entered : MemoryStore} (h : entered.locks = (store.enter name).locks)
    (other : Text) :
    Entries.get? (entered.leave name).locks other =
      if other = name then (Entries.get? store.locks name).filter (0 < ·)
      else Entries.get? store.locks other := by
  obtain ⟨users, husers⟩ : ∃ n, (Entries.get? store.locks name).getD 0 = n := ⟨_, rfl⟩
  have hentered : entered.locks = Entries.put store.locks name (users + 1) := by
    rw [h, MemoryStore.enter, husers]
  have hown : (Entries.get? entered.locks name).getD 0 = users + 1 := by
    rw [hentered, Entries.get?_put_self]
    rfl
  have hothers : other ≠ name → Entries.get? entered.locks other = Entries.get? store.locks other := by
    intro hother
    rw [hentered, Entries.get?_put_of_ne _ _ hother]
  rw [MemoryStore.leave, hown]
  by_cases hother : other = name
  · subst hother
    rw [if_pos rfl]
    cases hlock : Entries.get? store.locks other with
    | none =>
      obtain rfl : 0 = users := by rw [← husers, hlock]; rfl
      rw [if_pos (Nat.le_refl _)]
      exact Entries.get?_erase_self _ _
    | some n =>
      obtain rfl : n = users := by rw [← husers, hlock]; rfl
      cases n with
      | zero =>
        rw [if_pos (Nat.le_refl _)]
        exact Entries.get?_erase_self _ _
      | succ n =>
        rw [if_neg (by omega)]
        exact Entries.get?_put_self _ _ _
  · rw [if_neg hother, ← hothers hother]
    split
    · exact Entries.get?_erase_of_ne _ hother
    · exact Entries.get?_put_of_ne _ _ hother

theorem enter_eq_ok {entered : Sessions} (h : enter name s = (.ok (), entered)) :
    entered.now = s.now ∧ (∀ other, entered.kept? other = s.kept? other) := by
  unfold enter at h
  cases hstore : s.store with
  | memory store =>
    rw [hstore] at h
    obtain ⟨-, rfl⟩ := Prod.mk.inj h
    refine ⟨rfl, fun other => ?_⟩
    rw [kept?_memory rfl, kept?_memory hstore]
    rfl
  | remote store service =>
    rw [hstore] at h
    obtain ⟨-, rfl⟩ := Prod.mk.inj h
    refine ⟨rfl, fun other => ?_⟩
    rw [kept?_remote rfl, kept?_remote hstore]
    simp only [Service.client, Service.answer]
    grind

/-- Loading changes the entries of a memory, and of a service only the calls that it has noted. -/
theorem loadOrDraw_store_memory {store : MemoryStore} (h : s.store = .memory store) (name : Text) :
    ∃ entries, (loadOrDraw name s).2.store = .memory { store with entries := entries } := by
  rw [(store_loadOrDraw name s).1, (store_load name s).1]
  simp only [loadRaw, h, MemoryStore.load]
  split
  · exact ⟨_, rfl⟩
  · split <;> exact ⟨_, rfl⟩

theorem loadOrDraw_store_remote {store : RemoteStore} {service : Service}
    (h : s.store = .remote store service) (name : Text) :
    ∃ after, (loadOrDraw name s).2.store = .remote store after := by
  rw [(store_loadOrDraw name s).1, (store_load name s).1]
  simp only [loadRaw, h]
  exact ⟨_, rfl⟩

/-- A service hears that a lock is free, or refuses to hear of it. -/
theorem released_leave {store : RemoteStore} {service : Service}
    (h : s.store = .remote store service) :
    ∀ store' after, (leave name s).store = .remote store' after →
      (Call.release (store'.lockKey name)).name ∈ after.refusing ∨
        after.calls.head? = some (.release (store'.lockKey name)) := by
  intro store' after hleft
  rw [leave, h] at hleft
  obtain ⟨rfl, rfl⟩ := Store.remote.inj hleft
  simp only [RemoteStore.leave, Service.client, Service.answer]
  split
  · rename_i hrefused
    exact .inl (List.contains_iff_mem.mp hrefused)
  · exact .inr rfl

/-- What is begun and given up leaves the sessions untouched. -/
theorem Opens.untouched {record : Record} {loaded : Sessions} (h : s.Opens name record loaded) :
    s.Untouched (leave name loaded) name := by
  obtain ⟨entered, henter, hload⟩ := h
  obtain ⟨hnow, hkept⟩ := enter_eq_ok henter
  have hchecks : s.Checks loaded name := by
    have hloaded := (checks_loadOrDraw name entered).1
    rw [hload] at hloaded
    exact hloaded.after_fading hnow (.inl (hkept name)) fun other _ => hkept other
  have hleft : s.Checks (leave name loaded) name :=
    ⟨(now_leave name loaded).trans hchecks.now,
      fun hrunOut => (kept?_leave name loaded name).trans (hchecks.gone hrunOut),
      fun hlives => (kept?_leave name loaded name).trans (hchecks.same hlives),
      fun other hother => (kept?_leave name loaded other).trans (hchecks.others other hother)⟩
  cases hstore : s.store with
  | memory store =>
    obtain ⟨entries, hloaded⟩ : ∃ entries,
        loaded.store = .memory { store.enter name with entries := entries } := by
      have hentered : entered.store = .memory (store.enter name) := by
        rw [enter, hstore] at henter
        rw [← (Prod.mk.inj henter).2]
      have hentries := loadOrDraw_store_memory hentered name
      rwa [hload] at hentries
    have hlocks : ∀ other, Entries.get?
        (({ store.enter name with entries := entries } : MemoryStore).leave name).locks other =
          if other = name then (Entries.get? store.locks name).filter (0 < ·)
          else Entries.get? store.locks other := get?_locks_leave rfl
    have hfinal : (leave name loaded).store =
        .memory (({ store.enter name with entries := entries } : MemoryStore).leave name) := by
      rw [leave, hloaded]
    refine ⟨hleft, ?_, fun other hother => ?_, fun _ _ hremote => ?_⟩
    · rw [locks, locks, hfinal, hstore]
      exact (hlocks name).trans (if_pos rfl)
    · rw [locks, locks, hfinal, hstore]
      exact (hlocks other).trans (if_neg hother)
    · rw [hfinal] at hremote
      cases hremote
  | remote store service =>
    obtain ⟨after, hloaded⟩ : ∃ after, loaded.store = .remote store after := by
      obtain ⟨mid, hentered⟩ : ∃ mid, entered.store = .remote store mid := by
        rw [enter, hstore] at henter
        rw [← (Prod.mk.inj henter).2]
        exact ⟨_, rfl⟩
      have hremote := loadOrDraw_store_remote hentered name
      rwa [hload] at hremote
    refine ⟨hleft, ?_, fun other _ => ?_, released_leave hloaded⟩
    · rw [locks, locks, leave, hloaded, hstore]
      rfl
    · rw [locks, locks, leave, hloaded, hstore]

theorem opens_of_ok {record : Record} (henter : (enter name s).1 = .ok ())
    (hload : (loadOrDraw name (enter name s).2).1 = .ok record) :
    s.Opens name record (loadOrDraw name (enter name s).2).2 :=
  ⟨(enter name s).2, Prod.ext henter rfl, Prod.ext hload rfl⟩

/-- Work that fails under a lock leaves the sessions untouched. -/
theorem untouched_withRecord {ε α : Type} {ofFault : SessionFault → ε}
    {work : Record → Keeping ε (α × Record)} {record : Record} {loaded : Sessions} {fault : ε}
    (h : s.Opens name record loaded) (hwork : work record loaded = (.error fault, loaded)) :
    ∃ s', withRecord name ofFault work s = (.error fault, s') ∧ s.Untouched s' name := by
  refine ⟨leave name loaded, ?_, h.untouched⟩
  obtain ⟨entered, henter, hload⟩ := h
  simp only [withRecord, locked, henter, hload, hwork]

end VeiledGateway.Sessions
