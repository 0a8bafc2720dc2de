/-
  Keeping: what the work on sessions does to what is kept.

  Most work only lets go of what has run out (`Fades`), and it may do so for any name at any time.
  Apart from that, a record is stored under one name (`Stores`), or what is under one name is taken
  away (`Loses`).  All of this is told by `kept?`, which is blind to the kind of the store.
-/
import VeiledGateway.Proofs.Session.Codec
import VeiledGateway.Proofs.Text.Entries
import VeiledGateway.Session.Store

set_option autoImplicit false

namespace VeiledGateway.Sessions

/-- What is kept under a name, and the time from which it is forgotten, if there is one. -/
def kept? (s : Sessions) (name : Text) : Option (Text × Option Rat) :=
  match s.store with
  | .memory store =>
    (Entries.get? store.entries name).map fun stored => (stored.raw, some stored.expires)
  | .remote store service =>
    (Entries.get? service.entries (store.key name)).map fun raw => (raw, none)

theorem raw?_eq_kept? (s : Sessions) (name : Text) : s.raw? name = (s.kept? name).map Prod.fst := by
  unfold raw? kept?
  cases s.store with
  | memory store =>
    simp only [Option.map_map]
    rfl
  | remote store service =>
    simp only [Option.map_map]
    exact Option.map_id'.symm

/-- No name stands twice in a memory. -/
def Single (s : Sessions) : Prop :=
  match s.store with
  | .memory store => Entries.Single store.entries
  | .remote _ _ => True

/-- The time of what is kept under a name has run out. -/
def RunOut (s : Sessions) (name : Text) : Prop :=
  ∃ raw expires, s.kept? name = some (raw, some expires) ∧ expires ≤ s.now

/-- Under a name, what was kept is kept, or it had run out and is gone. -/
def FadesAt (s s' : Sessions) (name : Text) : Prop :=
  s'.kept? name = s.kept? name ∨ s'.kept? name = none ∧ s.RunOut name

/-- Nothing is lost but what has run out, and nothing is new. -/
structure Fades (s s' : Sessions) : Prop where
  now : s'.now = s.now
  single : s.Single → s'.Single
  kept : ∀ name, s.FadesAt s' name

/-- A record is stored under a name, and nothing else is lost but what has run out. -/
structure Stores (s : Sessions) (name : Text) (record : Record) (s' : Sessions) : Prop where
  now : s'.now = s.now
  single : s.Single → s'.Single
  written : ∃ raw expires, record.write = .ok raw ∧ s'.kept? name = some (raw, expires)
  others : ∀ other, other ≠ name → s.FadesAt s' other

/-- What is under a name may be taken away, and nothing else. -/
structure Loses (s : Sessions) (name : Text) (s' : Sessions) : Prop where
  now : s'.now = s.now
  single : s.Single → s'.Single
  own : s'.kept? name = s.kept? name ∨ s'.kept? name = none
  others : ∀ other, other ≠ name → s'.kept? other = s.kept? other

/-- A record was found under a name, or nothing was there and the record is new. -/
structure Finds (s : Sessions) (name : Text) (record : Record) (s' : Sessions) : Prop where
  fades : s.Fades s'
  found : (∃ raw expires secrets, s.kept? name = some (raw, expires) ∧
      (Record.read raw secrets).1 = .ok record) ∨
    s'.kept? name = none ∧ record.challenge = none

/-! ## Fading -/

section Fading

variable {s s' s'' : Sessions} {name : Text}

theorem Fades.refl (s : Sessions) : s.Fades s :=
  ⟨rfl, id, fun _ => .inl rfl⟩

/-- The store and the time are all that counts. -/
theorem fades_of_eq (hnow : s'.now = s.now) (hstore : s'.store = s.store) : s.Fades s' := by
  refine ⟨hnow, ?_, fun name => .inl ?_⟩
  · rw [Single, Single, hstore]
    exact id
  · rw [kept?, kept?, hstore]

theorem Fades.runOut (h : s.Fades s') (hrunOut : s'.RunOut name) : s.RunOut name := by
  obtain ⟨raw, expires, hkept, hle⟩ := hrunOut
  rcases h.kept name with hsame | ⟨hnone, -⟩
  · exact ⟨raw, expires, hsame ▸ hkept, h.now ▸ hle⟩
  · rw [hnone] at hkept
    cases hkept

/-- What has faded before goes on fading. -/
theorem FadesAt.trans (hnow : s'.now = s.now) (h : s.FadesAt s' name) (h' : s'.FadesAt s'' name) :
    s.FadesAt s'' name := by
  rcases h' with hsame | ⟨hgone, raw, expires, hkept, hle⟩
  · rcases h with hbefore | ⟨hgone, hrunOut⟩
    · exact .inl (hsame.trans hbefore)
    · exact .inr ⟨hsame.trans hgone, hrunOut⟩
  · rcases h with hbefore | ⟨-, hrunOut⟩
    · exact .inr ⟨hgone, raw, expires, hbefore ▸ hkept, hnow ▸ hle⟩
    · exact .inr ⟨hgone, hrunOut⟩

theorem Fades.at_trans (h : s.Fades s') (h' : s'.FadesAt s'' name) : s.FadesAt s'' name :=
  (h.kept name).trans h.now h'

theorem Fades.trans (h : s.Fades s') (h' : s'.Fades s'') : s.Fades s'' :=
  ⟨h'.now.trans h.now, fun hs => h'.single (h.single hs), fun name => h.at_trans (h'.kept name)⟩

theorem Fades.stores {record : Record} (h : s.Fades s') (h' : s'.Stores name record s'') :
    s.Stores name record s'' :=
  ⟨h'.now.trans h.now, fun hs => h'.single (h.single hs), h'.written,
    fun other hother => h.at_trans (h'.others other hother)⟩

/-- A record that is found after some fading was kept before it, or it is new. -/
theorem Fades.finds {record : Record} (h : s.Fades s') (h' : s'.Finds name record s'') :
    s.Finds name record s'' := by
  refine ⟨h.trans h'.fades, ?_⟩
  rcases h'.found with ⟨raw, expires, secrets, hkept, hread⟩ | hnew
  · rcases h.kept name with hsame | ⟨hgone, -⟩
    · exact .inl ⟨raw, expires, secrets, hsame ▸ hkept, hread⟩
    · rw [hgone] at hkept
      cases hkept
  · exact .inr hnew

end Fading

/-! ## Stores -/

section Stores

variable {s : Sessions}

theorem kept?_memory {store : MemoryStore} (h : s.store = .memory store) (name : Text) :
    s.kept? name =
      (Entries.get? store.entries name).map fun stored => (stored.raw, some stored.expires) := by
  rw [kept?, h]

theorem kept?_remote {store : RemoteStore} {service : Service} (h : s.store = .remote store service)
    (name : Text) :
    s.kept? name = (Entries.get? service.entries (store.key name)).map fun raw => (raw, none) := by
  rw [kept?, h]

theorem single_memory {store : MemoryStore} (h : s.store = .memory store) :
    s.Single ↔ Entries.Single store.entries := by
  rw [Single, h]

/-- Sessions have different keys in the service. -/
theorem key_ne (store : RemoteStore) {name other : Text} (h : other ≠ name) :
    store.key other ≠ store.key name :=
  fun hkey => h (List.append_cancel_left hkey)

theorem fades_loadRaw (name : Text) (s : Sessions) : s.Fades (loadRaw name s).2 := by
  unfold loadRaw
  cases hstore : s.store with
  | memory store =>
    refine ⟨rfl, ?_, fun other => ?_⟩
    · intro hsingle
      rw [single_memory hstore] at hsingle
      rw [single_memory rfl]
      simp only [MemoryStore.load]
      split
      · exact hsingle
      · split
        · exact hsingle.erase name
        · exact hsingle
    rw [FadesAt, kept?_memory hstore, kept?_memory rfl]
    simp only [MemoryStore.load]
    split
    · exact .inl rfl
    · rename_i stored hstored
      split
      · rename_i hexpired
        by_cases hother : other = name
        · subst hother
          refine .inr ⟨by rw [Entries.get?_erase_self]; rfl, stored.raw, stored.expires, ?_, hexpired⟩
          rw [kept?_memory hstore, hstored]
          rfl
        · exact .inl (by rw [Entries.get?_erase_of_ne _ hother])
      · exact .inl rfl
  | remote store service =>
    refine ⟨rfl, fun _ => trivial, fun other => .inl ?_⟩
    rw [kept?_remote hstore, kept?_remote rfl]
    simp only [RemoteStore.load, Service.client, Service.answer]
    split <;> rfl

/-- What is loaded was kept; where nothing is loaded, nothing is kept any more. -/
theorem loadRaw_eq_ok {name : Text} {s' : Sessions} {found : Option Text}
    (h : loadRaw name s = (.ok found, s')) :
    (∃ raw expires, found = some raw ∧ s.kept? name = some (raw, expires)) ∨
      found = none ∧ s'.kept? name = none := by
  unfold loadRaw at h
  cases hstore : s.store with
  | memory store =>
    rw [kept?_memory hstore]
    simp only [hstore, MemoryStore.load] at h
    split at h
    · rename_i hnone
      obtain ⟨hfound, rfl⟩ := Prod.mk.inj h
      refine .inr ⟨(Except.ok.inj hfound).symm, ?_⟩
      rw [kept?_memory rfl, hnone]
      rfl
    · rename_i stored hstored
      split at h
      · obtain ⟨hfound, rfl⟩ := Prod.mk.inj h
        refine .inr ⟨(Except.ok.inj hfound).symm, ?_⟩
        rw [kept?_memory rfl, Entries.get?_erase_self]
        rfl
      · obtain ⟨hfound, rfl⟩ := Prod.mk.inj h
        exact .inl ⟨stored.raw, some stored.expires, (Except.ok.inj hfound).symm,
          by rw [hstored]; rfl⟩
  | remote store service =>
    rw [kept?_remote hstore]
    simp only [hstore, RemoteStore.load, Service.client, Service.answer] at h
    split at h
    · cases (Prod.mk.inj h).1
    · obtain ⟨hfound, rfl⟩ := Prod.mk.inj h
      obtain rfl := Except.ok.inj hfound
      cases hget : Entries.get? service.entries (store.key name) with
      | none =>
        refine .inr ⟨rfl, ?_⟩
        rw [kept?_remote rfl]
        simp only [hget]
        rfl
      | some raw => exact .inl ⟨raw, none, rfl, rfl⟩

theorem fades_enter (name : Text) (s : Sessions) : s.Fades (enter name s).2 := by
  unfold enter
  cases hstore : s.store with
  | memory store =>
    refine ⟨rfl, ?_, fun other => .inl ?_⟩
    · rw [single_memory hstore, single_memory rfl]
      exact id
    · rw [kept?_memory hstore, kept?_memory rfl]
      rfl
  | remote store service =>
    refine ⟨rfl, fun _ => trivial, fun other => .inl ?_⟩
    rw [kept?_remote hstore, kept?_remote rfl]
    simp only [RemoteStore.enter, Service.client, Service.answer]
    grind

/-- Leaving a lock changes nothing that is kept. -/
theorem kept?_leave (name : Text) (s : Sessions) (other : Text) :
    (leave name s).kept? other = s.kept? other := by
  unfold leave
  cases hstore : s.store with
  | memory store =>
    rw [kept?_memory hstore, kept?_memory rfl]
    rfl
  | remote store service =>
    rw [kept?_remote hstore, kept?_remote rfl]
    simp only [RemoteStore.leave, Service.client, Service.answer]
    split <;> rfl

theorem now_leave (name : Text) (s : Sessions) : (leave name s).now = s.now := by
  unfold leave
  split <;> rfl

theorem single_leave {name : Text} (h : s.Single) : (leave name s).Single := by
  unfold leave
  cases hstore : s.store with
  | memory store =>
    rw [single_memory hstore] at h
    exact h
  | remote store service => trivial

theorem fades_leave (name : Text) (s : Sessions) : s.Fades (leave name s) :=
  ⟨now_leave name s, single_leave, fun other => .inl (kept?_leave name s other)⟩

theorem Stores.leave {record : Record} {name left : Text} {s' : Sessions}
    (h : s.Stores name record s') : s.Stores name record (leave left s') := by
  obtain ⟨raw, expires, hwrite, hraw⟩ := h.written
  refine ⟨(now_leave left s').trans h.now, fun hs => single_leave (h.single hs),
    ⟨raw, expires, hwrite, (kept?_leave left s' name).trans hraw⟩, ?_⟩
  intro other hother
  rw [FadesAt, kept?_leave]
  exact h.others other hother

end Stores

end VeiledGateway.Sessions
