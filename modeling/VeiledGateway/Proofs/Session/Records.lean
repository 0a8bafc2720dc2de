/-
  Records: what loading, storing and working on records does to what is kept.

  Work under a lock either fails, and then nothing is lost but what has run out, or a record was
  found, something has become of it, and that is stored.
-/
import VeiledGateway.Proofs.Session.Keeping

set_option autoImplicit false

namespace VeiledGateway.Sessions

variable {s s' : Sessions} {name : Text}

/-! ## Loading -/

theorem decode_store (s : Sessions) (raw : Text) :
    (s.decode raw).2.store = s.store ∧ (s.decode raw).2.now = s.now := by
  unfold decode
  split <;> exact ⟨rfl, rfl⟩

theorem fades_load (name : Text) (s : Sessions) : s.Fades (load name s).2 := by
  have hraw := fades_loadRaw name s
  unfold load
  split
  · rename_i heq
    rw [heq] at hraw
    exact hraw
  · rename_i heq
    rw [heq] at hraw
    exact hraw
  · rename_i raw mid heq
    rw [heq] at hraw
    obtain ⟨hstore, hnow⟩ := decode_store mid raw
    exact hraw.trans (fades_of_eq hnow hstore)

/-- A record that is loaded is one that a text writes that was kept. -/
theorem load_eq_some {record : Record} (h : load name s = (.ok (some record), s')) :
    ∃ raw expires secrets, s.kept? name = some (raw, expires) ∧
      (Record.read raw secrets).1 = .ok record := by
  unfold load at h
  split at h
  · cases (Prod.mk.inj h).1
  · cases (Prod.mk.inj h).1
  · rename_i raw mid heq
    rcases loadRaw_eq_ok heq with ⟨kept, expires, hkept, hraw⟩ | ⟨hnone, -⟩
    · obtain rfl := Option.some.inj hkept
      refine ⟨raw, expires, mid.secrets, hraw, ?_⟩
      have hrecord := (Prod.mk.inj h).1
      split at hrecord
      · rename_i found secrets hread
        obtain rfl := Option.some.inj (Except.ok.inj hrecord)
        rw [hread]
      · cases hrecord
    · cases hnone

theorem load_eq_none (h : load name s = (.ok none, s')) : s'.kept? name = none := by
  unfold load at h
  split at h
  · cases (Prod.mk.inj h).1
  · rename_i mid heq
    obtain ⟨-, rfl⟩ := Prod.mk.inj h
    rcases loadRaw_eq_ok heq with ⟨kept, expires, hkept, -⟩ | ⟨-, hnone⟩
    · cases hkept
    · exact hnone
  · rename_i raw mid heq
    have hrecord := (Prod.mk.inj h).1
    split at hrecord
    · cases hrecord
    · cases hrecord

theorem fades_loadOrDraw (name : Text) (s : Sessions) : s.Fades (loadOrDraw name s).2 := by
  have hload := fades_load name s
  unfold loadOrDraw
  split
  · rename_i heq
    rw [heq] at hload
    exact hload
  · rename_i heq
    rw [heq] at hload
    exact hload
  · rename_i heq
    rw [heq] at hload
    exact hload.trans (fades_of_eq rfl rfl)

/-- The record to work on is found, or it is new. -/
theorem finds_loadOrDraw {record : Record} (h : loadOrDraw name s = (.ok record, s')) :
    s.Finds name record s' := by
  have hfades := fades_loadOrDraw name s
  rw [h] at hfades
  refine ⟨hfades, ?_⟩
  unfold loadOrDraw at h
  split at h
  · cases (Prod.mk.inj h).1
  · rename_i found mid heq
    obtain ⟨hrecord, rfl⟩ := Prod.mk.inj h
    obtain rfl := Except.ok.inj hrecord
    exact .inl (load_eq_some heq)
  · rename_i mid heq
    obtain ⟨hrecord, rfl⟩ := Prod.mk.inj h
    obtain rfl := Except.ok.inj hrecord
    have hnone : mid.kept? name = none := load_eq_none heq
    exact .inr ⟨hnone, rfl⟩

/-! ## Storing -/

/-- What is in a memory before a text is put there: a sweep takes only what has run out. -/
def swept (store : MemoryStore) (now : Rat) : MemoryStore :=
  if store.nextSweep ≤ now then store.sweep now else store

theorem single_swept {store : MemoryStore} (h : Entries.Single store.entries) (now : Rat) :
    Entries.Single (swept store now).entries := by
  unfold swept
  split
  · exact h.filter _
  · exact h

theorem get?_swept {store : MemoryStore} (h : Entries.Single store.entries) (now : Rat)
    (name : Text) :
    Entries.get? (swept store now).entries name = Entries.get? store.entries name ∨
      Entries.get? (swept store now).entries name = none ∧
        ∃ stored, Entries.get? store.entries name = some stored ∧ stored.expires ≤ now := by
  unfold swept
  split
  · cases hget : Entries.get? store.entries name with
    | none => exact .inl (Entries.get?_filter_of_none hget)
    | some stored =>
      by_cases hlive : now < stored.expires
      · exact .inl (Entries.get?_filter_of_some hget (by simpa using hlive))
      · refine .inr ⟨h.get?_filter_of_dropped hget (by simpa using hlive), stored, rfl, ?_⟩
        exact Rat.not_lt.mp hlive
  · exact .inl rfl

theorem entries_save (store : MemoryStore) (now : Rat) (name raw : Text) :
    (store.save now name raw).entries =
      Entries.put (swept store now).entries name ⟨raw, now + store.lifetime⟩ := by
  unfold MemoryStore.save swept
  split <;> rfl

/-- A record that is stored is kept, and nothing else is lost but what has run out. -/
theorem stores_save {record : Record} (hsingle : s.Single)
    (h : save name record s = (.ok (), s')) : s.Stores name record s' := by
  unfold save at h
  split at h
  · cases (Prod.mk.inj h).1
  · rename_i raw hwrite
    cases hstore : s.store with
    | memory store =>
      rw [hstore] at h
      obtain ⟨-, rfl⟩ := Prod.mk.inj h
      have hentries := (single_memory hstore).mp hsingle
      refine ⟨rfl, ?_, ⟨raw, some (s.now + store.lifetime), hwrite, ?_⟩, fun other hother => ?_⟩
      · intro _
        rw [single_memory rfl, entries_save]
        exact (single_swept hentries s.now).put _ _
      · rw [kept?_memory rfl, entries_save, Entries.get?_put_self]
        rfl
      · rw [FadesAt, kept?_memory rfl, kept?_memory hstore, entries_save,
          Entries.get?_put_of_ne _ _ hother]
        rcases get?_swept hentries s.now other with hsame | ⟨hgone, stored, hstored, hexpired⟩
        · exact .inl (by rw [hsame])
        · refine .inr ⟨by rw [hgone]; rfl, stored.raw, stored.expires, ?_, hexpired⟩
          rw [kept?_memory hstore, hstored]
          rfl
    | remote store service =>
      simp only [hstore, RemoteStore.save, Service.client, Service.answer] at h
      split at h
      · cases (Prod.mk.inj h).1
      · obtain ⟨-, rfl⟩ := Prod.mk.inj h
        refine ⟨rfl, fun _ => trivial, ⟨raw, none, hwrite, ?_⟩, fun other hother => .inl ?_⟩
        · rw [kept?_remote rfl]
          exact congrArg (Option.map _) (Entries.get?_put_self _ _ _)
        · rw [kept?_remote rfl, kept?_remote hstore]
          exact congrArg (Option.map _) (Entries.get?_put_of_ne _ _ (key_ne store hother))

/-- Where storing fails, nothing has changed that is kept. -/
theorem fades_save {record : Record} {fault : SessionFault}
    (h : save name record s = (.error fault, s')) : s.Fades s' := by
  unfold save at h
  split at h
  · obtain ⟨-, rfl⟩ := Prod.mk.inj h
    exact Fades.refl s
  · cases hstore : s.store with
    | memory store =>
      rw [hstore] at h
      cases (Prod.mk.inj h).1
    | remote store service =>
      simp only [hstore, RemoteStore.save, Service.client, Service.answer] at h
      split at h
      · obtain ⟨-, rfl⟩ := Prod.mk.inj h
        exact fades_of_eq rfl hstore.symm
      · cases (Prod.mk.inj h).1

/-! ## Deleting -/

theorem loses_delete (name : Text) (s : Sessions) : s.Loses name (delete name s).2 := by
  unfold delete
  cases hstore : s.store with
  | memory store =>
    refine ⟨rfl, ?_, .inr ?_, fun other hother => ?_⟩
    · rw [single_memory hstore]
      exact fun hsingle => hsingle.erase name
    · rw [kept?_memory rfl]
      exact congrArg (Option.map _) (Entries.get?_erase_self _ _)
    · rw [kept?_memory rfl, kept?_memory hstore]
      exact congrArg (Option.map _) (Entries.get?_erase_of_ne _ hother)
  | remote store service =>
    simp only [RemoteStore.delete, Service.client, Service.answer]
    split
    · refine ⟨rfl, fun _ => trivial, .inl ?_, fun other _ => ?_⟩
      · rw [kept?_remote rfl, kept?_remote hstore]
      · rw [kept?_remote rfl, kept?_remote hstore]
    · refine ⟨rfl, fun _ => trivial, .inr ?_, fun other hother => ?_⟩
      · rw [kept?_remote rfl]
        exact congrArg (Option.map _) (Entries.get?_erase_self _ _)
      · rw [kept?_remote rfl, kept?_remote hstore]
        exact congrArg (Option.map _) (Entries.get?_erase_of_ne _ (key_ne store hother))

/-! ## Working under a lock -/

section Working

variable {ε α : Type} {ofFault : SessionFault → ε} {work : Record → Keeping ε (α × Record)}

/-- Work under a lock fails, and then nothing is lost but what has run out, or a record was found,
something has come of it, and that is stored. -/
theorem withRecord_cases {outcome : Except ε α} (hsingle : s.Single)
    (hwork : ∀ (record : Record) (s : Sessions), s.Fades (work record s).2)
    (h : withRecord name ofFault work s = (outcome, s')) :
    (∃ fault, outcome = .error fault ∧ s.Fades s') ∨
      ∃ a record mid after last, outcome = .ok a ∧ s.Finds name record mid ∧
        work record mid = (.ok (a, after), last) ∧ last.Stores name after s' := by
  have hentered := fades_enter name s
  unfold withRecord locked at h
  split at h
  · rename_i fault mid heq
    rw [heq] at hentered
    obtain ⟨rfl, rfl⟩ := Prod.mk.inj h
    exact .inl ⟨_, rfl, hentered⟩
  · rename_i entered heq
    rw [heq] at hentered
    have hloaded := fades_loadOrDraw name entered
    rcases hfound : loadOrDraw name entered with ⟨fault | record, mid⟩
    · rw [hfound] at hloaded
      simp only [hfound] at h
      obtain ⟨rfl, rfl⟩ := Prod.mk.inj h
      exact .inl ⟨_, rfl, (hentered.trans hloaded).trans (fades_leave name mid)⟩
    · rw [hfound] at hloaded
      simp only [hfound] at h
      have hfinds := finds_loadOrDraw hfound
      have hworking := hwork record mid
      rcases hworked : work record mid with ⟨fault | ⟨a, after⟩, last⟩
      · rw [hworked] at hworking
        simp only [hworked] at h
        obtain ⟨rfl, rfl⟩ := Prod.mk.inj h
        exact .inl ⟨_, rfl, ((hentered.trans hloaded).trans hworking).trans (fades_leave name last)⟩
      · rw [hworked] at hworking
        simp only [hworked] at h
        have hbefore : s.Fades last := (hentered.trans hloaded).trans hworking
        rcases hsaved : save name after last with ⟨fault | _, final⟩
        · simp only [hsaved] at h
          obtain ⟨rfl, rfl⟩ := Prod.mk.inj h
          exact .inl ⟨_, rfl, (hbefore.trans (fades_save hsaved)).trans (fades_leave name final)⟩
        · simp only [hsaved] at h
          obtain ⟨rfl, rfl⟩ := Prod.mk.inj h
          exact .inr ⟨a, record, mid, after, last, rfl, hentered.finds hfinds, hworked,
            (stores_save (hbefore.single hsingle) hsaved).leave⟩

end Working

end VeiledGateway.Sessions
