/-
  What a store shows under one name.

  Under a name a session sees what is kept there and has not run out, and besides the time and the
  manner in which sessions are kept.  Every operation on the name answers by this, and what it leaves
  under the name depends on this alone.  So sessions that look alike under a name cannot be told
  apart there, whatever is kept under other names, and whenever they were swept.
-/
import Mathlib.Algebra.Order.Ring.Unbundled.Rat
import VeiledGateway.Proofs.Session.Upholding

set_option autoImplicit false

namespace VeiledGateway.Sessions

/-- The manner in which sessions are kept, whatever is kept. -/
inductive Manner where
  | memory (lifetime : Rat)
  | remote (store : RemoteStore) (refusing : List Text) (lockFree : Bool)

def manner (s : Sessions) : Manner :=
  match s.store with
  | .memory store => .memory store.lifetime
  | .remote store service => .remote store service.refusing service.lockFree

/-- A time has not come yet; what has none lasts. -/
def isAhead (now : Rat) : Option Rat → Bool
  | some expires => now < expires
  | none => true

/-- What is kept under a name and has not run out. -/
def live? (s : Sessions) (name : Text) : Option (Text × Option Rat) :=
  (s.kept? name).filter fun kept => isAhead s.now kept.2

/-- Two sessions look alike under a name. -/
structure Alike (name : Text) (s t : Sessions) : Prop where
  now : s.now = t.now
  manner : s.manner = t.manner
  live : s.live? name = t.live? name

/-- They look alike, and they draw the same secrets. -/
structure Same (name : Text) (s t : Sessions) : Prop extends Alike name s t where
  secrets : s.secrets = t.secrets

variable {s s' t u : Sessions} {name : Text}

theorem Alike.refl (name : Text) (s : Sessions) : Alike name s s :=
  ⟨rfl, rfl, rfl⟩

theorem Alike.symm (h : Alike name s t) : Alike name t s :=
  ⟨h.now.symm, h.manner.symm, h.live.symm⟩

theorem Alike.trans (h : Alike name s t) (h' : Alike name t u) : Alike name s u :=
  ⟨h.now.trans h'.now, h.manner.trans h'.manner, h.live.trans h'.live⟩

/-! ## What is live -/

theorem live?_of_kept {raw : Text} {expires : Option Rat} (hkept : s.kept? name = some (raw, expires)) :
    s.live? name = if isAhead s.now expires then some (raw, expires) else none := by
  rw [live?, hkept, Option.filter_some]

theorem live?_of_none (hkept : s.kept? name = none) : s.live? name = none := by
  rw [live?, hkept]
  rfl

theorem live?_of_runOut (h : s.RunOut name) : s.live? name = none := by
  obtain ⟨raw, expires, hkept, hle⟩ := h
  rw [live?_of_kept hkept, isAhead, decide_eq_false (not_lt.mpr hle)]
  rfl

/-- What has run out is not seen, so nobody sees it go. -/
theorem FadesAt.live? (h : s.FadesAt s' name) (hnow : s'.now = s.now) :
    s'.live? name = s.live? name := by
  rcases h with hsame | ⟨hgone, hrunOut⟩
  · rw [Sessions.live?, Sessions.live?, hsame, hnow]
  · rw [live?_of_none hgone, live?_of_runOut hrunOut]

theorem Fades.alike (h : s.Fades s') (hmanner : s'.manner = s.manner) (name : Text) :
    Alike name s' s :=
  ⟨h.now, hmanner, (h.kept name).live? h.now⟩

/-- As time goes on, what runs out is no longer seen. -/
theorem live?_wait (s : Sessions) (name : Text) {seconds : Rat} (hforward : 0 ≤ seconds) :
    ({ s with now := s.now + seconds } : Sessions).live? name =
      (s.live? name).filter fun kept => isAhead (s.now + seconds) kept.2 := by
  rw [live?, live?, Option.filter_filter]
  refine congrArg (fun keep => Option.filter keep (s.kept? name)) (funext fun kept => ?_)
  rcases kept with ⟨raw, expires | expires⟩
  · rfl
  · simp only [isAhead, Bool.eq_and_self, decide_eq_true_eq]
    exact fun hahead => lt_of_le_of_lt (le_add_of_nonneg_right hforward) hahead

theorem Alike.wait (h : Alike name s t) {seconds : Rat} (hforward : 0 ≤ seconds) :
    Alike name { s with now := s.now + seconds } { t with now := t.now + seconds } := by
  refine ⟨?_, h.manner, ?_⟩
  · rw [h.now]
  · rw [live?_wait s name hforward, live?_wait t name hforward, h.live, h.now]

/-! ## Time and secrets -/

theorem now_save (name : Text) (record : Record) (s : Sessions) :
    (save name record s).2.now = s.now := by
  unfold save
  split
  · rfl
  · split <;> rfl

theorem secrets_loadRaw (name : Text) (s : Sessions) : (loadRaw name s).2.secrets = s.secrets := by
  unfold loadRaw
  split <;> rfl

theorem secrets_enter (name : Text) (s : Sessions) : (enter name s).2.secrets = s.secrets := by
  unfold enter
  split <;> rfl

theorem secrets_leave (name : Text) (s : Sessions) : (leave name s).secrets = s.secrets := by
  unfold leave
  split <;> rfl

theorem secrets_save (name : Text) (record : Record) (s : Sessions) :
    (save name record s).2.secrets = s.secrets := by
  unfold save
  split
  · rfl
  · split <;> rfl

theorem secrets_delete (name : Text) (s : Sessions) : (delete name s).2.secrets = s.secrets := by
  unfold delete
  split <;> rfl

/-! ## Manners -/

theorem manner_of_store_eq (h : s'.store = s.store) : s'.manner = s.manner := by
  rw [manner, manner, h]

theorem manner_loadRaw (name : Text) (s : Sessions) : (loadRaw name s).2.manner = s.manner := by
  unfold loadRaw
  cases hstore : s.store with
  | memory store =>
    simp only [manner, hstore, MemoryStore.load]
    split
    · rfl
    · split <;> rfl
  | remote store service =>
    simp only [manner, hstore, RemoteStore.load, Service.client, Service.answer]
    split <;> rfl

theorem manner_load (name : Text) (s : Sessions) : (load name s).2.manner = s.manner :=
  (manner_of_store_eq (store_load name s).1).trans (manner_loadRaw name s)

theorem manner_loadOrDraw (name : Text) (s : Sessions) : (loadOrDraw name s).2.manner = s.manner :=
  (manner_of_store_eq (store_loadOrDraw name s).1).trans (manner_load name s)

theorem manner_enter (name : Text) (s : Sessions) : (enter name s).2.manner = s.manner := by
  unfold enter
  cases hstore : s.store with
  | memory store =>
    rw [manner, manner, hstore]
    rfl
  | remote store service =>
    simp only [manner, hstore, RemoteStore.enter, Service.client, Service.answer]
    grind

theorem manner_leave (name : Text) (s : Sessions) : (leave name s).manner = s.manner := by
  unfold leave
  cases hstore : s.store with
  | memory store =>
    rw [manner, manner, hstore]
    rfl
  | remote store service =>
    simp only [manner, hstore, RemoteStore.leave, Service.client, Service.answer]
    split <;> rfl

theorem manner_save (name : Text) (record : Record) (s : Sessions) :
    (save name record s).2.manner = s.manner := by
  unfold save
  split
  · rfl
  · cases hstore : s.store with
    | memory store =>
      simp only [manner, hstore, MemoryStore.save, MemoryStore.put]
      split <;> rfl
    | remote store service =>
      simp only [manner, hstore, RemoteStore.save, Service.client, Service.answer]
      split <;> rfl

theorem manner_delete (name : Text) (s : Sessions) : (delete name s).2.manner = s.manner := by
  unfold delete
  cases hstore : s.store with
  | memory store =>
    rw [manner, manner, hstore]
    rfl
  | remote store service =>
    simp only [manner, hstore, RemoteStore.delete, Service.client, Service.answer]
    split <;> rfl

theorem manner_withRecord {ε α : Type} {ofFault : SessionFault → ε}
    {work : Record → Keeping ε (α × Record)}
    (hwork : ∀ (record : Record) (s : Sessions), (work record s).2.manner = s.manner)
    (name : Text) (s : Sessions) : (withRecord name ofFault work s).2.manner = s.manner := by
  have hentered := manner_enter name s
  unfold withRecord locked
  rcases henter : enter name s with ⟨fault | _, entered⟩
  · rw [henter] at hentered
    exact hentered
  rw [henter] at hentered
  dsimp only
  have hloaded := manner_loadOrDraw name entered
  rcases hload : loadOrDraw name entered with ⟨fault | record, loaded⟩
  · rw [hload] at hloaded
    exact (manner_leave name loaded).trans (hloaded.trans hentered)
  rw [hload] at hloaded
  dsimp only
  have hworked := hwork record loaded
  rcases hrun : work record loaded with ⟨fault | ⟨a, after⟩, last⟩
  · rw [hrun] at hworked
    exact (manner_leave name last).trans (hworked.trans (hloaded.trans hentered))
  rw [hrun] at hworked
  dsimp only
  have hsaved := manner_save name after last
  rcases hsave : save name after last with ⟨fault | _, saved⟩ <;> rw [hsave] at hsaved <;>
    exact (manner_leave name saved).trans (hsaved.trans (hworked.trans (hloaded.trans hentered)))

/-- Whether a request reaches the store is a matter of manners. -/
theorem reaches_iff (s : Sessions) (kind : Text) :
    s.Reaches kind ↔
      match s.manner with
      | .memory _ => True
      | .remote _ refusing _ => kind ∉ refusing := by
  unfold Reaches manner
  cases s.store <;> exact Iff.rfl

theorem Alike.reaches_iff (h : Alike name s t) (kind : Text) : s.Reaches kind ↔ t.Reaches kind := by
  rw [Sessions.reaches_iff, Sessions.reaches_iff, h.manner]

/-- So is the time until which a text is kept. -/
theorem expiry_eq (s : Sessions) :
    s.expiry =
      match s.manner with
      | .memory lifetime => some (s.now + lifetime)
      | .remote _ _ _ => none := by
  unfold expiry manner
  cases s.store <;> rfl

theorem Alike.expiry (h : Alike name s t) : s.expiry = t.expiry := by
  rw [expiry_eq, expiry_eq, h.manner, h.now]

/-! ## Answers -/

theorem refuses_of_reaches {store : RemoteStore} {service : Service}
    (hstore : s.store = .remote store service) {kind : Text} (h : s.Reaches kind) :
    service.refusing.contains kind = false := by
  rw [Reaches, hstore] at h
  rw [← Bool.not_eq_true, List.contains_iff_mem]
  exact h

theorem refuses_of_not_reaches {store : RemoteStore} {service : Service}
    (hstore : s.store = .remote store service) {kind : Text} (h : ¬ s.Reaches kind) :
    service.refusing.contains kind = true := by
  rw [Reaches, hstore, not_not] at h
  exact List.contains_iff_mem.mpr h

/-- What is live under a name is loaded, where the store is reached. -/
theorem loadRaw_of_reaches (h : s.Reaches "get") (name : Text) :
    (loadRaw name s).1 = .ok ((s.live? name).map Prod.fst) := by
  cases hstore : s.store with
  | memory store =>
    have hkept := kept?_memory hstore name
    simp only [loadRaw, hstore, MemoryStore.load]
    cases hget : Entries.get? store.entries name with
    | none =>
      rw [hget] at hkept
      rw [live?_of_none hkept]
      rfl
    | some stored =>
      rw [hget] at hkept
      rw [live?_of_kept hkept, isAhead]
      by_cases hexpired : stored.expires ≤ s.now
      · simp only [if_pos hexpired, decide_eq_false (not_lt.mpr hexpired)]
        rfl
      · simp only [if_neg hexpired, decide_eq_true (not_le.mp hexpired)]
        rfl
  | remote store service =>
    have hkept := kept?_remote hstore name
    have hanswers : service.refusing.contains (Call.get (store.key name)).name = false :=
      refuses_of_reaches hstore h
    simp only [loadRaw, hstore, RemoteStore.load, Service.client, Service.answer, hanswers]
    cases hget : Entries.get? service.entries (store.key name) with
    | none =>
      rw [hget] at hkept
      rw [live?_of_none hkept]
      rfl
    | some raw =>
      rw [hget] at hkept
      rw [live?_of_kept hkept]
      rfl

theorem reaches_of_memory {store : MemoryStore} (h : s.store = .memory store) (kind : Text) :
    s.Reaches kind := by
  rw [Reaches, h]
  trivial

/-- Where the store is not reached, nothing is loaded and nothing changes. -/
theorem loadRaw_of_not_reaches (h : ¬ s.Reaches "get") (name : Text) :
    loadRaw name s = (.error (.store (.unavailable Service.refusal)), s) := by
  cases hstore : s.store with
  | memory store => exact absurd (reaches_of_memory hstore "get") h
  | remote store service =>
    have hrefuses : service.refusing.contains (Call.get (store.key name)).name = true :=
      refuses_of_not_reaches hstore h
    simp only [loadRaw, hstore, RemoteStore.load, Service.client, Service.answer, hrefuses, if_true]
    rw [← hstore]
    rfl

/-- A record that is stored is seen from then on, until its time runs out. -/
theorem live?_save {record : Record} {raw : Text} (hwrite : record.write = .ok raw)
    (h : s.Reaches "set") :
    (save name record s).2.live? name =
      if isAhead s.now s.expiry then some (raw, s.expiry) else none := by
  rw [live?_of_kept (save_of_write hwrite h).2, now_save]

theorem save_of_not_reaches {record : Record} {raw : Text} (hwrite : record.write = .ok raw)
    (h : ¬ s.Reaches "set") (name : Text) :
    save name record s = (.error (.store (.unavailable Service.refusal)), s) := by
  cases hstore : s.store with
  | memory store => exact absurd (reaches_of_memory hstore "set") h
  | remote store service =>
    have hrefuses : service.refusing.contains (Call.set (store.key name) store.lifetime).name = true :=
      refuses_of_not_reaches hstore h
    simp only [save, hwrite, hstore, RemoteStore.save, Service.client, Service.answer, hrefuses, if_true]
    rw [← hstore]
    rfl

theorem delete_of_reaches (h : s.Reaches "delete") (name : Text) :
    (delete name s).1 = .ok () ∧ (delete name s).2.kept? name = none := by
  cases hstore : s.store with
  | memory store =>
    simp only [delete, hstore]
    refine ⟨trivial, ?_⟩
    rw [kept?_memory rfl]
    exact congrArg (Option.map _) (Entries.get?_erase_self _ _)
  | remote store service =>
    have hanswers : service.refusing.contains (Call.delete (store.key name)).name = false :=
      refuses_of_reaches hstore h
    simp only [delete, hstore, RemoteStore.delete, Service.client, Service.answer, hanswers]
    refine ⟨rfl, ?_⟩
    rw [kept?_remote rfl]
    exact congrArg (Option.map _) (Entries.get?_erase_self _ _)

theorem delete_of_not_reaches (h : ¬ s.Reaches "delete") (name : Text) :
    delete name s = (.error (.store (.unavailable Service.refusal)), s) := by
  cases hstore : s.store with
  | memory store => exact absurd (reaches_of_memory hstore "delete") h
  | remote store service =>
    have hrefuses : service.refusing.contains (Call.delete (store.key name)).name = true :=
      refuses_of_not_reaches hstore h
    simp only [delete, hstore, RemoteStore.delete, Service.client, Service.answer, hrefuses, if_true]
    rw [← hstore]
    rfl

/-- Whether the lock of a name is got. -/
def Manner.entry : Manner → Except SessionFault Unit
  | .memory _ => .ok ()
  | .remote _ refusing lockFree =>
    if refusing.contains "lock" then .error (.store (.unreachable Service.refusal))
    else if refusing.contains "acquire" then .error (.store (.lockUnavailable Service.refusal))
    else if lockFree then .ok () else .error (.store .lockTimeout)

theorem enter_eq_entry (name : Text) (s : Sessions) : (enter name s).1 = s.manner.entry := by
  unfold enter manner
  cases hstore : s.store with
  | memory store => rfl
  | remote store service =>
    cases hlock : service.refusing.contains ("lock" : Text) with
    | true =>
      simp only [RemoteStore.enter, Service.client, Service.answer, Call.name, Manner.entry, hlock, if_true]
      rfl
    | false =>
      cases hacquire : service.refusing.contains ("acquire" : Text) with
      | true =>
        simp only [RemoteStore.enter, Service.client, Service.answer, Call.name, Manner.entry, hlock,
          hacquire, if_true, Bool.false_eq_true, if_false]
        rfl
      | false =>
        simp only [RemoteStore.enter, Service.client, Service.answer, Call.name, Manner.entry, hlock,
          hacquire, Bool.false_eq_true, if_false]
        cases service.lockFree <;> rfl

end VeiledGateway.Sessions
