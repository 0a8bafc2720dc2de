/-
  Sweeping: what a store in memory holds on to.

  Records that nobody asks for again are swept away when something else is saved, and that is never
  long after their time has run out.  What has not run out stays, unless it is deleted or saved anew.
  The table of locks is told together with those who use the locks: it has a name exactly as long as
  somebody holds the lock of that name or waits for it.
-/
import Mathlib.Algebra.Order.Field.Rat
import Mathlib.Tactic.Linarith
import VeiledGateway.Proofs.Session.Recalling

set_option autoImplicit false

namespace VeiledGateway

/-! ## The store -/

namespace MemoryStore

variable {store : MemoryStore} {now : Rat} {name : Text}

/-- The last sweep is past, and all that is stored runs out after it. -/
structure Swept (store : MemoryStore) (now : Rat) : Prop where
  past : store.nextSweep - store.interval ≤ now
  later : ∀ entry ∈ store.entries, store.nextSweep - store.interval < entry.2.expires

theorem start_interval (lifetime interval now : Rat) :
    (start lifetime interval now).interval = min interval lifetime :=
  (min_def interval lifetime).symm

theorem swept_start (lifetime interval now : Rat) : (start lifetime interval now).Swept now where
  past := (add_sub_cancel_right now _).le
  later := nofun

theorem swept_sweep (store : MemoryStore) (now : Rat) : (store.sweep now).Swept now where
  past := (add_sub_cancel_right now store.interval).le
  later := fun entry hentry => by
    have hkept := (List.mem_filter.mp hentry).2
    have hlast : (store.sweep now).nextSweep - (store.sweep now).interval = now :=
      add_sub_cancel_right now store.interval
    rw [hlast]
    exact of_decide_eq_true hkept

namespace Swept

/-- What is stored of less runs out after the last sweep too. -/
theorem of_subset (h : store.Swept now) {entries : Entries Stored}
    (hsubset : ∀ entry ∈ entries, entry ∈ store.entries) :
    ({ store with entries } : MemoryStore).Swept now :=
  ⟨h.past, fun entry hentry => h.later entry (hsubset entry hentry)⟩

theorem put (h : store.Swept now) (hlifetime : 0 < store.lifetime) (name raw : Text) :
    (store.put now name raw).Swept now where
  past := h.past
  later := fun entry hentry => by
    rcases Entries.mem_put hentry with rfl | hold
    · exact h.past.trans_lt (lt_add_of_pos_right now hlifetime)
    · exact h.later entry hold

theorem save (h : store.Swept now) (hlifetime : 0 < store.lifetime) (name raw : Text) :
    (store.save now name raw).Swept now := by
  unfold MemoryStore.save
  split
  · exact (swept_sweep store now).put hlifetime name raw
  · exact h.put hlifetime name raw

theorem load (h : store.Swept now) (name : Text) : (store.load now name).2.Swept now := by
  unfold MemoryStore.load
  split
  · exact h
  · split
    · exact h.of_subset fun _ hentry => (List.mem_filter.mp hentry).1
    · exact h

theorem delete (h : store.Swept now) (name : Text) : (store.delete name).Swept now :=
  h.of_subset fun _ hentry => (List.mem_filter.mp hentry).1

/-- The last sweep stays past. -/
theorem wait (h : store.Swept now) {seconds : Rat} (hforward : 0 ≤ seconds) :
    store.Swept (now + seconds) :=
  ⟨h.past.trans (le_add_of_nonneg_right hforward), h.later⟩

end Swept

@[simp] theorem save_lifetime (store : MemoryStore) (now : Rat) (name raw : Text) :
    (store.save now name raw).lifetime = store.lifetime := by
  unfold save
  split <;> rfl

@[simp] theorem save_interval (store : MemoryStore) (now : Rat) (name raw : Text) :
    (store.save now name raw).interval = store.interval := by
  unfold save
  split <;> rfl

@[simp] theorem save_locks (store : MemoryStore) (now : Rat) (name raw : Text) :
    (store.save now name raw).locks = store.locks := by
  unfold save
  split <;> rfl

/-- A text that is stored leaves the next sweep ahead. -/
theorem nextSweep_save (hinterval : 0 < store.interval) (name raw : Text) :
    now < (store.save now name raw).nextSweep := by
  unfold save
  split
  · exact lt_add_of_pos_right now hinterval
  · rename_i hahead
    exact not_le.mp hahead

/-- Right after a text is stored, nothing is stored that had run out an interval before. -/
theorem expires_of_mem_save (h : store.Swept now) (hlifetime : 0 < store.lifetime)
    (hinterval : 0 < store.interval) {name raw : Text} {entry : Text × Stored}
    (hentry : entry ∈ (store.save now name raw).entries) :
    now - store.interval < entry.2.expires := by
  have hlater := (h.save hlifetime name raw).later entry hentry
  have hahead : now < (store.save now name raw).nextSweep := nextSweep_save hinterval name raw
  rw [save_interval] at hlater
  linarith

/-! ## The table of locks -/

/-- The table of locks counts for each name how many use its lock, who are these. -/
def Attended (store : MemoryStore) (users : List Text) : Prop :=
  ∀ name, Entries.get? store.locks name =
    if users.count name = 0 then none else some (users.count name)

namespace Attended

variable {users : List Text}

theorem getD (h : store.Attended users) (name : Text) :
    (Entries.get? store.locks name).getD 0 = users.count name := by
  rw [h name]
  split
  · rename_i hnone
    exact hnone.symm
  · rfl

theorem enter (h : store.Attended users) (name : Text) :
    (store.enter name).Attended (name :: users) := by
  intro other
  rw [MemoryStore.enter, h.getD]
  by_cases hother : other = name
  · subst hother
    rw [Entries.get?_put_self, List.count_cons_self, if_neg (Nat.succ_ne_zero _)]
  · rw [Entries.get?_put_of_ne _ _ hother, List.count_cons_of_ne (Ne.symm hother)]
    exact h other

theorem leave (h : store.Attended users) {name : Text} (hmem : name ∈ users) :
    (store.leave name).Attended (users.erase name) := by
  intro other
  have hcount := List.count_pos_iff.mpr hmem
  rw [MemoryStore.leave, h.getD]
  by_cases hother : other = name
  · subst hother
    rw [List.count_erase_self]
    split
    · rename_i hlast
      rw [Entries.get?_erase_self, if_pos (by omega)]
    · rename_i hmore
      rw [Entries.get?_put_self, if_neg (by omega)]
  · rw [List.count_erase_of_ne hother, ← h other]
    split
    · exact Entries.get?_erase_of_ne _ hother
    · exact Entries.get?_put_of_ne _ _ hother

/-- Who uses the locks counts, and not in what order. -/
theorem of_perm (h : store.Attended users) {others : List Text} (hperm : users.Perm others) :
    store.Attended others := by
  intro name
  rw [h name, hperm.count_eq]

theorem has_iff (h : store.Attended users) (name : Text) :
    Entries.has store.locks name = true ↔ name ∈ users := by
  rw [Entries.has, h name, ← List.count_pos_iff]
  split
  · rename_i hnone
    simp [hnone]
  · rename_i hsome
    exact iff_of_true rfl (Nat.pos_of_ne_zero hsome)

end Attended

/-! ## What is done with a store -/

/-- The store after an act. -/
def afterAct (store : MemoryStore) (now : Rat) : Shelf.Act → MemoryStore
  | .save name record =>
    match record.write with
    | .ok raw => store.save now name raw
    | .error _ => store
  | .load name => (store.load now name).2
  | .delete name => store.delete name
  | .wait _ => store

/-- What stays of a store whatever is done with its records. -/
structure SameManner (store other : MemoryStore) : Prop where
  lifetime : other.lifetime = store.lifetime
  interval : other.interval = store.interval
  locks : other.locks = store.locks

theorem sameManner_afterAct (store : MemoryStore) (now : Rat) (act : Shelf.Act) :
    store.SameManner (store.afterAct now act) := by
  cases act with
  | save name record =>
    simp only [afterAct]
    split
    · exact ⟨save_lifetime .., save_interval .., save_locks ..⟩
    · exact ⟨rfl, rfl, rfl⟩
  | load name =>
    simp only [afterAct, load]
    split
    · exact ⟨rfl, rfl, rfl⟩
    · split <;> exact ⟨rfl, rfl, rfl⟩
  | delete name => exact ⟨rfl, rfl, rfl⟩
  | wait seconds => exact ⟨rfl, rfl, rfl⟩

theorem Swept.afterAct (h : store.Swept now) (hlifetime : 0 < store.lifetime) (act : Shelf.Act) :
    (store.afterAct now act).Swept now := by
  cases act with
  | save name record =>
    simp only [MemoryStore.afterAct]
    split
    · exact h.save hlifetime name _
    · exact h
  | load name => exact h.load name
  | delete name => exact h.delete name
  | wait seconds => exact h

end MemoryStore

/-- How much time goes by in an act. -/
def Shelf.Act.time : Shelf.Act → Rat
  | .wait seconds => seconds
  | _ => 0

theorem Shelf.Act.Forward.time_nonneg {act : Shelf.Act} (h : act.Forward) : 0 ≤ act.time := by
  cases act with
  | wait seconds => exact h
  | _ => exact le_rfl

namespace Sessions

variable {s : Sessions} {store : MemoryStore}

/-- What is kept in memory, with the times from which it is forgotten. -/
def stored (s : Sessions) : Entries Stored :=
  match s.store with
  | .memory store => store.entries
  | .remote _ _ => []

/-- The names in the table of locks of a memory. -/
def HasLock (s : Sessions) (name : Text) : Prop :=
  match s.store with
  | .memory store => Entries.has store.locks name = true
  | .remote _ _ => False

/-- Sessions in memory do with their store what is done with it. -/
theorem store_after (hstore : s.store = .memory store) (act : Shelf.Act) :
    (shelf.after s act).store = .memory (store.afterAct s.now act) := by
  cases act with
  | save name record =>
    cases hwrite : record.write with
    | error fault => simp only [Shelf.after, shelf, save, MemoryStore.afterAct, hwrite, hstore]
    | ok raw => simp only [Shelf.after, shelf, save, MemoryStore.afterAct, hwrite, hstore]
  | load name =>
    have hraw : (loadRaw name s).2.store = .memory (store.load s.now name).2 := by
      rw [loadRaw, hstore]
    exact (store_load name s).1.trans hraw
  | delete name =>
    simp only [Shelf.after, shelf, delete, hstore]
    rfl
  | wait seconds => exact hstore

theorem now_after (s : Sessions) (act : Shelf.Act) : (shelf.after s act).now = s.now + act.time := by
  cases act with
  | save name record => exact (now_save name record s).trans (add_zero s.now).symm
  | load name => exact (fades_load name s).now.trans (add_zero s.now).symm
  | delete name => exact (loses_delete name s).now.trans (add_zero s.now).symm
  | wait seconds => rfl

/-- A record that is saved in memory is kept from then on for its lifetime. -/
theorem kept?_save (hstore : s.store = .memory store) {name raw : Text} {record : Record}
    (hwrite : record.write = .ok raw) :
    (save name record s).2.kept? name = some (raw, some (s.now + store.lifetime)) := by
  have hafter : (save name record s).2.store = .memory (store.save s.now name raw) := by
    simp only [save, hwrite, hstore]
  rw [kept?_memory hafter, MemoryStore.save]
  split <;>
  · rw [MemoryStore.put, Entries.get?_put_self]
    rfl

theorem InMemory.of_fades {lifetime : Rat} {s' : Sessions} (h : s.InMemory lifetime)
    (hfades : s.Fades s') (hmanner : s'.manner = s.manner) : s'.InMemory lifetime :=
  ⟨hfades.single h.single, hmanner.trans h.manner⟩

/-- What has not run out does not fade. -/
theorem FadesAt.kept {s' : Sessions} {name raw : Text} {expires : Rat} (h : s.FadesAt s' name)
    (hkept : s.kept? name = some (raw, some expires)) (hahead : s.now < expires) :
    s'.kept? name = some (raw, some expires) := by
  rcases h with hsame | ⟨-, other, time, hother, hle⟩
  · exact hsame.trans hkept
  · rw [hkept] at hother
    obtain rfl := Option.some.inj (Prod.mk.inj (Option.some.inj hother)).2
    exact absurd hle (not_le.mpr hahead)

/-- What has not run out stays whatever is done, unless it is deleted or saved anew. -/
theorem kept?_after {lifetime : Rat} (h : s.InMemory lifetime) {name raw : Text} {expires : Rat}
    (hkept : s.kept? name = some (raw, some expires)) (hahead : s.now < expires) (act : Shelf.Act) :
    (shelf.after s act).kept? name = some (raw, some expires) ∨ act = .delete name ∨
      ∃ record written, act = .save name record ∧ record.write = .ok written ∧
        (shelf.after s act).kept? name = some (written, some (s.now + lifetime)) := by
  cases act with
  | save other record =>
    cases hwrite : record.write with
    | error fault =>
      refine .inl ?_
      change (save other record s).2.kept? name = _
      rw [save, hwrite]
      exact hkept
    | ok written =>
      by_cases hother : name = other
      · subst hother
        obtain ⟨store, hstore⟩ := h.exists_store
        have hlifetime : store.lifetime = lifetime := by
          have hmanner := h.manner
          rw [Sessions.manner, hstore] at hmanner
          exact Manner.memory.inj hmanner
        exact .inr (.inr ⟨record, written, rfl, hwrite, hlifetime ▸ kept?_save hstore hwrite⟩)
      · have hstores : s.Stores other record (save other record s).2 :=
          stores_save h.single (Prod.ext (save_of_write hwrite (h.reaches "set")).1 rfl)
        exact .inl ((hstores.others name hother).kept hkept hahead)
  | load other => exact .inl (((fades_load other s).kept name).kept hkept hahead)
  | delete other =>
    by_cases hother : name = other
    · exact .inr (.inl (hother ▸ rfl))
    · exact .inl (((loses_delete other s).others name hother).trans hkept)
  | wait seconds => exact .inl hkept

end Sessions

/-! ## Those who use the locks -/

/-- Sessions, and who uses their locks: the names whose locks are held, and for each request that
waits the name for whose lock it does. -/
structure Scene where
  sessions : Sessions
  holding : List Text
  waiting : List Text

namespace Scene

/-- What happens, one after the other. -/
inductive Event where
  /-- A record is saved, loaded or deleted, or time goes on. -/
  | act (act : Shelf.Act)
  /-- A request comes to the lock of a name. -/
  | come (name : Text)
  /-- A request that waits for a lock gets it. -/
  | take (name : Text)
  /-- A request that holds a lock gives it back. -/
  | leave (name : Text)
  /-- A request that waits for a lock gives up. -/
  | quit (name : Text)

/-- What can happen: time does not go back, and a lock is held by one at most. -/
def Allows (scene : Scene) : Event → Prop
  | .act act => act.Forward
  | .come _ => True
  | .take name => name ∈ scene.waiting ∧ name ∉ scene.holding
  | .leave name => name ∈ scene.holding
  | .quit name => name ∈ scene.waiting

def after (scene : Scene) : Event → Scene
  | .act act => { scene with sessions := Sessions.shelf.after scene.sessions act }
  | .come name =>
    { scene with
      sessions := (Sessions.enter name scene.sessions).2
      waiting := name :: scene.waiting }
  | .take name =>
    { scene with holding := name :: scene.holding, waiting := scene.waiting.erase name }
  | .leave name =>
    { scene with
      sessions := Sessions.leave name scene.sessions
      holding := scene.holding.erase name }
  | .quit name =>
    { scene with
      sessions := Sessions.leave name scene.sessions
      waiting := scene.waiting.erase name }

/-- The scene after all of some events. -/
def run (scene : Scene) (events : List Event) : Scene :=
  events.foldl after scene

/-- Some events can happen one after the other. -/
def AllowsAll : Scene → List Event → Prop
  | _, [] => True
  | scene, event :: rest => scene.Allows event ∧ (scene.after event).AllowsAll rest

/-- A memory in which nothing is kept yet, and whose locks nobody uses. -/
def opening (lifetime interval start : Rat) (secrets : Secrets) : Scene :=
  ⟨Sessions.inMemory lifetime interval start secrets, [], []⟩

variable {lifetime interval : Rat} {scene : Scene} {store : MemoryStore}

/-- The sessions are kept in a store of this manner that has been swept in time, and whose table of
locks counts those who use them. -/
structure Orderly (lifetime interval : Rat) (scene : Scene) (store : MemoryStore) : Prop where
  kept : scene.sessions.store = .memory store
  inMemory : scene.sessions.InMemory lifetime
  lasting : store.lifetime = lifetime
  pace : store.interval = min interval lifetime
  swept : store.Swept scene.sessions.now
  attended : store.Attended (scene.holding ++ scene.waiting)

theorem orderly_opening (lifetime interval start : Rat) (secrets : Secrets) :
    (opening lifetime interval start secrets).Orderly lifetime interval
      (MemoryStore.start lifetime interval start) where
  kept := rfl
  inMemory := Sessions.inMemory_start lifetime interval start secrets
  lasting := rfl
  pace := MemoryStore.start_interval lifetime interval start
  swept := MemoryStore.swept_start lifetime interval start
  attended := fun _ => rfl

namespace Orderly

theorem act (h : scene.Orderly lifetime interval store) (hlifetime : 0 < lifetime)
    {act : Shelf.Act} (hforward : act.Forward) :
    (scene.after (.act act)).Orderly lifetime interval
      (store.afterAct scene.sessions.now act) where
  kept := Sessions.store_after h.kept act
  inMemory := (Sessions.letsGo_shelf hlifetime).valid_after h.inMemory hforward
    (h.inMemory.not_refuses act)
  lasting := (store.sameManner_afterAct scene.sessions.now act).lifetime.trans h.lasting
  pace := (store.sameManner_afterAct scene.sessions.now act).interval.trans h.pace
  swept := by
    have hnow : (scene.after (.act act)).sessions.now = scene.sessions.now + act.time :=
      Sessions.now_after scene.sessions act
    rw [hnow]
    exact (h.swept.afterAct (h.lasting ▸ hlifetime) act).wait hforward.time_nonneg
  attended := fun name => by
    rw [(store.sameManner_afterAct scene.sessions.now act).locks]
    exact h.attended name

theorem come (h : scene.Orderly lifetime interval store) (name : Text) :
    (scene.after (.come name)).Orderly lifetime interval (store.enter name) where
  kept := by
    change (Sessions.enter name scene.sessions).2.store = _
    rw [Sessions.enter, h.kept]
  inMemory := h.inMemory.of_fades (Sessions.fades_enter name scene.sessions)
    (Sessions.manner_enter name scene.sessions)
  lasting := h.lasting
  pace := h.pace
  swept := by
    have hnow : (scene.after (.come name)).sessions.now = scene.sessions.now :=
      (Sessions.fades_enter name scene.sessions).now
    rw [hnow]
    exact ⟨h.swept.past, h.swept.later⟩
  attended := (h.attended.enter name).of_perm List.perm_middle.symm

theorem take (h : scene.Orderly lifetime interval store) {name : Text}
    (hwaiting : name ∈ scene.waiting) :
    (scene.after (.take name)).Orderly lifetime interval store where
  kept := h.kept
  inMemory := h.inMemory
  lasting := h.lasting
  pace := h.pace
  swept := h.swept
  attended := h.attended.of_perm
    (((List.perm_cons_erase hwaiting).append_left scene.holding).trans List.perm_middle)

/-- One fewer uses the lock of a name, whether that one held it or waited for it. -/
theorem fewer (h : scene.Orderly lifetime interval store) {name : Text} {holding waiting : List Text}
    (hmem : name ∈ scene.holding ++ scene.waiting)
    (hfewer : ((scene.holding ++ scene.waiting).erase name).Perm (holding ++ waiting)) :
    Orderly lifetime interval ⟨Sessions.leave name scene.sessions, holding, waiting⟩
      (store.leave name) where
  kept := by rw [Sessions.leave, h.kept]
  inMemory := h.inMemory.of_fades (Sessions.fades_leave name scene.sessions)
    (Sessions.manner_leave name scene.sessions)
  lasting := h.lasting
  pace := h.pace
  swept := by
    rw [Sessions.now_leave]
    exact ⟨h.swept.past, h.swept.later⟩
  attended := (h.attended.leave hmem).of_perm hfewer

/-- Whatever happens, order is kept. -/
theorem after (h : scene.Orderly lifetime interval store) (hlifetime : 0 < lifetime) {event : Event}
    (hallows : scene.Allows event) :
    ∃ store', (scene.after event).Orderly lifetime interval store' := by
  cases event with
  | act act => exact ⟨_, h.act hlifetime hallows⟩
  | come name => exact ⟨_, h.come name⟩
  | take name => exact ⟨_, h.take hallows.1⟩
  | leave name =>
    have hmem : name ∈ scene.holding := hallows
    exact ⟨_, h.fewer (List.mem_append_left _ hmem)
      (List.Perm.of_eq (List.erase_append_left _ hmem))⟩
  | quit name =>
    have hmem : name ∈ scene.waiting := hallows
    have herase : ((scene.holding ++ scene.waiting).erase name).Perm
        (scene.waiting.erase name ++ scene.holding) := by
      rw [← List.erase_append_left _ hmem]
      exact List.perm_append_comm.erase name
    exact ⟨_, h.fewer (List.mem_append_right _ hmem) (herase.trans List.perm_append_comm)⟩

theorem run (h : scene.Orderly lifetime interval store) (hlifetime : 0 < lifetime)
    {events : List Event} (hallows : scene.AllowsAll events) :
    ∃ store', (scene.run events).Orderly lifetime interval store' := by
  induction events generalizing scene store with
  | nil => exact ⟨store, h⟩
  | cons event rest ih =>
    obtain ⟨store', h'⟩ := h.after hlifetime hallows.1
    exact ih h' hallows.2

/-- Right after a record is saved, nothing is stored that had run out an interval before. -/
theorem expires_of_save (h : scene.Orderly lifetime interval store) (hlifetime : 0 < lifetime)
    (hinterval : 0 < interval) {name : Text} {record : Record} {sessions : Sessions}
    (hsave : Sessions.save name record scene.sessions = (.ok (), sessions)) {entry : Text × Stored}
    (hentry : entry ∈ sessions.stored) :
    scene.sessions.now - min interval lifetime < entry.2.expires := by
  cases hwrite : record.write with
  | error fault =>
    simp only [Sessions.save, hwrite] at hsave
    cases (Prod.mk.inj hsave).1
  | ok raw =>
    simp only [Sessions.save, hwrite, h.kept] at hsave
    obtain ⟨-, rfl⟩ := Prod.mk.inj hsave
    rw [← h.pace]
    exact MemoryStore.expires_of_mem_save h.swept (h.lasting ▸ hlifetime)
      (h.pace ▸ lt_min hinterval hlifetime) hentry

end Orderly

/-- An event leaves what has not run out, unless that is deleted or saved anew. -/
def Spares (lifetime : Rat) (scene : Scene) (event : Event) : Prop :=
  ∀ name raw expires, scene.sessions.kept? name = some (raw, some expires) →
    scene.sessions.now < expires →
    (scene.after event).sessions.kept? name = some (raw, some expires) ∨
      event = .act (.delete name) ∨
      ∃ record written, event = .act (.save name record) ∧ record.write = .ok written ∧
        (scene.after event).sessions.kept? name =
          some (written, some (scene.sessions.now + lifetime))

theorem Orderly.spares (h : scene.Orderly lifetime interval store) (event : Event) :
    scene.Spares lifetime event := by
  intro name raw expires hkept hahead
  cases event with
  | act act =>
    rcases Sessions.kept?_after h.inMemory hkept hahead act with
      hsame | rfl | ⟨record, written, rfl, hwrite, hsaved⟩
    · exact .inl hsame
    · exact .inr (.inl rfl)
    · exact .inr (.inr ⟨record, written, rfl, hwrite, hsaved⟩)
  | come other => exact .inl (((Sessions.fades_enter other scene.sessions).kept name).kept hkept hahead)
  | take other => exact .inl hkept
  | leave other => exact .inl ((Sessions.kept?_leave other scene.sessions name).trans hkept)
  | quit other => exact .inl ((Sessions.kept?_leave other scene.sessions name).trans hkept)

/-- Nothing piles up in a memory: whatever has happened there, right after the next record is saved
nothing is stored that had run out an interval before; nothing that has not run out is ever taken
away but by being deleted or saved anew; and the table of locks has just the names whose locks are
held or waited for. -/
theorem nothing_piles_up {lifetime interval : Rat} (hlifetime : 0 < lifetime)
    (hinterval : 0 < interval) (start : Rat) (secrets : Secrets) {events : List Event}
    (hallows : (opening lifetime interval start secrets).AllowsAll events) :
    let scene := (opening lifetime interval start secrets).run events
    (∀ name record sessions, Sessions.save name record scene.sessions = (.ok (), sessions) →
      ∀ entry ∈ sessions.stored,
        scene.sessions.now - min interval lifetime < entry.2.expires) ∧
    (∀ event, scene.Spares lifetime event) ∧
    ∀ name, scene.sessions.HasLock name ↔ name ∈ scene.holding ∨ name ∈ scene.waiting := by
  intro scene
  obtain ⟨store, horderly⟩ :=
    (orderly_opening lifetime interval start secrets).run hlifetime hallows
  refine ⟨fun name record sessions hsave entry => horderly.expires_of_save hlifetime hinterval hsave,
    horderly.spares, fun name => ?_⟩
  rw [Sessions.HasLock, horderly.kept, ← List.mem_append]
  exact horderly.attended.has_iff name

/-- Somebody saves a record under a lock for which another one waits, and only long after the record
has run out saves the next one and gives the lock back. -/
def longVisit : List Event :=
  [.come "a", .take "a", .come "a", .act (.save "a" (textRecord "!")), .act (.wait 61),
    .act (.save "b" (textRecord "?")), .leave "a"]

/-- The lock that is still waited for is in the table.  Of all that is stored after the next save
nothing had run out ten seconds before it, and what is kept for longer stays as time goes on. -/
theorem long_visit_swept :
    let scene := (opening 60 10 1000 Secrets.start).run longVisit
    (opening 60 10 1000 Secrets.start).AllowsAll longVisit ∧
    (scene.sessions.HasLock "a" ∧ ¬ scene.sessions.HasLock "b") ∧
    (∀ entry ∈ (Sessions.save "c" (textRecord "!") scene.sessions).2.stored,
      1061 - min 10 60 < entry.2.expires) ∧
    scene.Spares 60 (.act (.wait 5)) := by
  intro scene
  have hallows : (opening 60 10 1000 Secrets.start).AllowsAll longVisit :=
    ⟨trivial, ⟨List.mem_cons_self, List.not_mem_nil⟩, trivial, trivial,
      (by decide : (0 : Rat) ≤ 61), trivial, List.mem_cons_self, trivial⟩
  obtain ⟨hswept, hspares, hlocks⟩ :=
    nothing_piles_up (by decide) (by decide) 1000 Secrets.start hallows
  refine ⟨hallows, ⟨(hlocks "a").mpr (.inr List.mem_cons_self), fun hlock => ?_⟩, ?_, hspares _⟩
  · exact absurd ((hlocks "b").mp hlock) (by decide +kernel)
  · have hnow : scene.sessions.now = 1061 := by decide +kernel
    rw [← hnow]
    exact hswept "c" (textRecord "!") _ rfl

end Scene

end VeiledGateway
