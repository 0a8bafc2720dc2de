/-
  Recalling: what the stores of records give back.

  The store in memory is a shelf that lets go in time, however often it sweeps.  So is the store in a
  service whose keys expire.  What either gives back is the record that was saved last, exactly if all
  names in its tables have an encoding.
-/
import VeiledGateway.Proofs.Session.Settling
import VeiledGateway.Proofs.Session.Shelf
import VeiledGateway.Proofs.Session.Sight

set_option autoImplicit false

namespace VeiledGateway

/-! ## In memory -/

namespace Sessions

/-- The store of these sessions. -/
def shelf : Shelf Sessions where
  load := load
  save := save
  delete := delete
  wait seconds s := { s with now := s.now + seconds }

/-- Sessions that are kept in memory, of which there are none yet. -/
def inMemory (lifetime interval start : Rat) (secrets : Secrets) : Sessions :=
  ⟨.memory (MemoryStore.start lifetime interval start), start, secrets⟩

/-- What is kept under a name and has not run out, and when it will. -/
def shownUntil (s : Sessions) (name : Text) : Option (Text × Rat) :=
  (s.live? name).bind fun kept => kept.2.map fun time => (kept.1, time)

/-- The sessions are kept in memory, for this time, under names that stand once. -/
structure InMemory (lifetime : Rat) (s : Sessions) : Prop where
  single : s.Single
  manner : s.manner = .memory lifetime

variable {lifetime : Rat} {s s' : Sessions} {name : Text}

theorem InMemory.exists_store (h : s.InMemory lifetime) :
    ∃ store, s.store = .memory store := by
  have hmanner := h.manner
  unfold Sessions.manner at hmanner
  cases hstore : s.store with
  | memory store => exact ⟨store, rfl⟩
  | remote store service =>
    rw [hstore] at hmanner
    cases hmanner

theorem InMemory.reaches (h : s.InMemory lifetime) (kind : Text) : s.Reaches kind := by
  obtain ⟨store, hstore⟩ := h.exists_store
  exact reaches_of_memory hstore kind

theorem InMemory.expiry (h : s.InMemory lifetime) : s.expiry = some (s.now + lifetime) := by
  rw [expiry_eq, h.manner]

/-- All that is live in memory runs out some time. -/
theorem InMemory.live?_eq (h : s.InMemory lifetime) (name : Text) :
    s.live? name = (s.shownUntil name).map fun kept => (kept.1, some kept.2) := by
  obtain ⟨store, hstore⟩ := h.exists_store
  have hkept := kept?_memory hstore name
  rw [shownUntil]
  cases hget : Entries.get? store.entries name with
  | none =>
    rw [hget] at hkept
    rw [live?_of_none hkept]
    rfl
  | some stored =>
    rw [hget] at hkept
    rw [live?_of_kept hkept]
    split <;> rfl

theorem shownUntil_congr (h : s'.live? name = s.live? name) : s'.shownUntil name = s.shownUntil name := by
  rw [shownUntil, h, shownUntil]

/-- Memory lets go of a record when its time has run out, and not before. -/
theorem letsGo_shelf {lifetime : Rat} (hlifetime : 0 < lifetime) :
    shelf.LetsGo lifetime (InMemory lifetime) Sessions.now shownUntil where
  load name s hvalid _ := by
    have hfades := fades_load name s
    refine ⟨⟨hfades.single hvalid.single, (manner_load name s).trans hvalid.manner⟩, hfades.now, ?_⟩
    exact funext fun other => shownUntil_congr ((hfades.kept other).live? hfades.now)
  missing name s hvalid _ hnone := by
    have hraw := loadRaw_of_reaches (hvalid.reaches "get") name
    rw [hvalid.live?_eq, hnone] at hraw
    change (load name s).1 = _
    unfold load
    rcases hrun : loadRaw name s with ⟨outcome, mid⟩
    obtain rfl : outcome = .ok none := by rw [hrun] at hraw; exact hraw
    rfl
  found name s record raw time hvalid _ hshown hwrite := by
    have hlive := hvalid.live?_eq name
    rw [hshown] at hlive
    obtain ⟨hkept, hahead⟩ := Option.filter_eq_some_iff.mp hlive
    refine load_of_kept hkept (fun later hlater => ?_) (hvalid.reaches "get") hwrite
    obtain rfl := Option.some.inj hlater
    exact of_decide_eq_true hahead
  save name record raw s hvalid hwrite _ := by
    have hreaches := hvalid.reaches "set"
    have hstores : s.Stores name record (save name record s).2 :=
      stores_save hvalid.single (Prod.ext (save_of_write hwrite hreaches).1 rfl)
    refine ⟨⟨hstores.single hvalid.single, (manner_save name record s).trans hvalid.manner⟩,
      hstores.now, funext fun other => ?_⟩
    by_cases hother : other = name
    · subst hother
      have hlive : (save other record s).2.live? other = _ := live?_save hwrite hreaches
      have hahead : s.now < s.now + lifetime := lt_add_of_pos_right _ hlifetime
      rw [hvalid.expiry, isAhead, decide_eq_true hahead] at hlive
      rw [Function.update_self, shownUntil]
      change Option.bind ((save other record s).2.live? other) _ = _
      rw [hlive]
      rfl
    · rw [Function.update_of_ne hother]
      exact shownUntil_congr ((hstores.others other hother).live? hstores.now)
  unwritable name record fault s hwrite := by
    change (save name record s).2 = s
    rw [save, hwrite]
  delete name s hvalid _ := by
    have hloses := loses_delete name s
    refine ⟨⟨hloses.single hvalid.single, (manner_delete name s).trans hvalid.manner⟩,
      hloses.now, funext fun other => ?_⟩
    by_cases hother : other = name
    · subst hother
      rw [Function.update_self, shownUntil]
      change Option.bind ((delete other s).2.live? other) _ = none
      rw [live?_of_none (delete_of_reaches (hvalid.reaches "delete") other).2]
      rfl
    · rw [Function.update_of_ne hother]
      exact shownUntil_congr (FadesAt.live? (.inl (hloses.others other hother)) hloses.now)
  wait seconds s hvalid hforward := by
    refine ⟨⟨hvalid.single, hvalid.manner⟩, rfl, funext fun name => ?_⟩
    rw [shownUntil]
    change Option.bind (({ s with now := s.now + seconds } : Sessions).live? name) _ = _
    rw [live?_wait s name hforward, hvalid.live?_eq]
    cases s.shownUntil name with
    | none => rfl
    | some kept =>
      simp only [Option.map_some, Option.filter_some, isAhead]
      split <;> rfl

/-- Memory can always be reached. -/
theorem InMemory.not_refuses (h : s.InMemory lifetime) (act : Shelf.Act) : ¬ shelf.Refuses s act := by
  obtain ⟨store, hstore⟩ := h.exists_store
  rintro hrefused
  cases act with
  | save name record =>
    obtain ⟨reason, heq⟩ := hrefused
    simp only [shelf, save, hstore] at heq
    split at heq <;> cases heq
  | load name =>
    obtain ⟨reason, heq⟩ := hrefused
    simp only [shelf, load, loadRaw, hstore] at heq
    split at heq
    · rename_i hload
      cases (Prod.mk.inj hload).1
    · cases heq
    · simp only [decode] at heq
      split at heq <;> cases heq
  | delete name =>
    obtain ⟨reason, heq⟩ := hrefused
    simp only [shelf, delete, hstore] at heq
    cases heq
  | wait seconds => exact hrefused

theorem inMemory_start (lifetime interval start : Rat) (secrets : Secrets) :
    (inMemory lifetime interval start secrets).InMemory lifetime :=
  ⟨List.nodup_nil, rfl⟩

end Sessions

/-! ## In a service -/

/-- A service is a map whose keys expire, on the keys that a store builds: this is what those of its
answers mean that are no refusals. -/
structure Client.Expires {σ : Type} (client : Client σ) (store : RemoteStore) (wait : Rat → σ → σ)
    (now : σ → Rat) (shown : σ → Text → Option (Text × Rat)) : Prop where
  get (name : Text) (s s' : σ) (found : Option Text) :
    client.get (store.key name) s = (.ok found, s') →
      found = (shown s (store.key name)).map Prod.fst ∧ now s' = now s ∧
        ∀ other, shown s' (store.key other) = shown s (store.key other)
  set (name raw : Text) (s s' : σ) :
    client.set (store.key name) raw store.lifetime s = (.ok (), s') →
      now s' = now s ∧ shown s' (store.key name) = some (raw, now s + store.lifetime) ∧
        ∀ other, other ≠ name → shown s' (store.key other) = shown s (store.key other)
  delete (name : Text) (s s' : σ) :
    client.delete (store.key name) s = (.ok (), s') →
      now s' = now s ∧ shown s' (store.key name) = none ∧
        ∀ other, other ≠ name → shown s' (store.key other) = shown s (store.key other)
  wait (seconds : Rat) (s : σ) : 0 ≤ seconds →
    now (wait seconds s) = now s + seconds ∧
      ∀ name, shown (wait seconds s) (store.key name) =
        (shown s (store.key name)).filter fun kept => now s + seconds < kept.2

namespace RemoteStore

variable {σ : Type}

/-- A store in any service, with the secrets that reading a record may draw. -/
def shelf (store : RemoteStore) (client : Client σ) (wait : Rat → σ → σ) : Shelf (σ × Secrets) where
  load name := fun (s, secrets) =>
    match store.load client name s with
    | (.error fault, s) => (.error (.store fault), s, secrets)
    | (.ok none, s) => (.ok none, s, secrets)
    | (.ok (some raw), s) =>
      match Record.read raw secrets with
      | (.ok record, secrets) => (.ok (some record), s, secrets)
      | (.error _, secrets) => (.error (.store .corrupt), s, secrets)
  save name record := fun (s, secrets) =>
    match record.write with
    | .error fault => (.error (.unwritable fault), s, secrets)
    | .ok raw =>
      let (answer, s) := store.save client name raw s
      (answer.mapError .store, s, secrets)
  delete name := fun (s, secrets) =>
    let (answer, s) := store.delete client name s
    (answer.mapError .store, s, secrets)
  wait seconds := fun (s, secrets) => (wait seconds s, secrets)

/-- Sessions that are kept in a service. -/
def sessions (store : RemoteStore) (now : Rat) (s : Service × Secrets) : Sessions :=
  ⟨.remote store s.1, now, s.2⟩

/-- Sessions do with their service what the store does with any. -/
theorem sessions_shelf (store : RemoteStore) (wait : Rat → Service → Service) (now : Rat)
    (s : Service × Secrets) (name : Text) (record : Record) :
    let shelf := store.shelf Service.client wait
    Sessions.load name (store.sessions now s) =
        ((shelf.load name s).1, store.sessions now (shelf.load name s).2) ∧
      Sessions.save name record (store.sessions now s) =
        ((shelf.save name record s).1, store.sessions now (shelf.save name record s).2) ∧
      Sessions.delete name (store.sessions now s) =
        ((shelf.delete name s).1, store.sessions now (shelf.delete name s).2) := by
  obtain ⟨service, secrets⟩ := s
  refine ⟨?_, ?_, rfl⟩
  · simp only [Sessions.load, Sessions.loadRaw, sessions, shelf]
    rcases store.load Service.client name service with ⟨fault | _ | raw, after⟩
    · rfl
    · rfl
    · simp only [Except.mapError, Sessions.decode]
      rcases Record.read raw secrets with ⟨issues | found, rest⟩ <;> rfl
  · simp only [Sessions.save, sessions, shelf]
    cases record.write <;> rfl

variable {store : RemoteStore} {client : Client σ} {wait : Rat → σ → σ} {name : Text}
  {s : σ × Secrets}

/-! A refusal of the service makes the store unavailable, whatever was asked. -/

variable {reason : Refused}

theorem load_of_refusal (h : (client.get (store.key name) s.1).1 = .error reason) :
    ((store.shelf client wait).load name s).1 = .error (.store (.unavailable reason)) := by
  simp only [shelf, load, h, Except.mapError]

theorem save_of_refusal {record : Record} {raw : Text} (hwrite : record.write = .ok raw)
    (h : (client.set (store.key name) raw store.lifetime s.1).1 = .error reason) :
    ((store.shelf client wait).save name record s).1 = .error (.store (.unavailable reason)) := by
  simp only [shelf, hwrite, save, h, Except.mapError]

theorem delete_of_refusal (h : (client.delete (store.key name) s.1).1 = .error reason) :
    ((store.shelf client wait).delete name s).1 = .error (.store (.unavailable reason)) := by
  simp only [shelf, delete, h, Except.mapError]

theorem not_refused_load {found : Option Text} (h : (client.get (store.key name) s.1).1 = .ok found) :
    ¬ Shelf.Refused ((store.shelf client wait).load name s).1 := by
  rintro ⟨reason, heq⟩
  simp only [shelf, load, h, Except.mapError] at heq
  split at heq
  · rename_i hanswer
    cases (Prod.mk.inj hanswer).1
  · cases heq
  · split at heq <;> cases heq

/-- Whatever is read of the answer, the service is left as the answer left it. -/
theorem load_service (s : σ × Secrets) :
    ((store.shelf client wait).load name s).2.1 = (client.get (store.key name) s.1).2 := by
  obtain ⟨service, secrets⟩ := s
  simp only [shelf, load]
  rcases (client.get (store.key name) service).1 with reason | _ | raw
  · rfl
  · rfl
  · simp only [Except.mapError]
    split <;> rfl

/-- What a store shows in a service whose keys expire. -/
def shownIn (store : RemoteStore) (shown : σ → Text → Option (Text × Rat)) (s : σ × Secrets)
    (name : Text) : Option (Text × Rat) :=
  shown s.1 (store.key name)

theorem shownIn_update {shown : σ → Text → Option (Text × Rat)} {s s' : σ × Secrets}
    {kept : Option (Text × Rat)} (hown : shown s'.1 (store.key name) = kept)
    (hothers : ∀ other, other ≠ name → shown s'.1 (store.key other) = shown s.1 (store.key other)) :
    store.shownIn shown s' = Function.update (store.shownIn shown s) name kept := by
  funext other
  by_cases hother : other = name
  · subst hother
    rw [Function.update_self]
    exact hown
  · rw [Function.update_of_ne hother]
    exact hothers other hother

/-- A store lets go of its records in time if the service does. -/
theorem letsGo_shelf {now : σ → Rat} {shown : σ → Text → Option (Text × Rat)}
    (h : client.Expires store wait now shown) :
    (store.shelf client wait).LetsGo store.lifetime (fun _ => True) (fun s => now s.1)
      (store.shownIn shown) where
  load name s _ hanswers := by
    rcases hget : client.get (store.key name) s.1 with ⟨reason | found, after⟩
    · exact absurd ⟨reason, load_of_refusal (congrArg Prod.fst hget)⟩ hanswers
    · obtain ⟨-, hnow, hshown⟩ := h.get name s.1 after found hget
      refine ⟨trivial, ?_, funext fun other => ?_⟩
      · rw [load_service, hget, hnow]
      · rw [shownIn, load_service, hget]
        exact hshown other
  missing name s _ hanswers hnone := by
    rcases hget : client.get (store.key name) s.1 with ⟨reason | found, after⟩
    · exact absurd ⟨reason, load_of_refusal (congrArg Prod.fst hget)⟩ hanswers
    · obtain ⟨hfound, -, -⟩ := h.get name s.1 after found hget
      obtain rfl : found = none := by rw [hfound]; exact congrArg (Option.map Prod.fst) hnone
      simp only [shelf, load, hget, Except.mapError]
  found name s record raw time _ hanswers hshown hwrite := by
    rcases hget : client.get (store.key name) s.1 with ⟨reason | found, after⟩
    · exact absurd ⟨reason, load_of_refusal (congrArg Prod.fst hget)⟩ hanswers
    · obtain ⟨hfound, -, -⟩ := h.get name s.1 after found hget
      obtain rfl : found = some raw := by rw [hfound]; exact congrArg (Option.map Prod.fst) hshown
      simp only [shelf, load, hget, Except.mapError, Record.read_write hwrite]
  save name record raw s _ hwrite hanswers := by
    rcases hset : client.set (store.key name) raw store.lifetime s.1 with ⟨reason | done, after⟩
    · exact absurd ⟨reason, save_of_refusal hwrite (congrArg Prod.fst hset)⟩ hanswers
    · obtain ⟨hnow, hown, hothers⟩ := h.set name raw s.1 after hset
      have hafter : ((store.shelf client wait).save name record s).2 = (after, s.2) := by
        simp only [shelf, hwrite, save, hset]
      rw [hafter]
      exact ⟨trivial, hnow, shownIn_update hown hothers⟩
  unwritable name record fault s hwrite := by
    simp only [shelf, hwrite]
  delete name s _ hanswers := by
    rcases hdelete : client.delete (store.key name) s.1 with ⟨reason | done, after⟩
    · exact absurd ⟨reason, delete_of_refusal (congrArg Prod.fst hdelete)⟩ hanswers
    · obtain ⟨hnow, hown, hothers⟩ := h.delete name s.1 after hdelete
      have hafter : ((store.shelf client wait).delete name s).2 = (after, s.2) := by
        simp only [shelf, delete, hdelete]
      rw [hafter]
      exact ⟨trivial, hnow, shownIn_update hown hothers⟩
  wait seconds s _ hforward := by
    obtain ⟨hnow, hshown⟩ := h.wait seconds s.1 hforward
    exact ⟨trivial, hnow, funext hshown⟩

end RemoteStore

/-! ## What is given back -/

/-- A load gives the record that should be found as it is read after it was written.  So it gives
just that record exactly if all names in its tables have an encoding. -/
def Shelf.Gives (outcome : Except SessionFault (Option Record)) (found : Option Record) : Prop :=
  outcome = .ok (found.map Record.settled) ∧
    (outcome = .ok found ↔ ∀ record ∈ found, record.PlainNames)

theorem Shelf.gives_of_settled {outcome : Except SessionFault (Option Record)} {found : Option Record}
    (hsingle : ∀ record ∈ found, record.Single) (h : outcome = .ok (found.map Record.settled)) :
    Shelf.Gives outcome found := by
  refine ⟨h, ?_⟩
  rw [h, Except.ok.injEq]
  cases found with
  | none => simp
  | some record =>
    rw [Option.map_some, Option.some.injEq, Record.settled_eq_self_iff (hsingle record rfl)]
    simp

/-- What should be found was saved. -/
theorem Shelf.mem_of_remembered {lifetime start : Rat} {name : Text} {acts : List Act} {record : Record}
    (h : record ∈ remembered lifetime name start acts) : .save name record ∈ acts := by
  have hfold : ∀ memory : Memory, ∀ time,
      (acts.foldl (Memory.after lifetime name) memory).last = some (record, time) →
        (∃ time, memory.last = some (record, time)) ∨ .save name record ∈ acts := by
    clear h
    induction acts with
    | nil => exact fun memory time h => .inl ⟨time, h⟩
    | cons act rest ih =>
      intro memory time h
      rcases ih _ time h with ⟨before, hbefore⟩ | hrest
      · cases act with
        | save other saved =>
          rw [Memory.after] at hbefore
          split at hbefore
          · rename_i hname
            subst hname
            split at hbefore
            · obtain ⟨rfl, -⟩ := Prod.mk.inj (Option.some.inj hbefore)
              exact .inr List.mem_cons_self
            · exact .inl ⟨before, hbefore⟩
          · exact .inl ⟨before, hbefore⟩
        | load other => exact .inl ⟨before, hbefore⟩
        | delete other =>
          rw [Memory.after] at hbefore
          split at hbefore
          · cases hbefore
          · exact .inl ⟨before, hbefore⟩
        | wait seconds => exact .inl ⟨before, hbefore⟩
      · exact .inr (List.mem_cons_of_mem _ hrest)
  obtain ⟨saved, hlive, rfl⟩ := Option.map_eq_some_iff.mp h
  obtain ⟨hlast, -⟩ := Option.filter_eq_some_iff.mp hlive
  rcases hfold ⟨start, none⟩ saved.2 hlast with ⟨time, hnone⟩ | hmem
  · cases hnone
  · exact hmem

/-- The time, and what is under each key until when. -/
structure TimedService where
  now : Rat
  entries : Entries Stored

namespace TimedService

/-- What is under a key and has not run out. -/
def shown (s : TimedService) (key : Text) : Option (Text × Rat) :=
  ((Entries.get? s.entries key).filter fun stored => s.now < stored.expires).map
    fun stored => (stored.raw, stored.expires)

def client : Client TimedService where
  get key s := (.ok ((s.shown key).map Prod.fst), s)
  set key raw seconds s :=
    (.ok (), { s with entries := Entries.put s.entries key ⟨raw, s.now + seconds⟩ })
  delete key s := (.ok (), { s with entries := Entries.erase s.entries key })
  ping s := (.ok (), s)
  lock _ _ _ s := (.ok (), s)
  acquire _ s := (.ok true, s)
  release _ s := (.ok (), s)

def wait (seconds : Rat) (s : TimedService) : TimedService :=
  { s with now := s.now + seconds }

theorem expires_client {store : RemoteStore} (hlifetime : 0 < store.lifetime) :
    client.Expires store wait now shown where
  get name s s' found h := by
    obtain ⟨hfound, rfl⟩ := Prod.mk.inj h
    exact ⟨(Except.ok.inj hfound).symm, rfl, fun _ => rfl⟩
  set name raw s s' h := by
    obtain ⟨-, rfl⟩ := Prod.mk.inj h
    refine ⟨rfl, ?_, fun other hother => ?_⟩
    · have hlater : s.now < s.now + store.lifetime :=
        lt_add_of_pos_right _ (by exact_mod_cast hlifetime)
      rw [shown, Entries.get?_put_self, Option.filter_some, if_pos (decide_eq_true hlater)]
      rfl
    · rw [shown, shown, Entries.get?_put_of_ne _ _ (Sessions.key_ne store hother)]
  delete name s s' h := by
    obtain ⟨-, rfl⟩ := Prod.mk.inj h
    refine ⟨rfl, ?_, fun other hother => ?_⟩
    · rw [shown, Entries.get?_erase_self]
      rfl
    · rw [shown, shown, Entries.get?_erase_of_ne _ (Sessions.key_ne store hother)]
  wait seconds s hforward := by
    refine ⟨rfl, fun name => ?_⟩
    rw [shown, shown, wait]
    cases Entries.get? s.entries (store.key name) with
    | none => rfl
    | some stored =>
      by_cases hlater : s.now + seconds < stored.expires
      · have hlive : s.now < stored.expires :=
          lt_of_le_of_lt (le_add_of_nonneg_right hforward) hlater
        simp only [Option.filter_some, decide_eq_true hlater, decide_eq_true hlive, if_true,
          Option.map_some]
      · by_cases hlive : s.now < stored.expires
        · simp only [Option.filter_some, decide_eq_false hlater, decide_eq_true hlive, if_true,
            Option.map_some, Bool.false_eq_true, if_false, Option.map_none]
        · simp only [Option.filter_some, decide_eq_false hlater, decide_eq_false hlive,
            Bool.false_eq_true, if_false, Option.map_none, Option.filter_none]

/-- This service refuses nothing. -/
theorem not_refuses (store : RemoteStore) (s : TimedService × Secrets) (act : Shelf.Act) :
    ¬ (store.shelf client wait).Refuses s act := by
  cases act with
  | save name record =>
    rintro ⟨reason, heq⟩
    simp only [RemoteStore.shelf] at heq
    split at heq <;> cases heq
  | load name => exact RemoteStore.not_refused_load rfl
  | delete name =>
    rintro ⟨reason, heq⟩
    cases heq
  | wait seconds => exact id

end TimedService

/-- A record with one text that has a layout. -/
def textRecord (text : Text) : Record where
  key := "k"
  challenge := none
  mappings := { Mappings.empty with textChunks := [(text, "1")] }

/-- A record is saved, and while it lasts another one is saved elsewhere and deleted. -/
def saving (text : Text) : List Shelf.Act :=
  [.save "a" (textRecord text), .wait 6, .save "b" (textRecord "?"), .load "a", .delete "b"]

theorem forward_saving (text : Text) : ∀ act ∈ saving text, act.Forward := by
  intro act hact
  simp only [saving, List.mem_cons, List.not_mem_nil, or_false] at hact
  rcases hact with rfl | rfl | rfl | rfl | rfl
  · trivial
  · exact (by decide : (0 : Rat) ≤ 6)
  · trivial
  · trivial
  · trivial

theorem single_saving {text name : Text} {record : Record}
    (h : .save name record ∈ saving text) : record.Single := by
  have hsmall : ∀ text, (textRecord text).Single := by
    intro text table htable
    simp only [Record.tables, textRecord, List.mem_cons, List.not_mem_nil, or_false] at htable
    rcases htable with rfl | rfl | rfl | rfl | rfl <;> simp [Entries.Single, Mappings.empty]
  simp only [saving, List.mem_cons, List.not_mem_nil, or_false, Shelf.Act.save.injEq,
    reduceCtorEq, false_or, or_false] at h
  rcases h with ⟨-, rfl⟩ | ⟨-, rfl⟩
  · exact hsmall text
  · exact hsmall "?"

end VeiledGateway
