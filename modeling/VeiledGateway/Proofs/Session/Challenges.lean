/-
  Challenges: what becomes of the challenges in the records that are kept.

  Where every text that is kept was written for a record, the challenge under a name can be told
  from the text alone.  It stays what it is (`HoldsAt`) unless it runs out, is given up, or a record
  with another one is stored.
-/
import VeiledGateway.Proofs.Session.Records

set_option autoImplicit false

namespace VeiledGateway.Sessions

/-- The record that is read of what is kept under a name, even if its time has run out. -/
def record? (s : Sessions) (name : Text) : Option Record :=
  (s.kept? name).bind fun kept => (Record.read kept.1 s.secrets).1.toOption

/-- The challenge in the record under a name. -/
def challenge? (s : Sessions) (name : Text) : Option Challenge :=
  (s.record? name).bind Record.challenge

/-- The session of a name has passed the gate. -/
def Passed (s : Sessions) (name : Text) : Prop :=
  ∃ record, s.record? name = some record ∧ record.passed = true

/-- All that is kept was written for a record. -/
def Written (s : Sessions) : Prop :=
  ∀ name raw expires, s.kept? name = some (raw, expires) → ∃ record : Record, record.write = .ok raw

/-- The sessions are such as a gateway leaves behind. -/
structure Orderly (s : Sessions) : Prop where
  single : s.Single
  written : s.Written

/-- Nothing is kept. -/
def Empty (s : Sessions) : Prop :=
  match s.store with
  | .memory store => store.entries = []
  | .remote _ service => service.entries = []

/-- The challenge under a name is the same, or its time had run out and it is gone. -/
def HoldsAt (s s' : Sessions) (name : Text) : Prop :=
  s'.challenge? name = s.challenge? name ∨ s'.challenge? name = none ∧ s.RunOut name

variable {s s' : Sessions} {name : Text}

/-! ## Starting -/

theorem Empty.memory (h : s.Empty) {store : MemoryStore} (hstore : s.store = .memory store) :
    store.entries = [] := by
  rw [Empty, hstore] at h
  exact h

theorem Empty.remote (h : s.Empty) {store : RemoteStore} {service : Service}
    (hstore : s.store = .remote store service) : service.entries = [] := by
  rw [Empty, hstore] at h
  exact h

theorem Empty.kept? (h : s.Empty) (name : Text) : s.kept? name = none := by
  cases hstore : s.store with
  | memory store =>
    rw [kept?_memory hstore, h.memory hstore]
    rfl
  | remote store service =>
    rw [kept?_remote hstore, h.remote hstore]
    rfl

theorem Empty.single (h : s.Empty) : s.Single := by
  cases hstore : s.store with
  | memory store =>
    rw [single_memory hstore, h.memory hstore]
    exact List.Pairwise.nil
  | remote store service =>
    rw [Single, hstore]
    trivial

theorem Empty.written (h : s.Empty) : s.Written := by
  intro name raw expires hkept
  rw [h.kept? name] at hkept
  cases hkept

theorem Empty.orderly (h : s.Empty) : s.Orderly :=
  ⟨h.single, h.written⟩

/-! ## Records -/

theorem passed_iff : s.Passed name ↔
    ∃ challenge, s.challenge? name = some challenge ∧ challenge.solved = true := by
  constructor
  · rintro ⟨record, hrecord, hpassed⟩
    cases hchallenge : record.challenge with
    | none => simp [Record.passed, Record.gateState, hchallenge] at hpassed
    | some challenge =>
      refine ⟨challenge, by rw [challenge?, hrecord, Option.bind_some, hchallenge], ?_⟩
      cases hsolved : challenge.solved with
      | false => simp [Record.passed, Record.gateState, hchallenge, hsolved] at hpassed
      | true => rfl
  · rintro ⟨challenge, hchallenge, hsolved⟩
    obtain ⟨record, hrecord, hof⟩ := Option.bind_eq_some_iff.mp hchallenge
    exact ⟨record, hrecord, by simp [Record.passed, Record.gateState, hof, hsolved]⟩

/-- What is read under a name is what was written there. -/
theorem record?_of_write {record : Record} {raw : Text} {expires : Option Rat}
    (hkept : s.kept? name = some (raw, expires)) (hwrite : record.write = .ok raw) :
    s.record? name = some record.settled := by
  rw [record?, hkept, Option.bind_some, Record.read_write hwrite]
  rfl

theorem challenge?_of_write {record : Record} {raw : Text} {expires : Option Rat}
    (hkept : s.kept? name = some (raw, expires)) (hwrite : record.write = .ok raw) :
    s.challenge? name = record.challenge := by
  rw [challenge?, record?_of_write hkept hwrite]
  rfl

theorem challenge?_of_none (h : s.kept? name = none) : s.challenge? name = none := by
  rw [challenge?, record?, h]
  rfl

/-- The record that the gateway loads is the one that is read here. -/
theorem record?_of_load {record : Record} (hwritten : s.Written)
    (h : load name s = (.ok (some record), s')) : s.record? name = some record := by
  obtain ⟨raw, expires, secrets, hkept, hread⟩ := load_eq_some h
  obtain ⟨written, hwrite⟩ := hwritten name raw expires hkept
  rw [Record.read_write hwrite] at hread
  rw [record?_of_write hkept hwrite]
  exact congrArg some (Except.ok.inj hread)

/-! ## What is kept all along -/

/-- Only what has faded does not hold its challenge, whatever the secrets are. -/
theorem FadesAt.holdsAt (hwritten : s.Written) (h : s.FadesAt s' name) : s.HoldsAt s' name := by
  rcases h with hsame | ⟨hgone, hrunOut⟩
  · refine .inl ?_
    cases hkept : s.kept? name with
    | none => rw [challenge?_of_none hkept, challenge?_of_none (hsame.trans hkept)]
    | some kept =>
      obtain ⟨raw, expires⟩ := kept
      obtain ⟨record, hwrite⟩ := hwritten name raw expires hkept
      rw [challenge?_of_write hkept hwrite, challenge?_of_write (hsame.trans hkept) hwrite]
  · exact .inr ⟨challenge?_of_none hgone, hrunOut⟩

theorem FadesAt.writtenAt (hwritten : s.Written) (h : s.FadesAt s' name) {raw : Text}
    {expires : Option Rat} (hkept : s'.kept? name = some (raw, expires)) :
    ∃ record : Record, record.write = .ok raw := by
  rcases h with hsame | ⟨hgone, -⟩
  · exact hwritten name raw expires (hsame ▸ hkept)
  · rw [hgone] at hkept
    cases hkept

theorem Fades.written (h : s.Fades s') (hwritten : s.Written) : s'.Written :=
  fun name _ _ hkept => (h.kept name).writtenAt hwritten hkept

theorem Fades.holdsAt (h : s.Fades s') (hwritten : s.Written) (name : Text) : s.HoldsAt s' name :=
  (h.kept name).holdsAt hwritten

theorem Stores.toWritten {record : Record} (h : s.Stores name record s') (hwritten : s.Written) :
    s'.Written := by
  intro other raw expires hkept
  by_cases hother : other = name
  · subst hother
    obtain ⟨written, _, hwrite, hstored⟩ := h.written
    rw [hstored] at hkept
    obtain ⟨rfl, -⟩ := Prod.mk.inj (Option.some.inj hkept)
    exact ⟨record, hwrite⟩
  · exact (h.others other hother).writtenAt hwritten hkept

theorem Stores.challenge? {record : Record} (h : s.Stores name record s') :
    s'.challenge? name = record.challenge := by
  obtain ⟨raw, expires, hwrite, hkept⟩ := h.written
  exact challenge?_of_write hkept hwrite

theorem Stores.holdsAt {record : Record} (h : s.Stores name record s') (hwritten : s.Written)
    {other : Text} (hother : other ≠ name) : s.HoldsAt s' other :=
  (h.others other hother).holdsAt hwritten

theorem Loses.written (h : s.Loses name s') (hwritten : s.Written) : s'.Written := by
  intro other raw expires hkept
  by_cases hother : other = name
  · subst hother
    rcases h.own with hsame | hgone
    · exact hwritten other raw expires (hsame ▸ hkept)
    · rw [hgone] at hkept
      cases hkept
  · exact hwritten other raw expires (h.others other hother ▸ hkept)

theorem Loses.holdsAt (h : s.Loses name s') (hwritten : s.Written) {other : Text}
    (hother : other ≠ name) : s.HoldsAt s' other :=
  FadesAt.holdsAt hwritten (.inl (h.others other hother))

theorem Loses.challenge? (h : s.Loses name s') (hwritten : s.Written) :
    s'.challenge? name = s.challenge? name ∨ s'.challenge? name = none := by
  rcases h.own with hsame | hgone
  · rcases FadesAt.holdsAt hwritten (.inl hsame) with hholds | ⟨hnone, -⟩
    · exact .inl hholds
    · exact .inr hnone
  · exact .inr (challenge?_of_none hgone)

/-- A record that is found has the challenge that is kept, unless that has run out. -/
theorem Finds.challenge {record : Record} (h : s.Finds name record s') (hwritten : s.Written) :
    record.challenge = s.challenge? name ∨ record.challenge = none ∧ s.RunOut name := by
  rcases h.found with ⟨raw, expires, secrets, hkept, hread⟩ | ⟨hgone, hnew⟩
  · obtain ⟨written, hwrite⟩ := hwritten name raw expires hkept
    rw [Record.read_write hwrite] at hread
    obtain rfl := Except.ok.inj hread
    rw [challenge?_of_write hkept hwrite]
    exact .inl rfl
  · rcases h.fades.kept name with hsame | ⟨-, hrunOut⟩
    · rw [challenge?_of_none (hsame.symm.trans hgone)]
      exact .inl hnew
    · exact .inr ⟨hnew, hrunOut⟩

/-! ## Steps that go on from others -/

theorem Fades.orderly (h : s.Fades s') (horderly : s.Orderly) : s'.Orderly :=
  ⟨h.single horderly.single, h.written horderly.written⟩

theorem Stores.orderly {record : Record} (h : s.Stores name record s') (horderly : s.Orderly) :
    s'.Orderly :=
  ⟨h.single horderly.single, h.toWritten horderly.written⟩

theorem Loses.orderly (h : s.Loses name s') (horderly : s.Orderly) : s'.Orderly :=
  ⟨h.single horderly.single, h.written horderly.written⟩

/-- What is held after some fading was held before, or its time had run out. -/
theorem Fades.holdsAt_trans {mid : Sessions} (h : s.Fades mid) (hwritten : s.Written)
    (h' : mid.HoldsAt s' name) : s.HoldsAt s' name := by
  rcases h' with hsame | ⟨hnone, hrunOut⟩
  · rcases h.holdsAt hwritten name with hbefore | ⟨hgone, hrunOut⟩
    · exact .inl (hsame.trans hbefore)
    · exact .inr ⟨hsame.trans hgone, hrunOut⟩
  · exact .inr ⟨hnone, h.runOut hrunOut⟩

/-- Where a record was found and one is stored, all other sessions hold their challenges. -/
theorem Finds.holdsAt_of_stores {record after : Record} {mid : Sessions} {other : Text}
    (hfinds : s.Finds name record mid) (hstores : mid.Stores name after s') (hwritten : s.Written)
    (hother : other ≠ name) : s.HoldsAt s' other :=
  hfinds.fades.holdsAt_trans hwritten
    (hstores.holdsAt (hfinds.fades.written hwritten) hother)

end VeiledGateway.Sessions
