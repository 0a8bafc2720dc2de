/-
  Keeping sessions: records under names, in memory or in a service, with a lock for each name.

  What is done with a record under its lock is stored only if nothing goes wrong.
-/
import VeiledGateway.Session.Codec
import VeiledGateway.Session.MemoryStore
import VeiledGateway.Session.RemoteStore

set_option autoImplicit false

namespace VeiledGateway

inductive Store where
  | memory (store : MemoryStore)
  | remote (store : RemoteStore) (service : Service)

/-- The sessions that are kept, the time, and the source of secrets. -/
structure Sessions where
  store : Store
  now : Rat
  secrets : Secrets

/-- What goes wrong while sessions are kept. -/
inductive SessionFault where
  | store (fault : StoreFault)
  /-- A record has no written form. -/
  | unwritable (fault : Utf8.EncodeFault)
deriving DecidableEq

/-- Work on the sessions, which may fail after some of it is done. -/
abbrev Keeping (ε α : Type) := Sessions → Except ε α × Sessions

namespace Sessions

/-- The text that is kept under a name, even if its time has run out. -/
def raw? (s : Sessions) (name : Text) : Option Text :=
  match s.store with
  | .memory store => (Entries.get? store.entries name).map Stored.raw
  | .remote store service => Entries.get? service.entries (store.key name)

/-- The record in a text under a name. -/
def decode (s : Sessions) (raw : Text) : Except SessionFault Record × Sessions :=
  match Record.read raw s.secrets with
  | (.ok record, secrets) => (.ok record, { s with secrets })
  | (.error _, secrets) => (.error (.store .corrupt), { s with secrets })

/-- The text under a name. -/
def loadRaw (name : Text) : Keeping SessionFault (Option Text) := fun s =>
  match s.store with
  | .memory store =>
    let (raw, store) := store.load s.now name
    (.ok raw, { s with store := .memory store })
  | .remote store service =>
    let (answer, service) := store.load Service.client name service
    (answer.mapError .store, { s with store := .remote store service })

/-- The record under a name. -/
def load (name : Text) : Keeping SessionFault (Option Record) := fun s =>
  match loadRaw name s with
  | (.error fault, s) => (.error fault, s)
  | (.ok none, s) => (.ok none, s)
  | (.ok (some raw), s) =>
    let (record, s) := s.decode raw
    (record.map some, s)

/-- A record is stored under a name. -/
def save (name : Text) (record : Record) : Keeping SessionFault Unit := fun s =>
  match record.write with
  | .error fault => (.error (.unwritable fault), s)
  | .ok raw =>
    match s.store with
    | .memory store => (.ok (), { s with store := .memory (store.save s.now name raw) })
    | .remote store service =>
      let (answer, service) := store.save Service.client name raw service
      (answer.mapError .store, { s with store := .remote store service })

def delete (name : Text) : Keeping SessionFault Unit := fun s =>
  match s.store with
  | .memory store => (.ok (), { s with store := .memory (store.delete name) })
  | .remote store service =>
    let (answer, service) := store.delete Service.client name service
    (answer.mapError .store, { s with store := .remote store service })

def enter (name : Text) : Keeping SessionFault Unit := fun s =>
  match s.store with
  | .memory store => (.ok (), { s with store := .memory (store.enter name) })
  | .remote store service =>
    let (answer, service) := store.enter Service.client name service
    (answer.mapError .store, { s with store := .remote store service })

def leave (name : Text) (s : Sessions) : Sessions :=
  match s.store with
  | .memory store => { s with store := .memory (store.leave name) }
  | .remote store service =>
    { s with store := .remote store (store.leave Service.client name service) }

/-- The store can be reached. -/
def ping (s : Sessions) : Bool × Sessions :=
  match s.store with
  | .memory _ => (true, s)
  | .remote store service =>
    let (reached, service) := RemoteStore.ping Service.client service
    (reached, { s with store := .remote store service })

/-- Work under the lock of a name, which is left whatever comes of the work. -/
def locked {ε α : Type} (name : Text) (ofFault : SessionFault → ε) (work : Keeping ε α) :
    Keeping ε α := fun s =>
  match enter name s with
  | (.error fault, s) => (.error (ofFault fault), s)
  | (.ok (), s) =>
    let (outcome, s) := work s
    (outcome, leave name s)

/-- The record under a name, or a new one. -/
def loadOrDraw (name : Text) : Keeping SessionFault Record := fun s =>
  match load name s with
  | (.error fault, s) => (.error fault, s)
  | (.ok (some record), s) => (.ok record, s)
  | (.ok none, s) =>
    let (record, secrets) := Record.draw s.secrets
    (.ok record, { s with secrets })

/-- Work on the record under a name, under the lock of that name.  The record that comes of it is
stored; if the work fails nothing is. -/
def withRecord {ε α : Type} (name : Text) (ofFault : SessionFault → ε)
    (work : Record → Keeping ε (α × Record)) : Keeping ε α :=
  locked name ofFault fun s =>
    match loadOrDraw name s with
    | (.error fault, s) => (.error (ofFault fault), s)
    | (.ok record, s) =>
      match work record s with
      | (.error fault, s) => (.error fault, s)
      | (.ok (a, record), s) =>
        match save name record s with
        | (.error fault, s) => (.error (ofFault fault), s)
        | (.ok (), s) => (.ok a, s)

end Sessions

end VeiledGateway
