/-
  A store of sessions in memory.

  What is stored under a name is forgotten when its time has run out.  What has run out is removed
  when it is asked for, and all of it at most once in each interval, when something is stored.  A
  name is in the table of locks as long as someone holds its lock or waits for it.
-/
import VeiledGateway.Text.Entries

set_option autoImplicit false

namespace VeiledGateway

/-- A text in the store, and the time from which it is forgotten. -/
structure Stored where
  raw : Text
  expires : Rat
deriving DecidableEq

structure MemoryStore where
  /-- How long a text is kept, in seconds. -/
  lifetime : Rat
  /-- The least time between two sweeps. -/
  interval : Rat
  entries : Entries Stored
  /-- The time from which the next text stored brings a sweep. -/
  nextSweep : Rat
  /-- How many hold or await the lock of a name. -/
  locks : Entries Nat

namespace MemoryStore

/-- The empty store at a time; no interval is longer than a lifetime. -/
def start (lifetime interval now : Rat) : MemoryStore :=
  let interval := if interval ≤ lifetime then interval else lifetime
  { lifetime, interval, entries := [], nextSweep := now + interval, locks := [] }

/-- What is stored under a name, and the store after it has been asked for. -/
def load (store : MemoryStore) (now : Rat) (name : Text) : Option Text × MemoryStore :=
  match Entries.get? store.entries name with
  | none => (none, store)
  | some stored =>
    if stored.expires ≤ now then (none, { store with entries := Entries.erase store.entries name })
    else (some stored.raw, store)

/-- The store without what has run out. -/
def sweep (store : MemoryStore) (now : Rat) : MemoryStore :=
  { store with
    entries := store.entries.filter fun entry => now < entry.2.expires
    nextSweep := now + store.interval }

/-- The store with a text under a name, whatever else it holds. -/
def put (store : MemoryStore) (now : Rat) (name raw : Text) : MemoryStore :=
  { store with entries := Entries.put store.entries name ⟨raw, now + store.lifetime⟩ }

/-- The store after a text has been stored under a name, with a sweep before it if one is due. -/
def save (store : MemoryStore) (now : Rat) (name raw : Text) : MemoryStore :=
  (if store.nextSweep ≤ now then store.sweep now else store).put now name raw

def delete (store : MemoryStore) (name : Text) : MemoryStore :=
  { store with entries := Entries.erase store.entries name }

/-- One more holds or awaits the lock of a name. -/
def enter (store : MemoryStore) (name : Text) : MemoryStore :=
  let users := (Entries.get? store.locks name).getD 0
  { store with locks := Entries.put store.locks name (users + 1) }

/-- One fewer holds or awaits the lock of a name. -/
def leave (store : MemoryStore) (name : Text) : MemoryStore :=
  let users := (Entries.get? store.locks name).getD 0
  { store with
    locks := if users ≤ 1 then Entries.erase store.locks name
      else Entries.put store.locks name (users - 1) }

end MemoryStore

end VeiledGateway
