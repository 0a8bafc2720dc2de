/-
  A store of sessions in a service of keys and values that all processes share.

  The store only builds keys and makes requests.  It knows the service by its requests, each of
  which may be refused.  One such service is in memory: it records the requests that it answers and
  refuses those that it is told to refuse, and it keeps what it is given without a limit of time.
-/
import VeiledGateway.Text.Entries

set_option autoImplicit false

namespace VeiledGateway

/-- Why a request was refused, in the words of the service. -/
abbrev Refused := Text

/-- The requests of a service with states `σ`. -/
structure Client (σ : Type) where
  /-- The value of a key. -/
  get : Text → σ → Except Refused (Option Text) × σ
  /-- A value is put under a key, for so many seconds. -/
  set : Text → Text → Int → σ → Except Refused Unit × σ
  delete : Text → σ → Except Refused Unit × σ
  ping : σ → Except Refused Unit × σ
  /-- A lock is made, which is given up after so many seconds, and which is awaited for so many. -/
  lock : Text → Nat → Nat → σ → Except Refused Unit × σ
  /-- Whether a lock that was made is got. -/
  acquire : Text → σ → Except Refused Bool × σ
  release : Text → σ → Except Refused Unit × σ

/-- What keeps a session from being loaded, stored or locked. -/
inductive StoreFault where
  | unavailable (reason : Refused)
  | lockUnavailable (reason : Refused)
  | lockTimeout
  /-- What is stored is no record. -/
  | corrupt
  /-- No lock could be made. -/
  | unreachable (reason : Refused)
deriving DecidableEq

def StoreFault.message : StoreFault → Text
  | .unavailable reason => ("Session backend unavailable: " : Text) ++ reason
  | .lockUnavailable reason => ("Session lock unavailable: " : Text) ++ reason
  | .lockTimeout => "Timed out waiting for session lock"
  | .corrupt => "Session record is corrupt"
  | .unreachable reason => reason

/-- How keys begin, and how many seconds a session is kept. -/
structure RemoteStore where
  lead : Text
  lifetime : Int
deriving DecidableEq

namespace RemoteStore

variable {σ : Type}

def defaultLead : Text := "cloakgate:"

/-- The key of a session. -/
def key (store : RemoteStore) (name : Text) : Text :=
  store.lead ++ ("sess:" : Text) ++ name

/-- The key of the lock of a session. -/
def lockKey (store : RemoteStore) (name : Text) : Text :=
  store.lead ++ ("lock:" : Text) ++ name

/-- After how many seconds a lock is given up. -/
def lockSeconds : Nat := 10

/-- How many seconds a lock is awaited. -/
def waitSeconds : Nat := 5

def load (store : RemoteStore) (client : Client σ) (name : Text) (s : σ) :
    Except StoreFault (Option Text) × σ :=
  let (answer, s) := client.get (store.key name) s
  (answer.mapError .unavailable, s)

def save (store : RemoteStore) (client : Client σ) (name raw : Text) (s : σ) :
    Except StoreFault Unit × σ :=
  let (answer, s) := client.set (store.key name) raw store.lifetime s
  (answer.mapError .unavailable, s)

def delete (store : RemoteStore) (client : Client σ) (name : Text) (s : σ) :
    Except StoreFault Unit × σ :=
  let (answer, s) := client.delete (store.key name) s
  (answer.mapError .unavailable, s)

/-- The lock of a session is got, or nothing. -/
def enter (store : RemoteStore) (client : Client σ) (name : Text) (s : σ) :
    Except StoreFault Unit × σ :=
  match client.lock (store.lockKey name) lockSeconds waitSeconds s with
  | (.error reason, s) => (.error (.unreachable reason), s)
  | (.ok (), s) =>
    match client.acquire (store.lockKey name) s with
    | (.error reason, s) => (.error (.lockUnavailable reason), s)
    | (.ok false, s) => (.error .lockTimeout, s)
    | (.ok true, s) => (.ok (), s)

/-- The lock of a session is released; a refusal does no harm, as the lock has been given up. -/
def leave (store : RemoteStore) (client : Client σ) (name : Text) (s : σ) : σ :=
  (client.release (store.lockKey name) s).2

/-- The service answers. -/
def ping (client : Client σ) (s : σ) : Bool × σ :=
  match client.ping s with
  | (.ok (), s) => (true, s)
  | (.error _, s) => (false, s)

end RemoteStore

/-! ## A service in memory -/

/-- A request that was answered. -/
inductive Call where
  | get (key : Text)
  | set (key : Text) (seconds : Int)
  | delete (key : Text)
  | ping
  | lock (key : Text) (seconds wait : Nat)
  | acquire (key : Text)
  | release (key : Text)
deriving DecidableEq

/-- The kind of a request. -/
def Call.name : Call → Text
  | .get _ => "get"
  | .set _ _ => "set"
  | .delete _ => "delete"
  | .ping => "ping"
  | .lock _ _ _ => "lock"
  | .acquire _ => "acquire"
  | .release _ => "release"

structure Service where
  entries : Entries Text
  /-- The requests answered, the last one first. -/
  calls : List Call
  /-- The kinds of requests that are refused. -/
  refusing : List Text
  /-- A lock that is asked for is free. -/
  lockFree : Bool

namespace Service

def start : Service := ⟨[], [], [], true⟩

def refusal : Refused := "refused"

/-- The answer to a request, unless requests of its kind are refused. -/
def answer {α : Type} (call : Call) (act : Service → α × Service) (service : Service) :
    Except Refused α × Service :=
  if service.refusing.contains call.name then (.error refusal, service)
  else
    let (a, service) := act { service with calls := call :: service.calls }
    (.ok a, service)

/-- The requests of the service. -/
def client : Client Service where
  get key := answer (.get key) fun s => (Entries.get? s.entries key, s)
  set key value seconds :=
    answer (.set key seconds) fun s => ((), { s with entries := Entries.put s.entries key value })
  delete key :=
    answer (.delete key) fun s => ((), { s with entries := Entries.erase s.entries key })
  ping := answer .ping fun s => ((), s)
  lock key seconds wait := answer (.lock key seconds wait) fun s => ((), s)
  acquire key := answer (.acquire key) fun s => (s.lockFree, s)
  release key := answer (.release key) fun s => ((), s)

end Service

end VeiledGateway
