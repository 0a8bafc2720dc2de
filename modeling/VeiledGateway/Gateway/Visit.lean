/-
  Visits: what a request finds and leaves behind, and what may keep it from being answered.

  A visit knows one session at most, by the name that its visitor holds.
-/
import VeiledGateway.Gate.Crawler
import VeiledGateway.Gateway.Response
import VeiledGateway.Session.Store

set_option autoImplicit false

namespace VeiledGateway

/-- What a refusal is answered with. -/
def Refusal.fields (refusal : Refusal) : List (Text × Json) :=
  [("error", .text refusal.message), ("reason", .text refusal.reason), ("success", .bool false)]

/-- What a request finds: the sessions, the name of its own, and the source of layouts. -/
structure Visit where
  sessions : Sessions
  session : Option Text
  twister : Twister

/-- What keeps a request from being answered. -/
inductive Trouble where
  /-- There is nothing for the path. -/
  | missing
  | gate (fault : GateFault)
  | session (fault : SessionFault)
  /-- The file of a path could not be looked for. -/
  | asset (fault : Fault)
  /-- A pattern of crawlers cannot be read. -/
  | pattern (bad : Crawler.BadPattern)
  /-- There is no secret, so no name of a session can be given out or taken back. -/
  | noSecret
  /-- A document could not be rewritten. -/
  | document (fault : Fault)

namespace Trouble

def missingMessage : Text := "Not found"

def sessionMessage : Text := "Session backend unavailable"

def documentMessage : Text := "Document could not be transformed"

def otherMessage : Text := "Internal server error"

/-- The response to a request that is not answered otherwise. -/
def response : Trouble → Response
  | missing => .failure 404 missingMessage
  | gate (.refused refusal) => .json 400 refusal.fields
  | session (.store (.unreachable _)) => .failure 500 otherMessage
  | session (.store _) => .failure 503 sessionMessage
  | document _ => .failure 500 documentMessage
  | _ => .failure 500 otherMessage

end Trouble

/-- A part of answering a request. -/
abbrev Handling (α : Type) := ExceptT Trouble (StateM Visit) α

namespace Handling

variable {α ε : Type}

/-- A result, or the trouble that its fault makes. -/
def orTrouble (ofFault : ε → Trouble) : Except ε α → Handling α
  | .ok a => pure a
  | .error fault => throw (ofFault fault)

/-- Work on the sessions. -/
def keep (work : Keeping Trouble α) : Handling α :=
  ExceptT.mk fun visit =>
    let (outcome, sessions) := work visit.sessions
    (outcome, { visit with sessions })

/-- The record of the session, if there is one. -/
def record? : Handling (Option Record) := do
  match (← get).session with
  | none => return none
  | some name =>
    keep fun s =>
      let (found, s) := Sessions.load name s
      (found.mapError .session, s)

/-- The name of the session; a visitor without one is given a new one, which takes a secret. -/
def sessionName (hasSecret : Bool) : Handling Text := do
  match (← get).session with
  | some name => return name
  | none =>
    let name ← keep fun s =>
      let (name, secrets) := s.secrets.sessionName
      (.ok name, { s with secrets })
    if !hasSecret then throw .noSecret
    modify fun visit => { visit with session := some name }
    return name

/-- Work on the record of a session, which is stored if the work does not fail. -/
def withRecord (name : Text) (work : Record → Keeping Trouble (α × Record)) : Handling α :=
  keep (Sessions.withRecord name .session work)

end Handling

end VeiledGateway
