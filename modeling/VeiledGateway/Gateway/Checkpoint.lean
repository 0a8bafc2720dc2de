/-
  The checkpoint: challenges are issued, solutions are handed in, and sessions are given up.
-/
import VeiledGateway.Gateway.Basic
import VeiledGateway.Gateway.Visit

set_option autoImplicit false

namespace VeiledGateway.Gateway

open Handling

/-- Work on a record: it gets a new challenge, unless it has passed. -/
def issueUnlessPassed (difficulty : Int) (record : Record) :
    Keeping Trouble (Option Challenge × Record) := fun s =>
  if record.passed then (.ok (none, record), s)
  else
    let (challenge, record, secrets) := record.issue difficulty s.secrets
    (.ok (some challenge, record), { s with secrets })

/-- Where a visitor is sent who has passed. -/
def startPath : Text := "/"

/-- The page with a new challenge; a visitor who has passed is sent to the site. -/
def challengePage (gateway : Gateway) : Handling Response := do
  let name ← sessionName gateway.hasSecret
  match ← withRecord name (issueUnlessPassed gateway.difficulty) with
  | some challenge =>
    return { Response.bare 200 with content := .page challenge }
  | none => return .redirect startPath

/-- Work on a record: a solution is handed in. -/
def submitTo (solution : Json) (record : Record) : Keeping Trouble (Unit × Record) := fun s =>
  (((record.submit solution).mapError .gate).map fun record => ((), record), s)

/-- A solution is handed in. -/
def verify (request : Request) : Handling Response := do
  match (← get).session with
  | none => throw (.gate (.refused .noActiveChallenge))
  | some name =>
    withRecord name (submitTo request.solution)
    return .success

/-- The session is forgotten. -/
def logout (gateway : Gateway) : Handling Response := do
  match (← get).session with
  | none => pure ()
  | some name =>
    keep fun s =>
      let (done, s) := Sessions.delete name s
      (done.mapError .session, s)
  if !gateway.hasSecret then throw .noSecret
  modify fun visit => { visit with session := none }
  return .success

/-- The gateway is alive. -/
def health : Response :=
  .json 200 [("status", .text "ok")]

/-- A file that belongs to the page with a challenge. -/
def bundled (request : Request) : Handling Response := do
  let path := (Text.dropPrefix? request.path Page.folder).getD []
  if Reference.namesWithin? path == some [Page.scriptName] then
    return .checked "application/javascript" .script
  else throw .missing

end VeiledGateway.Gateway
