/-
  The record of a session: its key, its challenge, and the tables of its tokens and layouts.
-/
import VeiledGateway.Context
import VeiledGateway.Gate.Challenge
import VeiledGateway.Json.Value

set_option autoImplicit false

namespace VeiledGateway

structure Record where
  key : Text
  challenge : Option Challenge
  mappings : Mappings
deriving DecidableEq

/-- How far a session has come at the gate. -/
inductive GateState where
  | unchallenged
  | challenged
  | passed
deriving DecidableEq

def GateState.name : GateState → Text
  | .unchallenged => "unchallenged"
  | .challenged => "challenged"
  | .passed => "passed"

/-- Why a solution is not accepted. -/
inductive Refusal where
  | noActiveChallenge
  | invalidSolution
deriving DecidableEq

def Refusal.reason : Refusal → Text
  | .noActiveChallenge => "no_active_challenge"
  | .invalidSolution => "invalid_solution"

def Refusal.message : Refusal → Text
  | .noActiveChallenge => "No active challenge"
  | .invalidSolution => "Invalid solution"

/-- What keeps a session from passing the gate. -/
inductive GateFault where
  | refused (refusal : Refusal)
  | unchecked (fault : CheckFault)
deriving DecidableEq

namespace Record

def keyBytes : Nat := 16

/-- The record of a new session with this key. -/
def ofKey (key : Text) : Record :=
  ⟨key, none, Mappings.empty⟩

/-- The record of a new session. -/
def draw (secrets : Secrets) : Record × Secrets :=
  let (key, secrets) := secrets.hex keyBytes
  (ofKey key, secrets)

def gateState (record : Record) : GateState :=
  match record.challenge with
  | none => .unchallenged
  | some challenge => if challenge.solved then .passed else .challenged

def passed (record : Record) : Bool :=
  record.gateState = .passed

/-- The record with a new challenge in the place of any other. -/
def issue (record : Record) (difficulty : Int) (secrets : Secrets) : Challenge × Record × Secrets :=
  let (challenge, secrets) := Challenge.draw difficulty secrets
  (challenge, { record with challenge := some challenge }, secrets)

/-- The greatest length of a solution. -/
def maxSolution : Nat := 64

/-- The record after a solution has been handed in, which may be any value. -/
def submit (record : Record) (solution : Json) : Except GateFault Record :=
  match record.challenge with
  | none => .error (.refused .noActiveChallenge)
  | some challenge =>
    if challenge.solved then .error (.refused .noActiveChallenge)
    else
      match solution with
      | .text t =>
        if t.isEmpty || maxSolution < t.length then .error (.refused .invalidSolution)
        else
          match Challenge.check challenge.nonce t challenge.difficulty with
          | .error fault => .error (.unchecked fault)
          | .ok false => .error (.refused .invalidSolution)
          | .ok true => .ok { record with challenge := some { challenge with solved := true } }
      | _ => .error (.refused .invalidSolution)

/-- The context in which documents are rewritten for the session. -/
def context (record : Record) (twister : Twister) : Context :=
  Context.ofMappings record.key record.mappings twister

end Record

end VeiledGateway
