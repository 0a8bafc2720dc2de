/-
  Traffic: many visitors at one gateway, each of whom holds the name of a session at most.

  A visitor holds a name for each host that it asks.  The names are signed, so a visitor can show no
  name but one that it was given.
-/
import VeiledGateway.Gateway.Server

set_option autoImplicit false

namespace VeiledGateway

/-- A visitor, as it is known to one host. -/
structure Visitor where
  number : Int
  host : Text
deriving DecidableEq

namespace Visitor

/-- The name of a host without what stands before it and without its port, in lower case. -/
def hostName (host : Text) : Text :=
  let named := match Text.cutAtLast? '@' host with
    | some (_, rest) => rest
    | none => host
  (Text.cutAtCode ':' named).1.map CodePoint.asciiLower

end Visitor

/-- A request of a visitor, and the seed of the layouts that are drawn for it. -/
structure Arrival where
  number : Int
  request : Request
  seed : Int

/-- The visitor whose request arrives. -/
def Arrival.visitor (arrival : Arrival) : Visitor :=
  ⟨arrival.number, Visitor.hostName arrival.request.host⟩

/-- The sessions, and the names of sessions that visitors hold. -/
structure Traffic where
  sessions : Sessions
  held : List (Visitor × Text)

namespace Traffic

/-- The name of the session that a visitor can show. -/
def nameOf? (gateway : Gateway) (traffic : Traffic) (visitor : Visitor) : Option Text :=
  if gateway.namesLast then traffic.held.lookup visitor else none

/-- The names that visitors hold when one of them holds this name, or none. -/
def hold (held : List (Visitor × Text)) (visitor : Visitor) (name : Option Text) :
    List (Visitor × Text) :=
  let others := held.filter fun h => h.1 ≠ visitor
  match name with
  | some name => (visitor, name) :: others
  | none => others

/-- The response to a request that arrives, and the traffic after it. -/
def serve (gateway : Gateway) (traffic : Traffic) (arrival : Arrival) : Response × Traffic :=
  let visitor := arrival.visitor
  let (response, visit) := gateway.answer arrival.request {
    sessions := traffic.sessions
    session := traffic.nameOf? gateway visitor
    twister := Twister.ofSeed arrival.seed }
  (response, ⟨visit.sessions, hold traffic.held visitor visit.session⟩)

/-- The time goes on. -/
def wait (traffic : Traffic) (seconds : Rat) : Traffic :=
  let sessions := traffic.sessions
  { traffic with sessions := { sessions with now := sessions.now + seconds } }

end Traffic

end VeiledGateway
