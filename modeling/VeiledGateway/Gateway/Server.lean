/-
  Answering requests.

  What is behind the tunnel goes there untouched.  Every other request must be let in, and is then
  answered by the endpoint that its path and its method lead to.  The paths of the gate itself are open
  to all.  For every other path a visitor must be a crawler that is allowed, or have a session that has
  passed the gate.
-/
import VeiledGateway.Gateway.Checkpoint
import VeiledGateway.Gateway.Site

set_option autoImplicit false

namespace VeiledGateway

namespace Admission

/-- The paths that are open. -/
def openPaths : List Text := ["/challenge", "/verify", "/logout", "/healthz"]

/-- How the other paths begin that are open. -/
def openLead : Text := "/challenge/"

/-- Where a visitor is sent who is not let in. -/
def challengePath : Text := "/challenge"

/-- A path is open to all. -/
def isOpen (path : Text) : Bool :=
  openPaths.contains path || Text.startsWith path openLead

end Admission

namespace Gateway

open Handling

/-- A request is let in. -/
def admits (gateway : Gateway) (request : Request) : Handling Bool := do
  if Admission.isOpen request.path then return true
  if ← orTrouble .pattern (Crawler.isAllowed request.agent gateway.crawlers) then return true
  return match ← record? with
    | some record => record.passed
    | none => false

/-- The response of an endpoint. -/
def handle (gateway : Gateway) (request : Request) : Endpoint → Handling Response
  | .challenge => gateway.challengePage
  | .verify => verify request
  | .logout => gateway.logout
  | .health => return health
  | .link => gateway.serveLink request.path
  | .bundled => bundled request
  | .site => gateway.serve request.path

/-- The response to a request that has been let in. -/
def dispatch (gateway : Gateway) (request : Request) : Handling Response :=
  match Route.find gateway.rules request.method request.path with
  | .nowhere => throw .missing
  | .wrongMethod => return .allowing 405 (Route.allowed gateway.rules request.path)
  | .to endpoint =>
    if request.method.eqString "OPTIONS" then
      return .allowing 200 (Route.allowed gateway.rules request.path)
    else gateway.handle request endpoint

/-- The response to a request that is not behind the tunnel. -/
def respond (gateway : Gateway) (request : Request) : Handling Response := do
  if ← gateway.admits request then gateway.dispatch request
  else return .redirect Admission.challengePath

/-- The response to a request, and the visit after it. -/
def answer (gateway : Gateway) (request : Request) (visit : Visit) : Response × Visit :=
  if isTunnelled gateway.tunnelPrefix request.target then (gateway.throughTunnel request, visit)
  else
    let (outcome, visit) := (gateway.respond request).run.run visit
    let response := match outcome with
      | .ok response => response
      | .error trouble => trouble.response
    (response.forMethod request.method, visit)

end Gateway

end VeiledGateway
