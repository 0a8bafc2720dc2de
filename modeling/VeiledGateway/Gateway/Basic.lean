/-
  A gateway: what all its requests are answered with.
-/
import VeiledGateway.Config.Basic
import VeiledGateway.Gateway.Request
import VeiledGateway.Gateway.Response
import VeiledGateway.Gateway.Route
import VeiledGateway.LinkRoute

set_option autoImplicit false

namespace VeiledGateway

structure Gateway where
  assets : Assets
  settings : Settings
  links : LinkRoute
  rules : List Rule
  /-- How many zeros a new challenge demands. -/
  difficulty : Int
  /-- Patterns of the user agents that need not solve a challenge. -/
  crawlers : List Text
  /-- A document that cannot be rewritten is sent as it is. -/
  passesThrough : Bool
  /-- There is a secret with which the names of sessions are signed. -/
  hasSecret : Bool
  /-- The signed name of a session has any time to be taken back. -/
  namesLast : Bool
  tunnelPrefix : Text
  /-- The service behind the tunnel. -/
  tunnel : Option (Request → Response)

namespace Gateway

/-- The gateway of a configuration, before files on a disk and a tunnel perhaps. -/
def ofConfig (config : Config) (disk : Disk) (tunnel : Option (Request → Response)) :
    Except Config.Fault Gateway := do
  let roots ← config.rootPlaces disk
  let linkPrefix ← match config.linkPrefix with
    | some t => pure t
    | none => throw (.nothingThere "strip")
  let tunnelPrefix ← match config.tunnelPrefix with
    | some t => pure t
    | none => throw (.nothingThere "startswith")
  return {
    assets := ⟨disk, roots⟩
    settings := config.settings
    links := LinkRoute.ofPrefix linkPrefix
    rules := Rule.all linkPrefix
    difficulty := config.difficulty
    crawlers := config.allowedCrawlers
    passesThrough := config.transformFailure == some "passthrough"
    hasSecret := !(config.secretKey.getD []).isEmpty
    namesLast := 0 ≤ config.sessionSeconds
    tunnelPrefix
    tunnel }

/-! ## The tunnel -/

/-- A target is behind the tunnel; it is compared byte by byte. -/
def isTunnelled (tunnelPrefix target : Text) : Bool :=
  let bytes := Request.bytewise target
  Text.startsWith bytes tunnelPrefix
    || bytes == (tunnelPrefix.reverse.dropWhile fun (c : CodePoint) => c == '/').reverse

/-- The response to a request behind the tunnel. -/
def throughTunnel (gateway : Gateway) (request : Request) : Response :=
  match gateway.tunnel with
  | some service => (service request).forMethod request.method
  | none => .bare 503

end Gateway

end VeiledGateway
