/-
  Routes: which part of the gateway answers a request, by its path and its method.

  A rule gives the segments of the paths that it is for.  Of the rules for a path the first one that
  takes the method counts.  The rules stand in an order in which a fixed segment comes before any
  one, and any one before the rest of a path.
-/
import VeiledGateway.Gateway.Page
import VeiledGateway.Text.Search

set_option autoImplicit false

namespace VeiledGateway

/-- A part of the gateway that answers requests. -/
inductive Endpoint where
  /-- The page with a challenge. -/
  | challenge
  /-- A solution is handed in. -/
  | verify
  /-- A session is given up. -/
  | logout
  /-- The gateway is alive. -/
  | health
  /-- A path that stands for a link. -/
  | link
  /-- A file that belongs to the page with a challenge. -/
  | bundled
  /-- A file of the site. -/
  | site
deriving DecidableEq

/-- A segment of a path in a rule. -/
inductive Segment where
  | fixed (t : Text)
  /-- Any one that is not empty. -/
  | one
  /-- All that is left, if it begins with no slash and breaks no line after its first code point. -/
  | rest
deriving DecidableEq

namespace Segment

/-- What is left of a path, as `rest` demands. -/
def isRest (t : Text) : Bool :=
  match t with
  | [] => false
  | c :: more => c != '/' && !List.contains more (CodePoint.ofChar '\n')

/-- A path has the segments of a rule. -/
def fits : List Segment → List Text → Bool
  | [], [] => true
  | fixed t :: segments, name :: names => t == name && fits segments names
  | one :: segments, name :: names => !name.isEmpty && fits segments names
  | [rest], names => isRest (Text.join "/" names)
  | _, _ => false

end Segment

/-- The segments of a path after the slash that it begins with. -/
def pathSegments (path : Text) : List Text :=
  Text.fields '/' (path.drop 1)

structure Rule where
  segments : List Segment
  methods : List Text
  endpoint : Endpoint
deriving DecidableEq

namespace Rule

/-- The methods of what may only be read. -/
def readMethods : List Text := ["GET", "HEAD", "OPTIONS"]

/-- The methods of what is done. -/
def writeMethods : List Text := ["OPTIONS", "POST"]

def reads (segments : List Segment) (endpoint : Endpoint) : Rule :=
  ⟨segments, readMethods, endpoint⟩

def writes (segments : List Segment) (endpoint : Endpoint) : Rule :=
  ⟨segments, writeMethods, endpoint⟩

/-- The rule is for a path. -/
def isFor (rule : Rule) (path : Text) : Bool :=
  Segment.fits rule.segments (pathSegments path)

def takes (rule : Rule) (method : Text) : Bool :=
  rule.methods.contains method

/-- A path with each two slashes made one. -/
def mergeSlashes : Text → Text
  | [] => []
  | [c] => [c]
  | c :: d :: rest =>
    if c == '/' && d == '/' then c :: mergeSlashes rest else c :: mergeSlashes (d :: rest)

/-- The fixed segments that the paths of links begin with. -/
def linkSegments (linkPrefix : Text) : List Segment :=
  let slash := CodePoint.ofChar '/'
  let lead := ((slash :: linkPrefix).reverse.dropWhile (· == slash)).reverse
  (pathSegments (mergeSlashes (lead ++ [slash]))).dropLast.map .fixed

/-- All rules, where links have a prefix. -/
def all (linkPrefix : Text) : List Rule :=
  [reads [.fixed "challenge"] .challenge,
    writes [.fixed "verify"] .verify,
    writes [.fixed "logout"] .logout,
    reads [.fixed "healthz"] .health,
    reads (linkSegments linkPrefix ++ [.one]) .link,
    reads [.fixed "challenge", .fixed "static", .rest] .bundled,
    reads [.fixed []] .site,
    reads [.rest] .site]

end Rule

/-- What comes of looking for the route of a request. -/
inductive Route where
  | to (endpoint : Endpoint)
  /-- There is something for the path, but not for the method. -/
  | wrongMethod
  | nowhere
deriving DecidableEq

namespace Route

/-- The route of a method and a path. -/
def find (rules : List Rule) (method path : Text) : Route :=
  let fitting := rules.filter (·.isFor path)
  match fitting.find? (·.takes method) with
  | some rule => .to rule.endpoint
  | none => if fitting.isEmpty then .nowhere else .wrongMethod

/-- The methods that a path has some rule for. -/
def allowed (rules : List Rule) (path : Text) : List Text :=
  let methods := (rules.filter (·.isFor path)).flatMap (·.methods)
  methods.eraseDups.mergeSort Text.le

end Route

end VeiledGateway
