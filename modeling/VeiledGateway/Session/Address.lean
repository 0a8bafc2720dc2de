/-
  The address of a remote store: which addresses can be used.

  An address has one of three schemes.  The parts after a question mark are options of the
  connection, and those of a known kind must be of that kind.
-/
import VeiledGateway.Asset.Reference
import VeiledGateway.Number.Decimal
import VeiledGateway.Number.Integer
import VeiledGateway.Text.Entries

set_option autoImplicit false

namespace VeiledGateway

inductive AddressFault where
  /-- There is no address. -/
  | missing
  | scheme
  | host (fault : Fault)
  | port (t : Text)
  | portRange
  | option (name : Text)
  | connections
deriving DecidableEq

/-- The words for a fault. -/
def AddressFault.message : AddressFault → Text
  | .missing => "RedisSessionStore needs a url or a client"
  | .scheme =>
    "Redis URL must specify one of the following schemes (redis://, rediss://, unix://)"
  | .host fault => fault.message
  | .port t => ("Port could not be cast to integer value as " : Text) ++ Text.quoted t
  | .portRange => "Port out of range 0-65535"
  | .option name => ("Invalid value for '" : Text) ++ name ++ ("' in connection URL." : Text)
  | .connections => "\"max_connections\" must be a positive integer"

namespace Address

def schemes : List Text :=
  List.map Text.ofString ["redis://", "rediss://", "unix://"]

/-- The options of a query; one without a value is none, and of one that comes twice the first value
holds. -/
def options (query : Text) : Entries Text :=
  (Text.fields '&' query).foldl (fun found part =>
    match Text.cutAtCode '=' part with
    | (name, some value) =>
      let name := Reference.unescapeField name
      if value.isEmpty || Entries.has found name then found
      else found ++ [(name, Reference.unescapeField value)]
    | (_, none) => found) []

def wholeOptions : List Text :=
  List.map Text.ofString ["db", "max_connections", "health_check_interval"]

def realOptions : List Text :=
  List.map Text.ofString ["socket_timeout", "socket_connect_timeout", "timeout"]

/-- An option of a known kind has a value of that kind. -/
def checkOption (name value : Text) : Except AddressFault Unit :=
  let value := Reference.unescape value
  if wholeOptions.contains name && (Text.toInt? value).isNone then .error (.option name)
  else if realOptions.contains name && (Decimal.real? value).isNone then .error (.option name)
  else .ok ()

/-- The text after the host, if there is a colon before it. -/
def portText (host : Text) : Text :=
  let body := match Text.cutAtLast? '@' host with
    | some (_, body) => body
    | none => host
  let tail := match Text.cutAtCode '[' body with
    | (_, some bracketed) => ((Text.cutAtCode ']' bracketed).2).getD []
    | (whole, none) => whole
  ((Text.cutAtCode ':' tail).2).getD []

def checkPort (host : Text) : Except AddressFault Unit :=
  let t := portText host
  if t.isEmpty then .ok ()
  else if t.all CodePoint.isAsciiDigit then
    if 65535 < Decimal.digitsValue t then .error .portRange else .ok ()
  else .error (.port t)

/-- An address can be used. -/
def check (address : Option Text) : Except AddressFault Unit := do
  let t := address.getD []
  if t.isEmpty then throw .missing
  if !schemes.any fun s => Text.startsWith t s then throw .scheme
  let parts ← (Reference.split t).mapError AddressFault.host
  let given := options parts.query
  given.forM fun o => checkOption o.1 o.2
  if !parts.scheme.eqString "unix" then checkPort parts.host
  match (Entries.get? given "max_connections").bind Text.toInt? with
  | some n => if n < 0 then throw .connections
  | none => pure ()

end Address

end VeiledGateway
