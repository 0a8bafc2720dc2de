/-
  Requests, as they arrive.

  The target of a request is the path of its address with the escapes decoded once; it may begin
  with any number of slashes.  `Request.path`, which begins with exactly one, is what the gate and
  the routes see.
-/
import VeiledGateway.Asset.Reference
import VeiledGateway.Json.Printer
import VeiledGateway.Json.Reader
import VeiledGateway.Pipeline

set_option autoImplicit false

namespace VeiledGateway

structure Request where
  /-- The method in capitals. -/
  method : Text
  host : Text
  target : Text
  query : Text
  agent : Option Text
  mediaType : Option Text
  body : Text

namespace Request

/-- The host of an address that names none. -/
def localHost : Text := "localhost"

/-- A request for an address, with no body and no headers. -/
def ofAddress (method address : Text) : Except Fault Request := do
  let outer ← Reference.split address
  let inside := if outer.query.isEmpty then outer.path
    else outer.path ++ (CodePoint.ofChar '?') :: outer.query
  let inner ← Reference.split inside
  return {
    method := method.map CodePoint.asciiUpper
    host := if outer.host.isEmpty then localHost else outer.host
    target := Reference.unescape inner.path
    query := inner.query
    agent := none
    mediaType := none
    body := [] }

/-- The request with a header, whose name is written in any case; most headers tell nothing here. -/
def withHeader (request : Request) (name value : Text) : Request :=
  let name := name.map CodePoint.asciiLower
  if Text.eqString name "user-agent" then { request with agent := some value }
  else if Text.eqString name "content-type" then { request with mediaType := some value }
  else request

/-- The request with headers, of which a later one counts more. -/
def withHeaders (request : Request) (headers : List (Text × Text)) : Request :=
  headers.foldl (fun request header => request.withHeader header.1 header.2) request

/-- The path that is asked for. -/
def path (request : Request) : Text :=
  (CodePoint.ofChar '/') :: request.target.dropWhile fun (c : CodePoint) => c == '/'

/-- A text with each byte of its encoding as a code point. -/
def bytewise (t : Text) : Text :=
  (Utf8.encodeLossy t).map fun b => CodePoint.ofNat b.toNat

/-! ## The body -/

/-- The media type of forms. -/
def formType : Text := "application/x-www-form-urlencoded"

def jsonType : Text := "application/json"

/-- A form with these fields, every byte escaped. -/
def formText (fields : List (Text × Text)) : Text :=
  Text.join "&" (fields.map fun field =>
    Reference.escape field.1 ++ (CodePoint.ofChar '=') :: Reference.escape field.2)

/-- The request with a form as its body; without fields there is none. -/
def withForm (request : Request) (fields : List (Text × Text)) : Request :=
  if fields.isEmpty then request
  else { request with body := formText fields, mediaType := some formType }

/-- The request with a value as its body. -/
def withJson (request : Request) (j : Json) : Request :=
  { request with body := j.toAscii, mediaType := some jsonType }

/-- The body is announced as JSON. -/
def isJson (request : Request) : Bool :=
  let mediaType := baseType request.mediaType
  mediaType == jsonType
    || Text.startsWith mediaType "application/" && Text.endsWith mediaType "+json"

def isForm (request : Request) : Bool :=
  baseType request.mediaType == formType

/-- The fields of a form in the order in which they were written. -/
def formFields (t : Text) : List (Text × Text) :=
  ((Text.fields '&' t).filter fun part => !part.isEmpty).map fun part =>
    let (name, value) := Text.cutAtCode '=' part
    (Reference.unescapeField name, Reference.unescapeField (value.getD []))

/-- The value that the body gives a name: of an object, or else of the first field of a form. -/
def given (request : Request) (name : Text) : Json :=
  let fields := if request.isJson then (Json.read? request.body).bind Json.object? else none
  match fields with
  | some fields => (Entries.get? fields name).getD .null
  | none =>
    if request.isForm then (((formFields request.body).lookup name).map Json.text).getD .null
    else .null

/-- The solution that is handed in, where a whole number stands for its digits. -/
def solution (request : Request) : Json :=
  match request.given "solution" with
  | .int i => .text (Text.ofInt i)
  | j => j

end Request

end VeiledGateway
