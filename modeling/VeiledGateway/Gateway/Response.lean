/-
  Responses, by what they carry.

  What a response carries is told apart by where it comes from: a response that carries a file of
  the site can be known from one that does not.
-/
import VeiledGateway.Gateway.Page
import VeiledGateway.Json.Printer

set_option autoImplicit false

namespace VeiledGateway

/-- What a response carries. -/
inductive Content where
  | empty
  | answer (j : Json)
  /-- The page with a challenge. -/
  | page (challenge : Challenge)
  /-- The script of that page. -/
  | script
  /-- What the service behind the tunnel says. -/
  | message (t : Text)
  /-- A document of the site, rewritten. -/
  | rewritten (t : Text)
  /-- A document of the site as it is, which could not be rewritten. -/
  | source (t : Text)
  /-- A file of the site. -/
  | file (bytes : List UInt8)

namespace Content

def textBytes (t : Text) : List UInt8 :=
  Utf8.encodeLossy t

/-- What is sent. -/
def bytes : Content → List UInt8
  | empty => []
  | answer j => textBytes (j.toAscii ++ ("\n" : Text))
  | page challenge => textBytes (Page.ofChallenge challenge)
  | script => textBytes Page.script
  | message t => textBytes t
  | rewritten t => textBytes t
  | source t => textBytes t
  | file bytes => bytes

/-- The content comes from a file of the site. -/
def isOfSite : Content → Bool
  | rewritten _ | source _ | file _ => true
  | _ => false

end Content

structure Response where
  status : Nat
  mediaType : Text
  /-- Where the visitor is sent. -/
  location : Option Text
  /-- Whether the response may be kept. -/
  caching : Option Text
  /-- The methods that are allowed, where that is told. -/
  allow : Option (List Text)
  content : Content

namespace Response

def html : Text := "text/html"

/-- A response that only tells its status. -/
def bare (status : Nat) : Response :=
  ⟨status, html, none, none, none, .empty⟩

/-- A visitor is sent elsewhere. -/
def redirect (location : Text) : Response :=
  { bare 302 with location := some location }

/-- A response that tells which methods are allowed. -/
def allowing (status : Nat) (methods : List Text) : Response :=
  { bare status with allow := some methods }

def jsonType : Text := "application/json"

def json (status : Nat) (fields : List (Text × Json)) : Response :=
  { bare status with mediaType := jsonType, content := .answer (.object fields) }

/-- What was asked for has been done. -/
def success : Response :=
  json 200 [("success", .bool true)]

/-- What was asked for has not been done. -/
def failure (status : Nat) (message : Text) : Response :=
  json status [("error", .text message), ("success", .bool false)]

/-- A response that may be kept only as long as it is asked for anew. -/
def checked (mediaType : Text) (content : Content) : Response :=
  { bare 200 with mediaType, caching := some "no-cache", content }

/-- A response that may not be kept. -/
def passing (mediaType : Text) (content : Content) : Response :=
  { bare 200 with mediaType, caching := some "no-store", content }

/-- Media types of texts that do not begin like one. -/
def textTypes : List Text :=
  List.map Text.ofString ["application/ecmascript", "application/javascript", "application/sql",
    "application/xml", "application/xml-dtd", "application/xml-external-parsed-entity"]

def isTextType (mediaType : Text) : Bool :=
  Text.startsWith mediaType "text/" || textTypes.contains mediaType
    || Text.endsWith mediaType "+xml"

/-- The media type with the encoding of a text. -/
def contentType (response : Response) : Text :=
  if isTextType response.mediaType then response.mediaType ++ ("; charset=utf-8" : Text)
  else response.mediaType

/-- The lines that tell of the response before its content. -/
def headers (response : Response) : List (Text × Text) :=
  let line (name : String) (value : Option Text) : List (Text × Text) :=
    (value.map fun t => (Text.ofString name, t)).toList
  line "Content-Type" (some response.contentType) ++ line "Location" response.location
    ++ line "Cache-Control" response.caching
    ++ line "Allow" (response.allow.map (Text.join ", "))

/-- The response to a request of a method: one that asks for the head alone gets no content. -/
def forMethod (response : Response) (method : Text) : Response :=
  if method.eqString "HEAD" then { response with content := .empty } else response

end Response

end VeiledGateway
