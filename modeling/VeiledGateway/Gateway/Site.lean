/-
  The site: its files and documents, and the paths that stand for links.

  A document of a kind that is rewritten is rewritten for the session of the visitor; all other
  files are sent as they are.
-/
import VeiledGateway.Asset.MediaType
import VeiledGateway.Gateway.Basic
import VeiledGateway.Gateway.Visit

set_option autoImplicit false

namespace VeiledGateway

namespace Site

/-- The media type of a file whose name tells none. -/
def unknownType : Text := "application/octet-stream"

def mediaType (name : Text) : Text :=
  (MediaType.ofName? name).getD unknownType

/-- A text with the ends of its lines as single line feeds. -/
def evenLines : Text → Text
  | [] => []
  | [c] => [if c == '\r' then CodePoint.ofChar '\n' else c]
  | c :: d :: rest =>
    if c == '\r' then
      CodePoint.ofChar '\n' :: (if d == '\n' then evenLines rest else evenLines (d :: rest))
    else c :: evenLines (d :: rest)

/-- The text of a document in a file. -/
def text (bytes : List UInt8) : Text :=
  evenLines (Utf8.decodeLossy bytes)

/-- The path of the document itself, from which its references go, where it lies in a file of this
name. -/
def documentPath (path name : Text) : Text :=
  let slash := CodePoint.ofChar '/'
  let path := slash :: path.dropWhile (· == slash)
  if name == Assets.indexFile && Reference.fileName path != Assets.indexFile then
    (path.reverse.dropWhile (· == slash)).reverse ++ slash :: Assets.indexFile
  else path

end Site

namespace Gateway

open Handling

/-- Work on a record: a document is rewritten, and its new tokens go into the record. -/
def rewriteFor (view : View) (mediaType source : Text) (twister : Twister) (record : Record) :
    Keeping Trouble (Text × Record) := fun s =>
  match Pipeline.run view (some mediaType) source (record.context twister) with
  | (.ok t, context, _) => (.ok (t, { record with mappings := context.mappings }), s)
  | (.error fault, _, _) => (.error (.document fault), s)

/-- A document, rewritten for the session; one that cannot be is sent as it is, if that is the
policy. -/
def document (gateway : Gateway) (base mediaType source : Text) : Handling Response := do
  let name ← sessionName gateway.hasSecret
  let view : View := ⟨gateway.settings, some gateway.assets, base⟩
  let work := rewriteFor view mediaType source (← get).twister
  tryCatch (do return .passing mediaType (.rewritten (← withRecord name work)))
    fun trouble =>
      match trouble, gateway.passesThrough with
      | .document _, true =>
        return { Response.bare 200 with mediaType, content := .source source }
      | _, _ => throw trouble

/-- The file of a path, as it is or rewritten. -/
def serve (gateway : Gateway) (path : Text) : Handling Response := do
  let assets := gateway.assets
  match ← orTrouble .asset (assets.locate path) with
  | none => throw .missing
  | some place =>
    let bytes := (← orTrouble .asset (assets.disk.read? place)).getD []
    let name := place.getLast?.getD []
    let mediaType := Site.mediaType name
    if Pipeline.handles (some mediaType) then
      gateway.document (Site.documentPath path name) mediaType (Site.text bytes)
    else return .checked mediaType (.file bytes)

/-- What a path stands for that was given out for a link of this session. -/
def serveLink (gateway : Gateway) (path : Text) : Handling Response := do
  match ← record? with
  | none => throw .missing
  | some record =>
    match gateway.links.resolve path (record.context (← get).twister) with
    | some original => gateway.serve original
    | none => throw .missing

end Gateway

end VeiledGateway
