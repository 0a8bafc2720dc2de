/-
  Rewriting a document of any media type.

  Markup, style sheets and scripts are rewritten; a document of another type stays as it is.  What
  goes wrong with a document is told apart only where its source cannot be read.
-/
import VeiledGateway.Context
import VeiledGateway.Markup.Rewrite

set_option autoImplicit false

namespace VeiledGateway

/-- The kinds of documents that are rewritten. -/
inductive DocumentKind where
  | markup
  | style
  | script
deriving DecidableEq

/-- A media type without its parameters, in lower case. -/
def baseType (mediaType : Option Text) : Text :=
  Text.lower (Text.trim (Text.cutAtCode ';' (mediaType.getD [])).1)

namespace DocumentKind

/-- The media types of a kind. -/
def mediaTypes : DocumentKind → List String
  | .markup => ["text/html", "application/xhtml+xml"]
  | .style => ["text/css"]
  | .script => ["application/javascript", "text/javascript", "application/x-javascript",
      "application/ecmascript", "text/ecmascript"]

/-- The kind of the documents of a media type. -/
def ofMediaType? (mediaType : Option Text) : Option DocumentKind :=
  [markup, style, script].find? fun kind =>
    kind.mediaTypes.any (Text.eqString (baseType mediaType))

/-- A document of a kind, rewritten. -/
def rewrite (v : View) (source : Text) : DocumentKind → Rewriting Text
  | .markup => Markup.rewrite v source
  | .style => Style.rewrite v source
  | .script => Script.rewrite v.settings none source

end DocumentKind

namespace Pipeline

/-- Documents of a media type are rewritten. -/
def handles (mediaType : Option Text) : Bool :=
  (DocumentKind.ofMediaType? mediaType).isSome

/-- A document, rewritten as its media type demands. -/
def rewrite (v : View) (mediaType : Option Text) (source : Text) : Rewriting Text :=
  match DocumentKind.ofMediaType? mediaType with
  | some kind => kind.rewrite v source
  | none => return source

/-- The failure of a document of a media type: a fault other than of its source is told by its words
alone. -/
def failure (mediaType : Option Text) : Fault → Fault
  | .unreadable kind detail => .unreadable kind detail
  | .failed base cause => .failed base cause
  | fault => .failed (baseType mediaType) fault.message

/-- The outcome of rewriting a document in a context, the context after it, and what was noted. -/
def run (v : View) (mediaType : Option Text) (source : Text) (c : Context) :
    Except Fault Text × Context × List Note :=
  let (outcome, c, notes) := c.run (rewrite v mediaType source)
  (outcome.mapError (failure mediaType), c, notes)

end Pipeline

end VeiledGateway
