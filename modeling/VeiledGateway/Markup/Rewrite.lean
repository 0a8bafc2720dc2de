/-
  Rewriting a markup document.

  Four visits go over the tree, one after the other: to the scripts in it, to its style sheets, to
  its texts, and to its attributes.  Each goes in the order of the document, and none adds, moves or
  removes an element.  A text is cut into pieces with empty comments between them, which show
  nothing.
-/
import VeiledGateway.Markup.Tree
import VeiledGateway.Script.Rewrite
import VeiledGateway.Style.Rewrite

set_option autoImplicit false

namespace VeiledGateway.Markup

/-- What becomes of the attributes of a tag, and of a text directly inside an element; outside all
elements there is no tag. -/
structure Visit where
  tag : Tag → Rewriting Tag
  text : Option Tag → (kept : Bool) → Text → Rewriting (List Node)

namespace Visit

/-- The visit that changes nothing. -/
def idle : Visit :=
  { tag := fun tag => .done tag, text := fun _ kept content => .done [.text kept content] }

mutual

/-- The nodes that a node becomes. -/
def node (visit : Visit) (inside : Option Tag) : Node → Rewriting (List Node)
  | .text kept content => visit.text inside kept content
  | .aside kind content => return [.aside kind content]
  | .element tag children => do
    let new ← visit.tag tag
    return [.element new (← nodes visit (some tag) children)]

def nodes (visit : Visit) (inside : Option Tag) : List Node → Rewriting (List Node)
  | [] => return []
  | first :: rest => do
    let new ← node visit inside first
    return new ++ (← nodes visit inside rest)

end

/-- The document after a visit. -/
def document (visit : Visit) (document : Document) : Rewriting Document :=
  visit.nodes none document

end Visit

/-! ## Scripts and style sheets -/

/-- The types of a script that is no module. -/
def classicTypes : List String :=
  ["", "text/javascript", "application/javascript", "text/ecmascript", "application/ecmascript"]

/-- Whether the script in an element is a module, if it is a script to be rewritten: one that is
written in the document and has a type of scripts. -/
def moduleMode? (tag : Tag) : Option Bool :=
  if !tag.isNamed ["script"] || !((tag.plain? "src").getD []).isEmpty then none
  else
    let kind := Text.lower (Text.trim ((tag.plain? "type").getD []))
    if Text.eqString kind "module" then some true
    else if classicTypes.any (Text.eqString kind) then some false
    else none

def scriptVisit (v : View) : Visit :=
  { Visit.idle with
    text := fun inside kept content =>
      match inside.bind moduleMode? with
      | some isModule => do
        return [.text kept (← Script.rewrite v.settings (some isModule) content)]
      | none => return [.text kept content] }

def styleVisit (v : View) : Visit :=
  { Visit.idle with
    text := fun inside kept content =>
      if inside.any (·.isNamed ["style"]) then do
        return [.text kept (← Style.rewrite v content)]
      else return [.text kept content] }

/-! ## Texts -/

/-- Elements whose own text is code or shows as it is written. -/
def literalElements : List String :=
  ["script", "style", "title", "textarea", "noscript"]

/-- The nodes of pieces, with empty comments between them. -/
def pieceNodes : List Text → List Node
  | [] => []
  | [piece] => [.text false piece]
  | piece :: rest => .text false piece :: .aside .comment [] :: pieceNodes rest

def textVisit : Visit :=
  { Visit.idle with
    text := fun inside kept content =>
      if kept || inside.any (·.isNamed literalElements) || (Text.trim content).length ≤ 1 then
        return [.text kept content]
      else do return pieceNodes (← Rewriting.textPieces content) }

/-! ## Attributes -/

def rewriteClasses (v : View) (tag : Tag) : Rewriting Tag :=
  match tag.words? "class" with
  | some (first :: rest) => do
    return tag.put "class" (.words (← (first :: rest).mapM (Rewriting.className v.settings)))
  | _ => return tag

/-- The identity that an attribute holds is given its token; an empty one is none. -/
def rewriteIdentity (field : Text) (tag : Tag) : Rewriting Tag :=
  match tag.plain? field with
  | some (c :: rest) => do return tag.put field (.plain (← Rewriting.elementId (c :: rest)))
  | _ => return tag

/-- What stands for a reference. -/
def rewriteReference (v : View) (reference : Text) : Rewriting Text := do
  match ← .ofExcept (Reference.kindOf reference) with
  | .fragment =>
    match (Text.trim reference).drop 1 with
    | [] => return reference
    | c :: rest => return (CodePoint.ofChar '#') :: (← Rewriting.elementId (c :: rest))
  | .static =>
    match ← v.pathOf? reference with
    | some path => Rewriting.link v.settings path
    | none => return reference
  | _ => return reference

def rewriteLink (v : View) (field : Text) (tag : Tag) : Rewriting Tag :=
  match tag.plain? field with
  | some (c :: rest) => do return tag.put field (.plain (← rewriteReference v (c :: rest)))
  | _ => return tag

/-- The attributes of a tag, in the order in which they are rewritten: its classes, its identity,
the identity that a label is for, and its references. -/
def rewriteTag (v : View) (tag : Tag) : Rewriting Tag := do
  let new ← rewriteClasses v tag
  let new ← rewriteIdentity "id" new
  let new ← if tag.isNamed ["label"] then rewriteIdentity "for" new else pure new
  rewriteLink v "href" (← rewriteLink v "src" new)

def tagVisit (v : View) : Visit :=
  { Visit.idle with tag := rewriteTag v }

/-! ## The whole document -/

namespace Document

/-- The tree of a document, rewritten. -/
def rewrite (v : View) (document : Document) : Rewriting Document := do
  let document ← (scriptVisit v).document document
  let document ← (styleVisit v).document document
  let document ← textVisit.document document
  (tagVisit v).document document

end Document

/-- What the words for a refusal begin with. -/
def refusalLead : Text :=
  ("The markup you provided was rejected by the parser. Trying a different parser or a "
    ++ "different encoding may help.\n\nOriginal exception(s) from parser:\n AssertionError: " :
      String)

/-- A markup document, rewritten. -/
def rewrite (v : View) (source : Text) : Rewriting Text :=
  match Document.read source with
  | .error refusal => .fail (.unreadable .markup (refusalLead ++ refusal.message))
  | .ok document => do return Document.write (← Document.rewrite v document)

end VeiledGateway.Markup
