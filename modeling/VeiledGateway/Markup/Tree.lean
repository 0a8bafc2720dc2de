/-
  The tree of a markup document: how it grows from tokens, and how it is written.

  An element ends at its end tag, at the end tag of an element around it, or at the end of the
  document; a void element ends where it begins.  An end tag that ends nothing counts for nothing.
-/
import VeiledGateway.Markup.Token
import VeiledGateway.Text.Entries

set_option autoImplicit false

namespace VeiledGateway.Markup

/-- The value of an attribute: a text, or the words of a list. -/
inductive Value where
  | plain (content : Text)
  | words (items : List Text)
deriving DecidableEq

/-- The name of an element and its attributes. -/
structure Tag where
  name : Text
  attributes : Entries Value
deriving DecidableEq

inductive Node where
  | element (tag : Tag) (children : List Node)
  /-- A text; a kept one is part of a program, a template or an annotation, and is never cut. -/
  | text (kept : Bool) (content : Text)
  | aside (kind : AsideKind) (content : Text)

abbrev Document := List Node

namespace Tag

def isNamed (names : List String) (tag : Tag) : Bool :=
  names.any (Text.eqString tag.name)

/-- Elements without content. -/
def voidElements : List String := [
  "area", "base", "basefont", "bgsound", "br", "col", "command", "embed", "frame", "hr", "image",
  "img", "input", "isindex", "keygen", "link", "menuitem", "meta", "nextid", "param", "source",
  "spacer", "track", "wbr"]

def isVoid (tag : Tag) : Bool :=
  tag.isNamed voidElements

/-- Elements that keep the texts inside them. -/
def keepingElements : List String := ["rp", "rt", "script", "style", "template"]

/-- Elements inside which blanks count. -/
def spacedElements : List String := ["pre", "textarea"]

/-! ## Attributes -/

/-- The attributes that are lists of words, in any element or in elements of a name. -/
def listAttributes : List (String × List String) := [
  ("*", ["class", "accesskey", "dropzone"]), ("a", ["rel", "rev"]), ("link", ["rel", "rev"]),
  ("td", ["headers"]), ("th", ["headers"]), ("form", ["accept-charset"]), ("object", ["archive"]),
  ("area", ["rel"]), ("icon", ["sizes"]), ("iframe", ["sandbox"]), ("output", ["for"])]

/-- The attribute of this name is a list of words in the element. -/
def isList (element name : Text) : Bool :=
  listAttributes.any fun entry =>
    (entry.1 == "*" || Text.eqString element entry.1) && entry.2.any (Text.eqString name)

/-- The content of an attribute that is no list. -/
def plain? (tag : Tag) (name : Text) : Option Text :=
  match tag.attributes.get? name with
  | some (.plain content) => some content
  | _ => none

/-- The words of an attribute that is a list. -/
def words? (tag : Tag) (name : Text) : Option (List Text) :=
  match tag.attributes.get? name with
  | some (.words items) => some items
  | _ => none

def put (tag : Tag) (name : Text) (value : Value) : Tag :=
  { tag with attributes := tag.attributes.put name value }

/-- The encoding in which documents are written. -/
def encoding : Text := "utf-8"

/-- The text of a content type with the encoding in the place of each one that it names. -/
def renameEncoding : Nat → Bool → Text → Text
  | 0, _, t => t
  | _, _, [] => []
  | fuel + 1, fresh, c :: rest =>
    let lead : Text := "charset="
    match (if fresh then Text.dropPrefix? (c :: rest) lead else none) with
    | some after => lead ++ encoding ++ renameEncoding fuel false (after.dropWhile (!· == ';'))
    | none => c :: renameEncoding fuel (c.isBlank || c == ';') rest

/-- A tag that names the encoding of its document names the one in which it is written. -/
def withEncoding (tag : Tag) : Tag :=
  if !Text.eqString tag.name "meta" then tag
  else if tag.attributes.has "charset" then tag.put "charset" (.plain encoding)
  else
    match tag.plain? "content", tag.plain? "http-equiv" with
    | some content, some field =>
      if Text.eqString (Text.lower field) "content-type" then
        tag.put "content" (.plain (renameEncoding content.length true content))
      else tag
    | _, _ => tag

/-- The tag of a name and attributes, of which the last of a name counts. -/
def ofParts (name : Text) (attributes : List (Text × Text)) : Tag :=
  let value (field content : Text) : Value :=
    if isList name field then .words (Text.words content) else .plain content
  let entries : Entries Value :=
    Entries.ofPairs (attributes.map fun pair => (pair.1, value pair.1 pair.2))
  withEncoding ⟨name, entries⟩

end Tag

/-! ## Growing the tree -/

/-- An element that is open, with the nodes that it has so far, the last one first. -/
structure Frame where
  tag : Tag
  nodes : List Node

/-- A document that grows. -/
structure Growth where
  /-- The open elements, the innermost first. -/
  frames : List Frame
  /-- The nodes outside all open elements, the last one first. -/
  nodes : List Node
  /-- The text read since the last node, the last piece first. -/
  pending : List Text
  /-- The names of void elements that have ended, and whose end tags may follow. -/
  ended : List Text

namespace Growth

def empty : Growth := ⟨[], [], [], []⟩

def isInside (g : Growth) (names : List String) : Bool :=
  g.frames.any (·.tag.isNamed names)

/-- The last node is put into the innermost open element. -/
def add (g : Growth) (node : Node) : Growth :=
  match g.frames with
  | [] => { g with nodes := node :: g.nodes }
  | frame :: frames => { g with frames := { frame with nodes := node :: frame.nodes } :: frames }

/-- A blank that separates words without further meaning. -/
def isSpace (c : CodePoint) : Bool :=
  c == ' ' || c == '\n' || c == '\t' || c == '\x0C' || c == '\r'

/-- The content of a node: outside elements in which blanks count, blanks alone are one blank or
one line break. -/
def settle (g : Growth) (content : Text) : Text :=
  if !content.all isSpace || g.isInside Tag.spacedElements then content
  else if List.contains content (CodePoint.ofChar '\n') then "\n"
  else " "

/-- The text read so far becomes a node. -/
def flush (g : Growth) : Growth :=
  if g.pending.isEmpty then g
  else
    let content := g.settle g.pending.reverse.flatten
    { g with pending := [] }.add (.text (g.isInside Tag.keepingElements) content)

/-- The innermost open element ends. -/
def pop (g : Growth) : Growth :=
  match g.frames with
  | [] => g
  | frame :: frames =>
    { g with frames := frames }.add (.element frame.tag frame.nodes.reverse)

/-- The innermost open elements end, as many as are told. -/
def popMany (g : Growth) : Nat → Growth
  | 0 => g
  | n + 1 => popMany g.pop n

/-- How many open elements end with the innermost one of this name. -/
def depthOf (name : Text) : List Frame → Option Nat
  | [] => none
  | frame :: frames =>
    if frame.tag.name = name then some 1 else (depthOf name frames).map (· + 1)

/-- The innermost open element of a name ends, and all elements inside it. -/
def close (g : Growth) (name : Text) : Growth :=
  let g := g.flush
  match depthOf name g.frames with
  | some n => g.popMany n
  | none => g

def enter (g : Growth) (tag : Tag) : Growth :=
  let g := g.flush
  { g with frames := ⟨tag, []⟩ :: g.frames }

/-- The growth after one more token. -/
def take (g : Growth) : Token → Growth
  | .text content => { g with pending := content :: g.pending }
  | .aside kind content =>
    let g := g.flush
    g.add (.aside kind (g.settle content))
  | .start name attributes closed =>
    let tag := Tag.ofParts name attributes
    let g := g.enter tag
    if closed then g.close name
    else if tag.isVoid then
      let g := g.close name
      { g with ended := name :: g.ended }
    else g
  | .stop name =>
    if g.ended.contains name then { g with ended := g.ended.erase name } else g.close name

/-- The document, with all open elements ended. -/
def finish (g : Growth) : Document :=
  let g := g.flush
  (g.popMany g.frames.length).nodes.reverse

end Growth

namespace Document

/-- The document that tokens make. -/
def ofTokens (tokens : List Token) : Document :=
  (tokens.foldl Growth.take Growth.empty).finish

/-- The document that a source writes. -/
def read (source : Text) : Except Refusal Document := do
  return ofTokens (← scan source)

end Document

/-! ## Writing -/

/-- The text with references in the place of the signs of markup. -/
def escape (t : Text) : Text :=
  t.flatMap fun (c : CodePoint) =>
    if c == '&' then "&amp;" else if c == '<' then "&lt;" else if c == '>' then "&gt;" else [c]

/-- The value of an attribute in quotes: in single ones if it holds double quotes only. -/
def quoteValue (t : Text) : Text :=
  let double := CodePoint.ofChar '"'
  let single := CodePoint.ofChar '\''
  if !List.contains t double then [double] ++ t ++ [double]
  else if List.contains t single then [double] ++ Text.replace [double] "&quot;" t ++ [double]
  else [single] ++ t ++ [single]

def Value.content : Value → Text
  | .plain content => content
  | .words items => Text.join " " items

/-- The attributes of a tag, sorted by their names. -/
def Tag.written (tag : Tag) : Text :=
  let sorted := tag.attributes.mergeSort fun a b => Text.le a.1 b.1
  sorted.flatMap fun entry =>
    (" " : Text) ++ entry.1 ++ ("=" : Text) ++ quoteValue (escape entry.2.content)

/-- What stands around the content of a node beside elements and text. -/
def AsideKind.brackets : AsideKind → Text × Text
  | .comment => ("<!--", "-->")
  | .rawSection => ("<![CDATA[", "]]>")
  | .declaration => ("<?", "?>")
  | .instruction => ("<?", ">")
  | .docType => ("<!DOCTYPE ", ">\n")

mutual

/-- A node in writing; `raw` tells that text inside the element around it is written as it is. -/
def Node.write (raw : Bool) : Node → Text
  | .text _ content => if raw then content else escape content
  | .aside kind content => kind.brackets.1 ++ content ++ kind.brackets.2
  | .element tag children =>
    let lead := ("<" : Text) ++ tag.name ++ tag.written
    if children.isEmpty && tag.isVoid then lead ++ ("/>" : Text)
    else
      lead ++ (">" : Text) ++ Node.writeAll (isRawElement tag.name) children ++ ("</" : Text)
        ++ tag.name ++ (">" : Text)

def Node.writeAll (raw : Bool) : List Node → Text
  | [] => []
  | node :: rest => Node.write raw node ++ Node.writeAll raw rest

end

/-- A document in writing. -/
def Document.write (document : Document) : Text :=
  Node.writeAll false document

end VeiledGateway.Markup
