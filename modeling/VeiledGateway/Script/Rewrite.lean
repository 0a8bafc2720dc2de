/-
  Rewriting a script: local names become tokens, and strings become tokens or pieces.

  `visit` goes through the tree with the scopes that `gather` found, asks for tokens and pieces in
  the order in which it meets names and strings, and says what is to be done where.  Names that no
  scope of the script declares, or only the shared one, are left alone.
-/
import VeiledGateway.Edits
import VeiledGateway.Json.Printer
import VeiledGateway.Pattern.Reader
import VeiledGateway.Rewriting
import VeiledGateway.Script.Grammar
import VeiledGateway.Script.Scope

set_option autoImplicit false

namespace VeiledGateway.Script

/-- What is to be done to a script. -/
inductive Mark where
  /-- The name is one that is renamed. -/
  | renamed (name : Text)
  | edit (range : Range) (text : Text)
deriving DecidableEq

/-- What the rewriting of a script depends on. -/
structure View where
  source : Text
  settings : Settings
  bindings : Bindings
  /-- Names that stay as they are. -/
  keep : List Text

namespace View

/-- A name that is declared in a scope of this script alone. -/
def isLocal (v : View) (chain : Chain) (name : Text) : Bool :=
  !name.isEmpty && !v.keep.contains name
    && match v.bindings.resolve chain name with
      | some frame => !frame.isShared
      | none => false

end View

/-- The range of a node, which must have one. -/
def rangeOf (t : Tree) : Except Fault Range :=
  match t.get? "range" with
  | some (.list [.int start, .int stop]) => .ok ⟨start, stop⟩
  | _ => .error (.missingField "range")

/-- Give the place of a node another text, if it is not there already. -/
def editTo (v : View) (t : Tree) (text : Text) : Rewriting (List Mark) := do
  let range ← .ofExcept (rangeOf t)
  return if Text.slice v.source range.start range.stop == text then [] else [.edit range text]

/-- The quote with which a string is written. -/
def quoteOf (t : Tree) : Text :=
  match t.textField? "raw" with
  | some (c :: _) => if c == '\'' || c == '"' then [c] else "\""
  | _ => "\""

/-- The value of a string. -/
def stringValue? (t : Tree) : Option Text :=
  if t.isKind "Literal" && (part? t "regex").isNone then t.textField? "value" else none

/-! ## The forms of strings -/

def isWordStart (c : CodePoint) : Bool :=
  c.isAsciiLetter || c == '_'

def isWordPart (c : CodePoint) : Bool :=
  isWordStart c || c.isAsciiDigit || c == '-'

/-- The text without one end of a line at its end. -/
def withoutLastNewline (t : Text) : Text :=
  (Text.dropSuffix? t "\n").getD t

/-- A string that could name a class; it may end with the end of a line. -/
def isBareWord (t : Text) : Bool :=
  match withoutLastNewline t with
  | [] => false
  | c :: rest => isWordStart c && rest.all isWordPart

/-- The sign and the name of a selector of one class or identity; it may end with the end of a
line. -/
def simpleSelector? (t : Text) : Option (CodePoint × Text) :=
  match t with
  | [] => none
  | sign :: name =>
    if (sign == '#' || sign == '.') && isBareWord name then some (sign, withoutLastNewline name)
    else none

/-- The pieces of a string, put together again by the script. -/
def chained (pieces : List Text) : Text :=
  ("(" : Text) ++ Text.join "+" (pieces.map Json.quoteAscii) ++ (")" : Text)

/-! ## Calls -/

/-- Methods that take the identity of an element. -/
def identityLookups : List String :=
  ["getElementById"]

/-- Methods that take a selector. -/
def selectorLookups : List String :=
  ["querySelector", "querySelectorAll", "closest", "matches"]

/-- Functions whose first argument names a module. -/
def moduleLoaders : List String :=
  ["require"]

/-- The name of the method that a callee names. -/
def methodName? (callee : Tree) : Option Text :=
  if callee.isKind "MemberExpression" && (part? callee "computed").isNone then
    match part? callee "property" with
    | some property => if property.isKind "Identifier" then property.name? else none
    | none => none
  else none

def isOneOf (names : List String) (name : Text) : Bool :=
  names.any (Text.eqString name)

/-- The first argument of a call of this callee names a module. -/
def loadsModule (callee : Tree) : Bool :=
  callee.isKind "Import"
    || (callee.isKind "Identifier" && (callee.name?.map (isOneOf moduleLoaders)).getD false)

/-- What to do with the only argument of a call, if the call gives it a meaning. -/
def lookupArgument? (v : View) (callee argument : Tree) : Option (Rewriting (List Mark)) :=
  match stringValue? argument, methodName? callee with
  | some value, some method =>
    let quote := quoteOf argument
    if isOneOf identityLookups method then
      some do editTo v argument (quote ++ (← Rewriting.elementId value) ++ quote)
    else if isOneOf selectorLookups method then
      match simpleSelector? value with
      | some (sign, name) =>
        let mapped :=
          if sign == '#' then Rewriting.elementId name else Rewriting.className v.settings name
        some do editTo v argument (quote ++ [sign] ++ (← mapped) ++ quote)
      | none => none
    else none
  | _, _ => none

/-! ## Visiting -/

/-- What to do with a name where it stands by itself. -/
def visitName (v : View) (chain : Chain) (t : Tree) : Rewriting (List Mark) := do
  let name ← .ofExcept (nameOf t)
  if v.isLocal chain name then
    let tok ← Rewriting.identifier name
    return .renamed name :: (← editTo v t tok)
  else return []

/-- What to do with the name of a property that is also the name of its value. -/
def visitShorthand (v : View) (chain : Chain) (target : Tree) : Rewriting (List Mark) :=
  match target.name? with
  | some name =>
    if v.isLocal chain name then do
      let tok ← Rewriting.identifier name
      return .renamed name :: (← editTo v target (name ++ (": " : Text) ++ tok))
    else return []
  | none => return []

/-- What to do with a string that stands by itself. -/
def visitString (v : View) (t : Tree) : Rewriting (List Mark) :=
  match stringValue? t with
  | none => return []
  | some value =>
    if value.any (fun c => c == '<' || c == '>') then return []
    else if (value.length : Int) < v.settings.minLiteralLength then return []
    else if isBareWord value then do
      let quote := quoteOf t
      editTo v t (quote ++ (← Rewriting.className v.settings value) ++ quote)
    else do editTo v t (chained (← Rewriting.textPieces value))

/-- Kinds of nodes in which nothing is rewritten. -/
def untouchedKinds : List String :=
  ["BreakStatement", "ContinueStatement", "MetaProperty", "ImportDeclaration",
    "ExportAllDeclaration"]

/-- The child in a field of a node that has another field only when that is computed. -/
def computedChild (t : Tree) (field : String) : List Child :=
  if (part? t "computed").isSome then child t field else []

/-- The children that are visited, in order, of a node that has no rule of its own. -/
def visitedChildren (t : Tree) : List Child :=
  match t.kind with
  | "FunctionDeclaration" => listed t "params" ++ child t "body"
  | "MemberExpression" => child t "object" ++ computedChild t "property"
  | "MethodDefinition" => computedChild t "key" ++ child t "value"
  | "LabeledStatement" => child t "body"
  | "ExportNamedDeclaration" => child t "declaration"
  | "ExpressionStatement" => if (part? t "directive").isSome then [] else child t "expression"
  | kind => if untouchedKinds.contains kind then [] else children t

/-- What is to be done in a tree at a path, inside the scopes of a chain. -/
abbrev Visitor := Chain → Path → Tree → Rewriting (List Mark)

/-- Visit children of the node at a path, one after the other. -/
def visitEach (visitor : Visitor) (chain : Chain) (path : Path) (nodes : List Child) :
    Rewriting (List Mark) := do
  return (← nodes.mapM fun node => visitor chain (node.1 :: path) node.2).flatten

/-- Visit the value of a shorthand property; one that may be missing has a default. -/
def visitShorthandValue (v : View) (visitor : Visitor) (chain : Chain) (path : Path)
    (value : Tree) : Rewriting (List Mark) := do
  if value.isKind "AssignmentPattern" then
    let name ← visitShorthand v chain ((value.get? "left").getD .null)
    let default ← visitEach visitor chain ((Text.ofString "value", 0) :: path) (child value "right")
    return name ++ default
  else visitShorthand v chain value

/-- Visit the arguments of a call. -/
def visitArguments (v : View) (visitor : Visitor) (chain : Chain) (path : Path) (callee : Tree)
    (arguments : List Child) : Rewriting (List Mark) :=
  if loadsModule callee then visitEach visitor chain path (arguments.drop 1)
  else
    match arguments with
    | [argument] =>
      match lookupArgument? v callee argument.2 with
      | some marks => marks
      | none => visitEach visitor chain path arguments
    | _ => visitEach visitor chain path arguments

/-- Visit a node in the scope that it opens, if it opens one. -/
def visitInside (v : View) (visitor : Visitor) (chain : Chain) (path : Path) (t : Tree) :
    Rewriting (List Mark) := do
  match t.kind with
  | "Identifier" => visitName v chain t
  | "Literal" => visitString v t
  | "Property" =>
    if (part? t "shorthand").isSome then
      visitShorthandValue v visitor chain path ((part? t "value").getD (.object []))
    else visitEach visitor chain path (computedChild t "key" ++ child t "value")
  | "CallExpression" =>
    let callee ← visitEach visitor chain path (child t "callee")
    let arguments ← visitArguments v visitor chain path
      ((part? t "callee").getD (.object [])) (listed t "arguments")
    return callee ++ arguments
  | _ => visitEach visitor chain path (visitedChildren t)

/-- What is to be done in a tree whose root is at `path`, inside the scopes of `chain`.  The name of
a function that is declared stands outside the scope of the function. -/
def visit (v : View) : Nat → Chain → Path → Tree → Rewriting (List Mark)
  | 0, _, _, _ => return []
  | fuel + 1, chain, path, t => do
    if !t.isTruthy then return []
    match (if isScopeKind t.kind then v.bindings.chain? path else none) with
    | none => visitInside v (visit v fuel) chain path t
    | some inner =>
      if t.isKind "FunctionDeclaration" then
        let name ← visitEach (visit v fuel) chain path (child t "id")
        let inside ← visitInside v (visit v fuel) inner path t
        return name ++ inside
      else visitInside v (visit v fuel) inner path t

/-! ## The whole script -/

/-- What a script becomes, and what is known of its names. -/
structure Result where
  output : Text
  pinned : List Text
  renamed : List Text

def renamedIn (marks : List Mark) : List Text :=
  (marks.filterMap fun mark => match mark with
    | .renamed name => some name
    | .edit _ _ => none).eraseDups

def editsIn (marks : List Mark) : Edits :=
  Edits.ofList (marks.filterMap fun mark => match mark with
    | .edit range text => some (range, text)
    | .renamed _ => none)

/-- The script of a tree, rewritten. -/
def rewriteTree (settings : Settings) (source : Text) (isModule : Bool) (t : Tree) :
    Rewriting Result := do
  let bindings ← .ofExcept (bindingsOf isModule t)
  let v : View :=
    { source, settings, bindings, keep := bindings.pinned ++ settings.reservedIdentifiers }
  let marks ← visit v t.depth [] [] t
  let renamed := renamedIn marks
  let edits := editsIn marks
  Rewriting.noting (.script renamed.length edits.length)
  return ⟨← .ofExcept (edits.apply source), bindings.pinned.eraseDups, renamed⟩

/-- The tree of a source, read as a classic script or as a module. -/
def read (isModule : Bool) (source : Text) : Except SyntaxFault Tree :=
  parse (fun pattern _ => Pattern.isWritten pattern) isModule source

def SyntaxFault.toFault : SyntaxFault → Fault
  | .headlessTemplate => .broken SyntaxFault.headlessTemplate.message
  | fault => .unreadable .script fault.message

/-- The tree of a source and whether it is a module.  When that is not known, a source is a module
if it cannot be read as a classic script, and if it is neither, the first fault counts. -/
def readAs (isModule : Option Bool) (source : Text) : Except Fault (Tree × Bool) :=
  match isModule with
  | some isModule => (read isModule source).mapError SyntaxFault.toFault |>.map (·, isModule)
  | none =>
    match read false source with
    | .ok t => .ok (t, false)
    | .error .headlessTemplate => .error SyntaxFault.headlessTemplate.toFault
    | .error fault =>
      match read true source with
      | .ok t => .ok (t, true)
      | .error .headlessTemplate => .error SyntaxFault.headlessTemplate.toFault
      | .error _ => .error fault.toFault

/-- A script, rewritten.  A source of blanks stays as it is. -/
def rewrite (settings : Settings) (isModule : Option Bool) (source : Text) : Rewriting Text :=
  if (Text.trim source).isEmpty then return source
  else do
    let (t, isModule) ← .ofExcept (readAs isModule source)
    return (← rewriteTree settings source isModule t).output

end VeiledGateway.Script
