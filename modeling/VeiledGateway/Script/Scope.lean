/-
  Scopes: where the names of a script are declared.

  The program, each function and each block-like node opens a scope.  `gather` goes through a tree
  once, gives every such node the chain of scopes from its own outwards, and records which names
  are declared in which of them.  The outermost scope of a classic script is shared with the other
  scripts of a page.
-/
import VeiledGateway.Fault
import VeiledGateway.Script.Tree

set_option autoImplicit false

namespace VeiledGateway.Script

/-- A way from the root of a tree to a node, the last step first: fields, and positions in the
lists that they hold. -/
abbrev Path := List (Text × Nat)

/-- A scope of a script. -/
structure Frame where
  id : Nat
  isFunction : Bool
  /-- Its names are visible to the other scripts of the page. -/
  isShared : Bool
deriving DecidableEq

/-- A scope and the ones around it, outwards. -/
abbrev Chain := List Frame

/-- The scope to which a declaration that is not bound to its block belongs: the innermost one of
a function, or else the outermost. -/
def Chain.hoist : Chain → Option Frame
  | [] => none
  | [frame] => some frame
  | frame :: outer => if frame.isFunction then some frame else hoist outer

/-- What has been found out about the names of a script. -/
structure Bindings where
  /-- The chain that each node with a scope was given. -/
  scopes : List (Path × Chain)
  /-- The names declared in each scope. -/
  declared : List (Nat × Text)
  /-- Names that an import or an export ties to the world outside. -/
  pinned : List Text

namespace Bindings

def empty : Bindings :=
  ⟨[], [], []⟩

/-- The chain of the node at a path, if it opens a scope. -/
def chain? (b : Bindings) (path : Path) : Option Chain :=
  b.scopes.lookup path

def isDeclared (b : Bindings) (frame : Frame) (name : Text) : Bool :=
  b.declared.any fun d => d.1 == frame.id && d.2 == name

/-- The innermost scope of a chain that declares a name. -/
def resolve (b : Bindings) (chain : Chain) (name : Text) : Option Frame :=
  chain.find? (b.isDeclared · name)

def declare (b : Bindings) (frame : Frame) (names : List Text) : Bindings :=
  { b with declared := names.map (frame.id, ·) ++ b.declared }

def pin (b : Bindings) (names : List Text) : Bindings :=
  { b with pinned := names ++ b.pinned }

end Bindings

/-! ## Reading nodes -/

def functionKinds : List String :=
  ["FunctionDeclaration", "FunctionExpression", "ArrowFunctionExpression"]

def blockKinds : List String :=
  ["BlockStatement", "ForStatement", "ForInStatement", "ForOfStatement", "SwitchStatement",
    "CatchClause", "ClassExpression"]

def isScopeKind (kind : String) : Bool :=
  functionKinds.contains kind || blockKinds.contains kind || kind == "Program"

/-- The field of a node, when it holds something. -/
def part? (t : Tree) (field : String) : Option Tree :=
  (t.get? field).filter Json.isTruthy

/-- The name that a node must have. -/
def nameOf (t : Tree) : Except Fault Text :=
  match t.get? "name" with
  | some (.text name) => .ok name
  | _ => .error (.missingField "name")

/-- A node inside another, with the step that leads to it. -/
abbrev Child := (Text × Nat) × Tree

/-- The children that are nodes by themselves or in lists, each with its step, in the order of the
fields. -/
def children (t : Tree) : List Child :=
  let isNode (c : Tree) : Bool := (c.get? "type").isSome
  match t with
  | .object fields =>
    fields.flatMap fun (field, value) =>
      if Text.eqString field "range" || Text.eqString field "loc" then []
      else
        match value with
        | .list items =>
          (items.zipIdx.filter fun item => isNode item.1).map fun item => ((field, item.2), item.1)
        | _ => if isNode value then [((field, 0), value)] else []
  | _ => []

/-- The child in a field, with its step. -/
def child (t : Tree) (field : String) : List Child :=
  match t.get? field with
  | some c => [((Text.ofString field, 0), c)]
  | none => []

/-- The nodes of a field that is a list, each with its step. -/
def listed (t : Tree) (field : String) : List Child :=
  (t.items field).zipIdx.map fun item => ((Text.ofString field, item.2), item.1)

/-- The names that a pattern binds. -/
def patternNames : Nat → Tree → Except Fault (List Text)
  | 0, _ => .ok []
  | fuel + 1, t =>
    if !t.isTruthy then .ok []
    else
      match t.kind with
      | "Identifier" => return [← nameOf t]
      | "ObjectPattern" => do
        let names ← (t.items "properties").mapM fun part =>
          if part matches .null then .error (.nothingThere "get")
          else if part.isKind "Property" then patternNames fuel ((part.get? "value").getD .null)
          else patternNames fuel part
        return names.flatten
      | "ArrayPattern" => return (← (t.items "elements").mapM (patternNames fuel)).flatten
      | "AssignmentPattern" => patternNames fuel ((t.get? "left").getD .null)
      | "RestElement" => patternNames fuel ((t.get? "argument").getD .null)
      | _ => .ok []

/-- The names that the pattern of a field of a node binds. -/
def namesIn (t : Tree) (field : String) : Except Fault (List Text) :=
  match t.get? field with
  | some part => patternNames part.depth part
  | none => .ok []

/-- The names that the patterns of a list of nodes bind. -/
def namesOfAll (ts : List Tree) : Except Fault (List Text) := do
  return (← ts.mapM fun t => patternNames t.depth t).flatten

/-- The names that declarators bind. -/
def declaratorNames (t : Tree) : Except Fault (List Text) := do
  return (← (t.items "declarations").mapM (namesIn · "id")).flatten

/-! ## Collecting -/

/-- Declare names in a scope that there must be. -/
def declareIn (frame : Option Frame) (names : List Text) (b : Bindings) : Except Fault Bindings :=
  match frame with
  | some frame => .ok (b.declare frame names)
  | none => .error (.nothingThere "names")

/-- The local name of a specifier, which must have one. -/
def localName (spec : Tree) : Except Fault Text :=
  match spec.get? "local" with
  | some target => nameOf target
  | none => .error (.missingField "local")

/-- The names of an import are declared, and pinned. -/
def importNames (chain : Chain) (t : Tree) (b : Bindings) : Except Fault Bindings :=
  (t.items "specifiers").foldlM (fun b spec => do
    if chain.isEmpty then throw (.nothingThere "names")
    let name ← localName spec
    return (← declareIn chain.head? [name] b).pin [name]) b

/-- The names that an exported declaration binds. -/
def exportedNames (declaration : Tree) : Except Fault (List Text) := do
  if declaration.isKind "VariableDeclaration" then declaratorNames declaration
  else
    match part? declaration "id" with
    | some id => return [← nameOf id]
    | none => return []

/-- The names of this script that specifiers of an export name. -/
def specifierNames (t : Tree) : Except Fault (List Text) := do
  let names ← (t.items "specifiers").mapM fun spec =>
    match part? spec "local" with
    | some target => do
      if target.isKind "Identifier" then return [← nameOf target] else return []
    | none => return []
  return names.flatten

/-- What a node itself declares and pins, before its children are looked at. -/
def declarations (chain : Chain) (t : Tree) (b : Bindings) : Except Fault Bindings := do
  match t.kind with
  | "FunctionDeclaration" => declareIn chain.head? (← namesOfAll (t.items "params")) b
  | "ArrowFunctionExpression" => declareIn chain.head? (← namesOfAll (t.items "params")) b
  | "FunctionExpression" =>
    let b ← declareIn chain.head? (← namesOfAll (t.items "params")) b
    match part? t "id" with
    | some id => declareIn chain.head? [← nameOf id] b
    | none => return b
  | "VariableDeclaration" =>
    let isVar := t.textField? "kind" == some (Text.ofString "var")
    if isVar && chain.isEmpty then throw (.nothingThere "hoist_target")
    if (t.items "declarations").isEmpty then return b
    else declareIn (if isVar then Chain.hoist chain else chain.head?) (← declaratorNames t) b
  | "ClassDeclaration" =>
    match part? t "id" with
    | some id => declareIn chain.head? [← nameOf id] b
    | none => return b
  | "ClassExpression" =>
    match part? t "id" with
    | some id => declareIn chain.head? [← nameOf id] b
    | none => return b
  | "CatchClause" => declareIn chain.head? (← namesIn t "param") b
  | "ImportDeclaration" => importNames chain t b
  | "ExportNamedDeclaration" =>
    match part? t "declaration" with
    | some declaration => return b.pin (← exportedNames declaration)
    | none => return b
  | _ => return b

/-- The scope that a node opens inside a chain. -/
def openScope (isModule : Bool) (chain : Chain) (kind : String) (id : Nat) : Chain :=
  if kind == "Program" then [⟨id, true, !isModule⟩]
  else ⟨id, functionKinds.contains kind, false⟩ :: chain

/-- The name of a function that is declared belongs outside the scope of the function. -/
def declareName (chain : Chain) (t : Tree) (b : Bindings) : Except Fault Bindings := do
  if t.kind == "FunctionDeclaration" then
    match part? t "id", Chain.hoist chain with
    | some id, some frame => return b.declare frame [← nameOf id]
    | _, _ => return b
  else return b

/-- The chain inside a node, and the bindings with the scope that the node opens, if it opens one. -/
def enter (isModule : Bool) (chain : Chain) (path : Path) (t : Tree) (b : Bindings) :
    Except Fault (Chain × Bindings) := do
  if isScopeKind t.kind then
    let inner := openScope isModule chain t.kind b.scopes.length
    let b ← declareName chain t b
    return (inner, { b with scopes := (path, inner) :: b.scopes })
  else return (chain, b)

/-- The children that are gone through for bindings, in order. -/
def gatheredChildren (t : Tree) : List Child :=
  match t.kind with
  | "ImportDeclaration" => []
  | "ExportNamedDeclaration" => child t "declaration"
  | _ => children t

/-- The names that the specifiers of an export name are pinned, after its declaration. -/
def pinSpecifiers (t : Tree) (b : Bindings) : Except Fault Bindings := do
  if t.kind == "ExportNamedDeclaration" then return b.pin (← specifierNames t) else return b

/-- What a tree whose root is at `path`, inside the scopes of `chain`, adds to the bindings. -/
def gather (isModule : Bool) : Nat → Chain → Path → Tree → Bindings → Except Fault Bindings
  | 0, _, _, _, b => .ok b
  | fuel + 1, chain, path, t, b => do
    if !t.isTruthy then return b
    let (inner, b) ← enter isModule chain path t b
    let b ← declarations inner t b
    let b ← (gatheredChildren t).foldlM
      (fun b child => gather isModule fuel inner (child.1 :: path) child.2 b) b
    pinSpecifiers t b

/-- The bindings of a whole script. -/
def bindingsOf (isModule : Bool) (t : Tree) : Except Fault Bindings :=
  gather isModule t.depth [] [] t Bindings.empty

end VeiledGateway.Script
