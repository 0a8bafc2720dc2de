/-
  Syntax trees of scripts.

  A tree is an object with a field `type` that names its kind; children are objects or lists of
  objects in other fields, and an absent child has no field.  `range` holds the two ends of a node
  in the text.  Trees come from the grammar, and from anyone else who writes such objects, so
  everything that reads one looks for its fields by name.
-/
import VeiledGateway.Json.Value

set_option autoImplicit false

namespace VeiledGateway.Script

/-- A node of a syntax tree, or any value in its place. -/
abbrev Tree := Json

namespace Tree

/-- The fields of a node with a range, without the ones that have no value. -/
def mk (kind : String) (start stop : Nat) (fields : List (String × Option Tree)) : Tree :=
  .object ((Text.ofString "type", .text kind)
    :: (fields.filterMap fun f => f.2.map fun v => (Text.ofString f.1, v))
    ++ [(Text.ofString "range", .list [.int start, .int stop])])

def field? (t : Tree) (name : String) : Option Tree :=
  t.get? name

/-- The kind of a node. -/
def kind (t : Tree) : String :=
  match t.get? "type" with
  | some (.text k) => Text.toString k
  | _ => ""

def isKind (t : Tree) (k : String) : Bool :=
  t.kind == k

/-- The name of an identifier. -/
def name? (t : Tree) : Option Text :=
  (t.get? "name").bind Json.text?

/-- A field that is text. -/
def textField? (t : Tree) (name : String) : Option Text :=
  (t.get? name).bind Json.text?

/-- The items of a field that is a list. -/
def items (t : Tree) (name : String) : List Tree :=
  ((t.get? name).bind Json.list?).getD []

/-- The tree with another kind. -/
def setKind (t : Tree) (k : String) : Tree :=
  match t with
  | .object fields => .object (Entries.put fields "type" (.text k))
  | _ => t

def setField (t : Tree) (name : String) (value : Tree) : Tree :=
  match t with
  | .object fields => .object (Entries.put fields name value)
  | _ => t

def eraseField (t : Tree) (name : String) : Tree :=
  match t with
  | .object fields => .object (Entries.erase fields name)
  | _ => t

end Tree

end VeiledGateway.Script
