/-
  JSON values.

  An object keeps its fields in the order in which they were written.
-/
import VeiledGateway.Text.Entries

set_option autoImplicit false

namespace VeiledGateway

inductive Json where
  | null
  | bool (b : Bool)
  | int (i : Int)
  | real (x : Float)
  | text (t : Text)
  | list (items : List Json)
  | object (fields : List (Text × Json))
deriving Inhabited

namespace Json

/-- The value of a field of an object. -/
def get? (j : Json) (name : String) : Option Json :=
  match j with
  | .object fields => fields.lookup (Text.ofString name)
  | _ => none

def text? : Json → Option Text
  | .text t => some t
  | _ => none

def bool? : Json → Option Bool
  | .bool b => some b
  | _ => none

def int? : Json → Option Int
  | .int i => some i
  | _ => none

def list? : Json → Option (List Json)
  | .list items => some items
  | _ => none

def object? : Json → Option (Entries Json)
  | .object fields => some fields
  | _ => none

def isObject : Json → Bool
  | .object _ => true
  | _ => false

/-- A value that counts as true: not null, false, zero, or empty. -/
def isTruthy : Json → Bool
  | .null => false
  | .bool b => b
  | .int i => i != 0
  | .real x => x != 0
  | .text t => !t.isEmpty
  | .list items => !items.isEmpty
  | .object fields => !fields.isEmpty

mutual

/-- How many values stand inside each other at most. -/
def depth : Json → Nat
  | .list items => depthOfItems items + 1
  | .object fields => depthOfFields fields + 1
  | _ => 1

def depthOfItems : List Json → Nat
  | [] => 0
  | item :: rest => max (depth item) (depthOfItems rest)

def depthOfFields : List (Text × Json) → Nat
  | [] => 0
  | (_, value) :: rest => max (depth value) (depthOfFields rest)

end

end Json

end VeiledGateway
