/-
  The value of a YAML document.

  The nodes get their values in the order of their distance from the root: first a collection gets
  all its scalars, and then the collections in it get theirs.  So the first fault is the one that is
  nearest to the root.  A collection that is met inside itself is marked in the value.
-/
import VeiledGateway.Yaml.Node

set_option autoImplicit false

namespace VeiledGateway.Yaml

/-- The value of a node, in which parts that are nodes have their numbers. -/
inductive Cell where
  | unset
  | scalar (d : Datum)
  | list (items : List Nat)
  | table (entries : List (Nat × Nat))
  | set (items : List Nat)
  | pairs (entries : List (Nat × Nat))
deriving Inhabited

/-- Values that nodes have got, and the collections whose parts have none yet. -/
structure Building where
  nodes : Array Node
  cells : Array Cell
  waiting : List Nat

namespace Building

def node (b : Building) (n : Nat) : Node :=
  b.nodes[n]?.getD default

def cell (b : Building) (n : Nat) : Cell :=
  b.cells[n]?.getD default

def setCell (b : Building) (n : Nat) (cell : Cell) : Building :=
  { b with cells := b.cells.modify n fun _ => cell }

def setEntries (b : Building) (n : Nat) (entries : List (Nat × Nat)) : Building :=
  { b with nodes := b.nodes.modify n fun node => { node with content := .table entries } }

/-- What a node is before its parts are known: an empty collection, or nothing for a scalar. -/
def emptyCell (node : Node) : Option Cell :=
  match node.tag with
  | .list => some (.list [])
  | .table => some (.table [])
  | .set => some (.set [])
  | .orderedTable | .pairs => some (.pairs [])
  | _ => none

/-- The text of a node that stands for a scalar: a table may name its value. -/
def scalarText (b : Building) : Nat → Nat → Except Fault Text
  | 0, _ => .error .malformed
  | fuel + 1, n =>
    match (b.node n).content with
    | .scalar t => .ok t
    | .list _ => .error .malformed
    | .table entries =>
      match entries.find? fun e => (b.node e.1).tag = .value with
      | some e => scalarText b fuel e.2
      | none => .error .malformed

/-- The first value of a node.  A collection waits for its parts. -/
def visit (b : Building) (n : Nat) : Except Fault Building :=
  match b.cell n with
  | .unset =>
    let node := b.node n
    match emptyCell node with
    | some cell => .ok { b.setCell n cell with waiting := b.waiting ++ [n] }
    | none => do
      if node.tag = .unknown then throw .malformed
      let t ← b.scalarText (b.nodes.size + 1) n
      return b.setCell n (.scalar (← node.tag.scalarValue t))
  | _ => .ok b

/-- A value that can be the key of a table. -/
def isKey (b : Building) (n : Nat) : Bool :=
  match b.cell n with
  | .scalar _ => true
  | _ => false

/-- Take over the entries of the tables that a table is merged with.  They come before its own, and
those of a later table before those of an earlier one. -/
def merge : Nat → Building → Nat → Except Fault Building
  | 0, b, _ => .ok b
  | fuel + 1, b, n =>
    match (b.node n).content with
    | .table entries => do
      let (b, taken) ← mergeEntries fuel b n [] entries
      match (b.node n).content with
      | .table own => return if taken.isEmpty then b else b.setEntries n (taken ++ own)
      | _ => return b
    | _ => .ok b
where
  /-- Walk the entries of a table; `before` have been walked, and the entries taken over come
  back. -/
  mergeEntries : Nat → Building → Nat → List (Nat × Nat) → List (Nat × Nat) →
      Except Fault (Building × List (Nat × Nat))
    | 0, b, _, _, _ => .ok (b, [])
    | _, b, _, _, [] => .ok (b, [])
    | fuel + 1, b, n, before, (k, v) :: rest =>
      match (b.node k).tag with
      | .merge => do
        let b := b.setEntries n (before ++ rest)
        let (b, taken) ← mergeSource fuel b v
        let (b, more) ← mergeEntries fuel b n before rest
        return (b, taken ++ more)
      | .value =>
        let b := { b with nodes := b.nodes.modify k fun node => { node with tag := .text } }
        mergeEntries fuel b n (before ++ [(k, v)]) rest
      | _ => mergeEntries fuel b n (before ++ [(k, v)]) rest
  /-- The entries of a table or of the tables of a list. -/
  mergeSource : Nat → Building → Nat → Except Fault (Building × List (Nat × Nat))
    | 0, b, _ => .ok (b, [])
    | fuel + 1, b, v =>
      match (b.node v).content with
      | .table _ => do
        let b ← merge fuel b v
        return (b, entriesOf b v)
      | .list items => do
        let (b, groups) ← mergeItems fuel b items
        return (b, groups.reverse.flatten)
      | .scalar _ => .error .malformed
  mergeItems : Nat → Building → List Nat → Except Fault (Building × List (List (Nat × Nat)))
    | 0, b, _ => .ok (b, [])
    | _, b, [] => .ok (b, [])
    | fuel + 1, b, item :: rest =>
      match (b.node item).content with
      | .table _ => do
        let b ← merge fuel b item
        let entries := entriesOf b item
        let (b, more) ← mergeItems fuel b rest
        return (b, entries :: more)
      | _ => .error .malformed
  entriesOf (b : Building) (n : Nat) : List (Nat × Nat) :=
    match (b.node n).content with
    | .table entries => entries
    | _ => []

/-- The values of the keys and the values of a table. -/
def visitEntries (b : Building) : List (Nat × Nat) → Except Fault Building
  | [] => .ok b
  | (k, v) :: rest => do
    let b ← b.visit k
    if !b.isKey k then throw .malformed
    visitEntries (← b.visit v) rest

/-- The one entry of each table of a list. -/
def visitPairs (b : Building) : List Nat → Except Fault (Building × List (Nat × Nat))
  | [] => .ok (b, [])
  | item :: rest =>
    match (b.node item).content with
    | .table [(k, v)] => do
      let b ← (← b.visit k).visit v
      let (b, more) ← visitPairs b rest
      return (b, (k, v) :: more)
    | _ => .error .malformed

/-- How far merging can go. -/
def mergeFuel (b : Building) : Nat :=
  4 * (b.nodes.size + 2) * (b.nodes.size + 2)

/-- The parts of a collection get their first values. -/
def fill (b : Building) (n : Nat) : Except Fault Building := do
  let node := b.node n
  match b.cell n, node.content with
  | .list _, .list items => do
    let b ← items.foldlM visit b
    return b.setCell n (.list items)
  | .pairs _, .list items => do
    let (b, entries) ← b.visitPairs items
    return b.setCell n (.pairs entries)
  | cell, .table _ => do
    let b ← merge b.mergeFuel b n
    let entries := merge.entriesOf b n
    match cell with
    | .table _ => return (← b.visitEntries entries).setCell n (.table entries)
    | .set _ => return (← b.visitEntries entries).setCell n (.set (entries.map Prod.fst))
    | _ => throw .malformed
  | _, _ => throw .malformed

/-- Fill all collections that wait. -/
def run : Nat → Building → Except Fault Building
  | 0, b => .ok b
  | fuel + 1, b =>
    match b.waiting with
    | [] => .ok b
    | n :: rest => do run fuel (← fill { b with waiting := rest } n)

/-- The value of a node; `path` are the collections around it. -/
def datum (b : Building) : Nat → List Nat → Nat → Datum
  | 0, _, _ => .nothing
  | fuel + 1, path, n =>
    let inside := path.contains n
    let part := datum b fuel (n :: path)
    match b.cell n with
    | .unset => .nothing
    | .scalar d => d
    | .list items => if inside then .listAgain else .list (items.map part)
    | .table entries =>
      if inside then .tableAgain
      else .table (entries.foldl (fun out e => Datum.putEntry out (part e.1) (part e.2)) [])
    | .set items =>
      if inside then .setAgain
      else
        let entries := items.foldl (fun out k => Datum.putEntry out (part k) .nothing) []
        .set (entries.map Prod.fst)
    | .pairs entries =>
      if inside then .listAgain
      else .list (entries.map fun e => .pair (part e.1) (part e.2))

end Building

/-- The value of the root of a graph. -/
def Graph.datum (g : Graph) : Except Fault Datum := do
  let start : Building := ⟨g.nodes, g.nodes.map fun _ => .unset, []⟩
  let b ← Building.run (g.nodes.size + 1) (← start.visit g.root)
  return b.datum (g.nodes.size + 2) [] g.root

/-- The value of a document; a text without one has the value nothing. -/
def read (t : Text) : Except Fault Datum := do
  match ← Graph.ofText? t with
  | none => return .nothing
  | some g => g.datum

end VeiledGateway.Yaml
