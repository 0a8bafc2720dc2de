/-
  The values that settings and log records are given as: scalars and collections of them.

  A value has two texts: `text`, in which a string stands as it is, and `written`, in which it is
  quoted.  Inside a collection the second is used.
-/
import VeiledGateway.Datum.Moment
import VeiledGateway.Json.Value
import VeiledGateway.Number.Shortest
import VeiledGateway.Text.Quoted

set_option autoImplicit false

namespace VeiledGateway

inductive Datum where
  | nothing
  | truth (b : Bool)
  | whole (i : Int)
  | real (x : Float)
  | text (t : Text)
  | bytes (bs : List UInt8)
  | date (d : Date)
  | moment (m : Moment)
  | list (items : List Datum)
  | table (entries : List (Datum × Datum))
  | set (items : List Datum)
  | pair (key value : Datum)
  /-- A list that holds itself, where it is met again. -/
  | listAgain
  /-- A table that holds itself, where it is met again. -/
  | tableAgain
  /-- A set that holds itself, where it is met again. -/
  | setAgain
deriving Inhabited

namespace Datum

/-- The name of the kind of a value in messages. -/
def kindName : Datum → Text
  | .nothing => "NoneType"
  | .truth _ => "bool"
  | .whole _ => "int"
  | .real _ => "float"
  | .text _ => "str"
  | .bytes _ => "bytes"
  | .date _ => "datetime.date"
  | .moment _ => "datetime.datetime"
  | .list _ | .listAgain => "list"
  | .table _ | .tableAgain => "dict"
  | .set _ | .setAgain => "set"
  | .pair _ _ => "tuple"

/-- The name of a kind without the group that it belongs to. -/
def shortKindName (d : Datum) : Text :=
  match d with
  | .date _ => "date"
  | .moment _ => "datetime"
  | d => d.kindName

/-- A byte between quotes. -/
def writtenByte (quote : CodePoint) (b : UInt8) : Text :=
  let c := CodePoint.ofNat b.toNat
  if c = quote || c == '\\' then [CodePoint.ofChar '\\', c]
  else if c == '\n' then "\\n"
  else if c == '\r' then "\\r"
  else if c == '\t' then "\\t"
  else if 0x20 ≤ b.toNat && b.toNat < 0x7F then [c]
  else ("\\x" : Text) ++ Text.hex b.toNat 2

/-- Bytes in quotes, after a mark that tells them from a string. -/
def writtenBytes (bs : List UInt8) : Text :=
  let double := bs.contains 0x27 && !bs.contains 0x22
  let quote := CodePoint.ofChar (if double then '"' else '\'')
  [CodePoint.ofChar 'b', quote] ++ bs.flatMap (writtenByte quote) ++ [quote]

def bracketed (opening : Text) (parts : List Text) (closing : Text) : Text :=
  opening ++ Text.join ", " parts ++ closing

mutual

/-- The text of a value in which strings are quoted. -/
def written : Datum → Text
  | .nothing => "None"
  | .truth b => if b then "True" else "False"
  | .whole i => Text.ofInt i
  | .real x => Shortest.spell x
  | .text t => Text.quoted t
  | .bytes bs => writtenBytes bs
  | .date d => d.written
  | .moment m => m.written
  | .list items => bracketed "[" (writtenItems items) "]"
  | .table entries => bracketed "\x7b" (writtenEntries entries) "\x7d"
  | .set items => if items.isEmpty then "set()" else bracketed "\x7b" (writtenItems items) "\x7d"
  | .pair key value => bracketed "(" [key.written, value.written] ")"
  | .listAgain => "[...]"
  | .tableAgain => "\x7b...\x7d"
  | .setAgain => "set(...)"

def writtenItems : List Datum → List Text
  | [] => []
  | item :: rest => item.written :: writtenItems rest

def writtenEntries : List (Datum × Datum) → List Text
  | [] => []
  | (key, value) :: rest =>
    (key.written ++ (": " : Text) ++ value.written) :: writtenEntries rest

end

/-- The text of a value; a string stands as it is. -/
def shown : Datum → Text
  | .text t => t
  | .date d => d.text
  | .moment m => m.text
  | d => d.written

/-- A value that counts as true: not absent, false, zero or empty. -/
def isTruthy : Datum → Bool
  | .nothing => false
  | .truth b => b
  | .whole i => i != 0
  | .real x => x != 0
  | .text t => !t.isEmpty
  | .bytes bs => !bs.isEmpty
  | .list items => !items.isEmpty
  | .table entries => !entries.isEmpty
  | .set items => !items.isEmpty
  | _ => true

/-- The number that a value is equal to. -/
def number? : Datum → Option Rat
  | .truth b => some (if b then 1 else 0)
  | .whole i => some i
  | .real x => Exact.ofFloat? x
  | _ => none

/-- Equality of scalars, as the keys of a table are compared: numbers by their value. -/
def sameKey : Datum → Datum → Bool
  | .nothing, .nothing => true
  | .text a, .text b => a == b
  | .bytes a, .bytes b => a == b
  | .date a, .date b => a == b
  | .moment a, .moment b => a.same b
  | .real a, .real b => a == b || (a.isNaN && b.isNaN)
  | a, b =>
    match a.number?, b.number? with
    | some x, some y => x == y
    | _, _ => false

/-- A table after an entry has been written: the first of two equal keys stays, with the last
value. -/
def putEntry (entries : List (Datum × Datum)) (key value : Datum) : List (Datum × Datum) :=
  match entries with
  | [] => [(key, value)]
  | (k, v) :: rest =>
    if sameKey k key then (k, value) :: rest else (k, v) :: putEntry rest key value

mutual

def ofJson : Json → Datum
  | .null => .nothing
  | .bool b => .truth b
  | .int i => .whole i
  | .real x => .real x
  | .text t => .text t
  | .list items => .list (ofJsonItems items)
  | .object fields => .table (ofJsonFields fields)

def ofJsonItems : List Json → List Datum
  | [] => []
  | item :: rest => ofJson item :: ofJsonItems rest

def ofJsonFields : List (Text × Json) → List (Datum × Datum)
  | [] => []
  | (name, value) :: rest => (.text name, ofJson value) :: ofJsonFields rest

end

end Datum

end VeiledGateway
