/-
  Edits: texts that take the place of ranges of a source.
-/
import VeiledGateway.Fault
import VeiledGateway.Text.Search

set_option autoImplicit false

namespace VeiledGateway

/-- The part of a source from one position up to another. -/
structure Range where
  start : Int
  stop : Int
deriving DecidableEq

/-- By where they start, and then by where they stop. -/
def Range.le (a b : Range) : Bool :=
  a.start < b.start || (a.start == b.start && a.stop ≤ b.stop)

/-- At most one text for each range. -/
abbrev Edits := List (Range × Text)

namespace Edits

/-- The edits with a text for a range, in place of the one that it had. -/
def put (edits : Edits) (range : Range) (text : Text) : Edits :=
  match edits with
  | [] => [(range, text)]
  | edit :: rest => if edit.1 = range then (range, text) :: rest else edit :: put rest range text

def ofList (list : List (Range × Text)) : Edits :=
  list.foldl (fun edits edit => put edits edit.1 edit.2) []

/-- The edits in the order of their ranges. -/
def sorted (edits : Edits) : Edits :=
  edits.mergeSort fun a b => a.1.le b.1

/-- The source from `position` on, with edits in order made to it. -/
def splice (source : Text) (position : Int) : Edits → Except Fault Text
  | [] => .ok (Text.slice source position source.length)
  | (range, text) :: rest =>
    if range.start < position then .error (.overlap range.start)
    else do
      let after ← splice source range.stop rest
      return Text.slice source position range.start ++ text ++ after

/-- The source with all edits made; edits that overlap are refused. -/
def apply (source : Text) (edits : Edits) : Except Fault Text :=
  splice source 0 (sorted edits)

end Edits

end VeiledGateway
