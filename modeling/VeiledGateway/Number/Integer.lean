/-
  Reading whole numbers: blanks at the ends, a sign, and decimal digits of any script, with single
  underscores between digits.

  `toInt?` reads numbers of any length; `readInt` refuses those of more digits than `digitLimit`,
  and tells how many there are.  `toIntIn?` reads digits of another base.
-/
import VeiledGateway.Text.Search

set_option autoImplicit false

namespace VeiledGateway.Text

/-- The number that digits write after `value`; `fresh` tells that an underscore may not come
next. -/
def digitsFrom (value : Nat) (fresh : Bool) : Text → Option Nat
  | [] => if fresh then none else some value
  | c :: rest =>
    if c == '_' then (if fresh then none else digitsFrom value true rest)
    else
      match c.digitValue? with
      | some d => digitsFrom (value * 10 + d) false rest
      | none => none

/-- The whole number that a text writes. -/
def toInt? (t : Text) : Option Int :=
  match trim t with
  | [] => none
  | c :: rest =>
    if c == '-' then (digitsFrom 0 true rest).map fun n => -(n : Int)
    else if c == '+' then (digitsFrom 0 true rest).map fun n => (n : Int)
    else (digitsFrom 0 true (c :: rest)).map fun n => (n : Int)

/-- Why a text is read as no whole number. -/
inductive IntegerFault where
  | noNumber
  | tooLong (digits : Nat)
deriving DecidableEq

/-- How many digits a number may have. -/
def digitLimit : Nat := 4300

/-- The digits, with underscores, that a number begins with after its sign. -/
def digitRun (t : Text) : Text :=
  let body := match trim t with
    | c :: rest => if c == '-' || c == '+' then rest else c :: rest
    | [] => []
  body.takeWhile fun c => c.digitValue?.isSome || c == '_'

/-- The whole number that a text writes, if it has no more digits than are read. -/
def readInt (t : Text) : Except IntegerFault Int :=
  let run := digitRun t
  let digits := run.filter fun c => c.digitValue?.isSome
  if digitLimit < digits.length && (digitsFrom 0 true run).isSome then .error (.tooLong digits.length)
  else
    match toInt? t with
    | some i => .ok i
    | none => .error .noNumber

/-- The value of a digit of a base up to sixteen. -/
def digitIn? (base : Nat) (c : CodePoint) : Option Nat :=
  (c.digitValue? <|> c.hexValue?).filter (· < base)

/-- The mark that numbers of a base may begin with. -/
def baseMark (base : Nat) : Text :=
  if base = 2 then "0b" else if base = 8 then "0o" else "0x"

/-- The whole number that a text writes in the base two, eight or sixteen; the mark of the base may
stand before the digits. -/
def toIntIn? (base : Nat) (t : Text) : Option Int := do
  let t := trim t
  let (negative, t) := match t with
    | c :: rest => if c == '-' then (true, rest) else if c == '+' then (false, rest) else (false, t)
    | [] => (false, [])
  let marked := (t.take 2).map CodePoint.asciiLower == baseMark base
  let digits := if marked then t.drop 2 else t
  if digits.isEmpty then none
  let values ← digits.mapM (digitIn? base)
  let size : Nat := values.foldl (fun n v => n * base + v) 0
  let n : Int := size
  return if negative then -n else n

end VeiledGateway.Text
