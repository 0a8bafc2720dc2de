/-
  Floating-point numbers with a given number of digits.

  `nearest` rounds a quotient of natural numbers, and a half goes to the even neighbour.  `fixed` has
  a number of places after the point, `scientific` one digit before the point and an exponent, and
  `general` is the one of the two that the size of the number asks for.
-/
import VeiledGateway.Number.Shortest
import VeiledGateway.Text.Search

set_option autoImplicit false

namespace VeiledGateway.Fixed

/-- The natural number nearest to a quotient. -/
def nearest (num den : Nat) : Nat :=
  let floor := num / den
  let rest := num % den
  if den < 2 * rest ∨ (2 * rest = den ∧ floor % 2 = 1) then floor + 1 else floor

/-- The size of a number times a power of ten, rounded. -/
def scaledSize (size : Rat) (tens : Int) : Nat :=
  nearest (size.num.natAbs * Nat.pow 10 tens.toNat) (size.den * Nat.pow 10 (-tens).toNat)

/-- Digits with a point before the last `places` of them; `point` keeps a point that nothing
follows. -/
def withPoint (digits : Text) (places : Nat) (point : Bool) : Text :=
  let digits := Text.padLeft digits (places + 1) '0'
  let split := digits.length - places
  digits.take split ++ (if places = 0 && !point then [] else ("." : Text)) ++ digits.drop split

def fixed (size : Rat) (places : Nat) (point : Bool) : Text :=
  withPoint (Text.ofNat (scaledSize size places)) places point

/-- The exponent of the first digit of a number, at most `fuel` away from a guess below it. -/
def exponentFrom (size : Rat) : Nat → Int → Int
  | 0, e => e
  | fuel + 1, e =>
    let above := if 0 ≤ e + 1 then (Nat.pow 10 (e + 1).toNat : Rat)
      else 1 / (Nat.pow 10 (-(e + 1)).toNat : Rat)
    if above ≤ size then exponentFrom size fuel (e + 1) else e

/-- The exponent of the first digit of a positive number, and its first digits. -/
def leadingDigits (size : Rat) (places : Nat) : Int × Nat :=
  if size = 0 then (0, 0)
  else
    let e := exponentFrom size 800 (-400)
    let n := scaledSize size (places - e)
    if Nat.pow 10 (places + 1) ≤ n then (e + 1, n / 10) else (e, n)

def exponentText (e : Int) : Text :=
  (if e < 0 then ("e-" : Text) else "e+") ++ Text.padLeft (Text.ofNat e.natAbs) 2 '0'

def scientific (size : Rat) (places : Nat) (point : Bool) : Text :=
  let (e, n) := leadingDigits size places
  withPoint (Text.ofNat n) places point ++ exponentText e

/-- Digits after a point without the zeros at the end. -/
def withoutZeros (t : Text) : Text :=
  if List.contains t (CodePoint.ofChar '.') then
    let body := (t.reverse.dropWhile fun (c : CodePoint) => c == '0').reverse
    (Text.dropSuffix? body ".").getD body
  else t

/-- At most `count` digits that tell something; `point` keeps zeros at the end. -/
def general (size : Rat) (count : Nat) (point : Bool) : Text :=
  let count := max 1 count
  let (e, n) := leadingDigits size (count - 1)
  let trim (t : Text) : Text := if point then t else withoutZeros t
  if -4 ≤ e ∧ e < count then trim (fixed size (count - 1 - e).toNat point)
  else trim (withPoint (Text.ofNat n) (count - 1) point) ++ exponentText e

end VeiledGateway.Fixed
