/-
  Reading numbers from decimal digits.

  `toFloat` is the floating-point number nearest to a decimal numeral.  `real?` reads a text as one:
  blanks at the ends, a sign, digits of any script with a point and an exponent, or a name of
  infinity or of not-a-number.
-/
import VeiledGateway.Text.Search

set_option autoImplicit false

namespace VeiledGateway.Decimal

/-- The number that decimal digits write. -/
def digitsValue (ds : Text) : Nat :=
  ds.foldl (fun n d => n * 10 + (d.val - 0x30)) 0

/-- The floating-point number `± mantissa · 10 ^ exponent`, correctly rounded. -/
def toFloat (negative : Bool) (mantissa : Nat) (exponent : Int) : Float :=
  let x :=
    if mantissa = 0 then (0.0 : Float)
    else
      let size : Int := (Nat.toDigits 10 mantissa).length
      if 310 < size + exponent then 1.0 / 0.0
      else if size + exponent < -400 then 0.0
      else if exponent < 0 then Float.ofScientific mantissa true exponent.natAbs
      else Float.ofScientific mantissa false exponent.natAbs
  if negative then -x else x

/-- A sign at the beginning, and what follows it. -/
def signOf (t : Text) : Bool × Text :=
  match t with
  | c :: rest => if c == '-' then (true, rest) else if c == '+' then (false, rest) else (false, t)
  | [] => (false, [])

/-- Digits of any script as the digits of ours; single underscores may stand between two. -/
def plainDigits? (fresh : Bool) : Text → Option Text
  | [] => some []
  | c :: rest =>
    if c == '_' then
      match rest with
      | d :: _ => if fresh || d.digitValue?.isNone then none else plainDigits? true rest
      | [] => none
    else do
      let d ← c.digitValue?
      let more ← plainDigits? false rest
      return CodePoint.ofNat (0x30 + d) :: more

/-- The exponent after its mark. -/
def exponent? (t : Text) : Option Int := do
  let (negative, t) := signOf t
  if t.isEmpty then none
  let n : Int := digitsValue (← plainDigits? true t)
  return if negative then -n else n

/-- The parts before and after the mark of an exponent. -/
def cutExponent (t : Text) : Text × Option Text :=
  let lead := t.takeWhile fun (c : CodePoint) => !(c == 'e' || c == 'E')
  (lead, if lead.length < t.length then some (t.drop (lead.length + 1)) else none)

/-- The floating-point number that a text writes. -/
def real? (t : Text) : Option Float := do
  let (negative, t) := signOf (Text.trim t)
  let name : Text := t.map CodePoint.asciiLower
  if Text.eqString name "inf" || Text.eqString name "infinity" then
    return if negative then -(1.0 / 0.0) else 1.0 / 0.0
  if Text.eqString name "nan" then return 0.0 / 0.0
  let (lead, tail) := cutExponent t
  let (whole, fraction) := Text.cutAtCode '.' lead
  let ds ← plainDigits? true whole
  let fs ← plainDigits? true (fraction.getD [])
  if ds.isEmpty && fs.isEmpty then none
  let e ← match tail with
    | some tail => exponent? tail
    | none => some 0
  return toFloat negative (digitsValue (ds ++ fs)) (e - fs.length)

end VeiledGateway.Decimal
