/-
  Why a YAML document has no value.
-/
import VeiledGateway.Datum.Moment
import VeiledGateway.Text.Quoted

set_option autoImplicit false

namespace VeiledGateway.Yaml

inductive Fault where
  /-- The text is no document, or its parts do not go together. -/
  | malformed
  /-- An escape names a number beyond the last code point. -/
  | codeRange (n : Nat)
  /-- A scalar that is marked as a whole number is none in its base. -/
  | badWhole (base : Nat) (t : Text)
  /-- A whole number has more digits than are read. -/
  | longWhole (digits : Nat)
  /-- A scalar that is marked as a number is empty. -/
  | noDigits
  /-- A scalar that is marked as a number with a fraction is none. -/
  | badReal (t : Text)
  /-- A scalar that is marked as a truth value is none. -/
  | badTruth (t : Text)
  /-- A scalar that is marked as a moment is none. -/
  | badMoment
  | calendar (fault : CalendarFault)
deriving DecidableEq

/-- The words for a fault. -/
def Fault.message : Fault → Text
  | .malformed => "malformed document"
  | .codeRange n =>
    if n < 0x80000000 then "chr() arg not in range(0x110000)"
    else "Python int too large to convert to C int"
  | .badWhole base t =>
    ("invalid literal for int() with base " : Text) ++ Text.ofNat base ++ (": " : Text)
      ++ (Text.quoted t).take 200
  | .longWhole digits =>
    ("Exceeds the limit (4300 digits) for integer string conversion: value has " : Text)
      ++ Text.ofNat digits
      ++ (" digits; use sys.set_int_max_str_digits() to increase the limit" : Text)
  | .noDigits => "string index out of range"
  | .badReal t => ("could not convert string to float: " : Text) ++ Text.quoted t
  | .badTruth t => Text.quoted t
  | .badMoment => "'NoneType' object has no attribute 'groupdict'"
  | .calendar fault => fault.message

end VeiledGateway.Yaml
