/-
  The UTF-16 view of texts: the code units in which string literals of scripts and string escapes
  of records count.
-/
import VeiledGateway.Text.CodePoint

set_option autoImplicit false

namespace VeiledGateway.Utf16

/-- The code units of a code point: itself, or the pair of halves beyond U+FFFF. -/
def unitsOf (c : CodePoint) : List Nat :=
  if c.val < 0x10000 then [c.val]
  else [0xD800 + (c.val - 0x10000) / 0x400, 0xDC00 + (c.val - 0x10000) % 0x400]

/-- The code units of a text. -/
def units (t : Text) : List Nat :=
  t.flatMap unitsOf

/-- The code point that a pair of halves stands for. -/
def pair (high low : CodePoint) : CodePoint :=
  CodePoint.ofNat (0x10000 + (high.val - 0xD800) * 0x400 + (low.val - 0xDC00))

/-- The text with each pair of halves put together. -/
def joinPairs : Text → Text
  | [] => []
  | [c] => [c]
  | c :: d :: rest =>
    if c.isHighSurrogate && d.isLowSurrogate then pair c d :: joinPairs rest
    else c :: joinPairs (d :: rest)

end VeiledGateway.Utf16
