/-
  Classes of code points: blanks, decimal digits, the code points of words, printable ones,
  and the letters and marks that names in programs are made of.
-/
import VeiledGateway.Text.CodePoint
import VeiledGateway.Unicode.Table

set_option autoImplicit false

namespace VeiledGateway.Unicode

/-- `n` lies in one of the runs. -/
def inRuns (runs : List (Nat × Nat)) (n : Nat) : Bool :=
  runs.any fun run => run.1 ≤ n && n ≤ run.2

end VeiledGateway.Unicode

namespace VeiledGateway.CodePoint

open VeiledGateway.Unicode

/-- The blank code points below U+0080. -/
def isAsciiBlank (c : CodePoint) : Bool :=
  (0x09 ≤ c.val && c.val ≤ 0x0D) || (0x1C ≤ c.val && c.val ≤ 0x20)

/-- White space in the sense of the Unicode bidirectional and separator classes. -/
def isBlank (c : CodePoint) : Bool :=
  c.isAsciiBlank || c.val == 0x85 || c.val == 0xA0 || c.val == 0x1680
    || (0x2000 ≤ c.val && c.val ≤ 0x200A) || c.val == 0x2028 || c.val == 0x2029
    || c.val == 0x202F || c.val == 0x205F || c.val == 0x3000

/-- A code point of a word: a letter, a digit or other number, or the underscore. -/
def isWord (c : CodePoint) : Bool :=
  if c.val < 0x80 then c.isAsciiLetter || c.isAsciiDigit || c.val == 0x5F
  else inRuns wordRuns c.val

def isPrintable (c : CodePoint) : Bool :=
  if c.val < 0x80 then 0x20 ≤ c.val && c.val ≤ 0x7E
  else inRuns printableRuns c.val

/-- A letter or a letter number. -/
def isLetter (c : CodePoint) : Bool :=
  if c.val < 0x80 then c.isAsciiLetter else inRuns letterRuns c.val

/-- A combining mark. -/
def isMark (c : CodePoint) : Bool :=
  inRuns markRuns c.val

/-- A connector of words, such as the underscore. -/
def isConnector (c : CodePoint) : Bool :=
  c.val == 0x5F || c.val == 0x203F || c.val == 0x2040 || c.val == 0x2054
    || c.val == 0xFE33 || c.val == 0xFE34 || (0xFE4D ≤ c.val && c.val ≤ 0xFE4F) || c.val == 0xFF3F

/-- The value of a decimal digit of any script. -/
def digitValue? (c : CodePoint) : Option Nat :=
  (digitZeros.find? fun first => first ≤ c.val && c.val < first + 10).map (c.val - ·)

end VeiledGateway.CodePoint
