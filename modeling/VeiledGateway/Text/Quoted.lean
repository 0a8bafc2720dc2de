/-
  The quoted form of a text in messages: in single quotes, or in double quotes when it holds a
  single one and no double one, with escapes for the quote, the backslash and all that is not
  printable.
-/
import VeiledGateway.Unicode.Property

set_option autoImplicit false

namespace VeiledGateway.Text

/-- The escape of a code point that is not printable, as short as its value admits. -/
def numericEscape (c : CodePoint) : Text :=
  if c.val < 0x100 then ("\\x" : Text) ++ hex c.val 2
  else if c.val < 0x10000 then ("\\u" : Text) ++ hex c.val 4
  else ("\\U" : Text) ++ hex c.val 8

def quotedCode (quote c : CodePoint) : Text :=
  if c = quote || c == '\\' then [(CodePoint.ofChar '\\'), c]
  else if c == '\n' then "\\n"
  else if c == '\r' then "\\r"
  else if c == '\t' then "\\t"
  else if c.isPrintable then [c]
  else numericEscape c

def quoted (t : Text) : Text :=
  let single := CodePoint.ofChar '\''
  let double := CodePoint.ofChar '"'
  let quote := if t.contains single && !t.contains double then double else single
  [quote] ++ t.flatMap (quotedCode quote) ++ [quote]

end VeiledGateway.Text
