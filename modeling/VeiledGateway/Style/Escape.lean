/-
  Escapes in the names of style sheets: a backslash and the code of a code point in hexadecimal, or
  a backslash and any code point that then stands for itself.
-/
import VeiledGateway.Unicode.Property

set_option autoImplicit false

namespace VeiledGateway.Style

/-- The code point of a code; zero and what is beyond the last one give the replacement. -/
def codePointOf (code : Nat) : CodePoint :=
  if code = 0 then CodePoint.replacement else CodePoint.ofNat code

def hexNumber (digits : Text) : Nat :=
  digits.foldl (fun n d => n * 16 + d.hexValue?.getD 0) 0

def unescapeFrom : Nat → Text → Text
  | 0, t => t
  | _, [] => []
  | fuel + 1, c :: rest =>
    if c == '\\' then
      let digits := (rest.take 6).takeWhile CodePoint.isHexDigit
      if digits.isEmpty then
        match rest with
        | d :: after => d :: unescapeFrom fuel after
        | [] => [c]
      else
        let after := rest.drop digits.length
        let after := match after with
          | d :: others => if d.isBlank then others else after
          | [] => []
        codePointOf (hexNumber digits) :: unescapeFrom fuel after
    else c :: unescapeFrom fuel rest

/-- A name with its escapes decoded. -/
def unescape (name : Text) : Text :=
  unescapeFrom (name.length + 1) name

end VeiledGateway.Style
