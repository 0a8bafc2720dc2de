/-
  References to characters, by name or by number.

  In running text a name needs no semicolon, and a number below 256 is a byte of the Windows code
  page.  In the value of an attribute only some names may stand without a semicolon, they may be
  followed by further letters, and numbers that name no character are left out.
-/
import VeiledGateway.Markup.EntityTable
import VeiledGateway.Text.Search

set_option autoImplicit false

namespace VeiledGateway.Markup

/-- A named character. -/
structure Entity where
  name : Text
  /-- The name may stand without its semicolon in the value of an attribute. -/
  bare : Bool
  stands : Text

namespace Entity

/-- The number that hexadecimal digits write. -/
def hexNumber (t : Text) : Nat :=
  t.foldl (fun n c => n * 16 + c.hexValue?.getD 0) 0

/-- The number that decimal digits write. -/
def decimalNumber (t : Text) : Nat :=
  t.foldl (fun n c => n * 10 + (c.val - 0x30)) 0

def ofParts (name : Text) (bare : Bool) (codes : Text) : Entity :=
  ⟨name, bare, (Text.fields '+' codes).map fun code => CodePoint.ofNat (hexNumber code)⟩

/-- The entity that a word of the table describes. -/
def ofWord (word : Text) : Option Entity :=
  match Text.cutAtCode ':' word with
  | (name, some codes) => some (ofParts name false codes)
  | (_, none) =>
    match Text.cutAtCode '!' word with
    | (name, some codes) => some (ofParts name true codes)
    | (_, none) => none

def table : List Entity :=
  entityLines.flatMap fun line => (Text.fields ' ' (Text.ofString line)).filterMap ofWord

/-- The entity of a name. -/
def ofName? (name : Text) : Option Entity :=
  table.find? (·.name == name)

/-- What a name stands for that may stand without its semicolon. -/
def bareOfName? (name : Text) : Option Text :=
  match ofName? name with
  | some entity => if entity.bare then some entity.stands else none
  | none => none

/-! ## Numbers -/

/-- What the bytes from 0x80 to 0x9F stand for in the Windows code page. -/
def windowsCodes : List Nat := [
  0x20AC, 0x81, 0x201A, 0x192, 0x201E, 0x2026, 0x2020, 0x2021, 0x2C6, 0x2030, 0x160, 0x2039, 0x152,
  0x8D, 0x17D, 0x8F, 0x90, 0x2018, 0x2019, 0x201C, 0x201D, 0x2022, 0x2013, 0x2014, 0x2DC, 0x2122,
  0x161, 0x203A, 0x153, 0x9D, 0x17E, 0x178]

/-- What a byte stands for in the Windows code page. -/
def windowsCode (n : Nat) : Nat :=
  if 0x80 ≤ n then windowsCodes.getD (n - 0x80) n else n

/-- The character of a number in running text. -/
def ofNumber (n : Nat) : CodePoint :=
  CodePoint.ofNat (windowsCode n)

/-- A number that names no character: a control code or one of the last two of a plane, among
others. -/
def isNoCharacter (n : Nat) : Bool :=
  (0x1 ≤ n && n ≤ 0x8) || n == 0xB || (0xE ≤ n && n ≤ 0x1F) || (0x7F ≤ n && n ≤ 0x9F)
    || (0xFDD0 ≤ n && n ≤ 0xFDEF) || 0xFFFE ≤ n % 0x10000

/-- What a number stands for in the value of an attribute. -/
def ofNumberInValue (n : Nat) : Text :=
  if n = 0 then [CodePoint.replacement]
  else if 0x80 ≤ n && n ≤ 0x9F then [ofNumber n]
  else if (0xD800 ≤ n && n ≤ 0xDFFF) || 0x10FFFF < n then [CodePoint.replacement]
  else if isNoCharacter n then []
  else [CodePoint.ofNat n]

/-! ## References in the values of attributes -/

/-- What the longest beginning of `name`, of at most `size` and at least two code points, stands
for, and the rest of `name`. -/
def longestBare (name : Text) : Nat → Option Text
  | 0 => none
  | 1 => none
  | size + 2 =>
    match bareOfName? (name.take (size + 2)) with
    | some stands => some (stands ++ name.drop (size + 2))
    | none => longestBare name (size + 1)

/-- What a name stands for after an ampersand, where a semicolon may follow it. -/
def ofNameInValue (name : Text) (semicolon : Bool) : Text :=
  let whole := if semicolon then name ++ [CodePoint.ofChar ';'] else name
  let exact := if semicolon then (ofName? name).map Entity.stands else bareOfName? name
  match exact with
  | some stands => stands
  | none => (longestBare whole (whole.length - 1)).getD ((CodePoint.ofChar '&') :: whole)

/-- A code point that a name in the value of an attribute may hold. -/
def isNamePart (c : CodePoint) : Bool :=
  !(c == '\t' || c == '\n' || c == '\x0C' || c == ' ' || c == '<' || c == '&' || c == '#'
    || c == ';')

/-- The greatest length of a name. -/
def maxName : Nat := 32

def dropSemicolon (t : Text) : Bool × Text :=
  match t with
  | c :: rest => if c == ';' then (true, rest) else (false, t)
  | [] => (false, t)

/-- What stands for the reference after an ampersand, and the text behind it. -/
def referenceInValue? (after : Text) : Option (Text × Text) :=
  match after with
  | [] => none
  | c :: rest =>
    if c == '#' then
      let hex := match rest with
        | x :: _ => x == 'x' || x == 'X'
        | [] => false
      let body := if hex then rest.drop 1 else rest
      let isDigit := if hex then CodePoint.isHexDigit else CodePoint.isAsciiDigit
      let digits := body.takeWhile isDigit
      if digits.isEmpty then none
      else
        let n := if hex then hexNumber digits else decimalNumber digits
        some (ofNumberInValue n, (dropSemicolon (body.dropWhile isDigit)).2)
    else
      let name := (after.take maxName).takeWhile isNamePart
      if name.isEmpty then none
      else
        let (semicolon, behind) := dropSemicolon (after.drop name.length)
        some (ofNameInValue name semicolon, behind)

def unescapeFrom : Nat → Text → Text
  | 0, t => t
  | _, [] => []
  | fuel + 1, c :: rest =>
    if c == '&' then
      match referenceInValue? rest with
      | some (stands, behind) => stands ++ unescapeFrom fuel behind
      | none => c :: unescapeFrom fuel rest
    else c :: unescapeFrom fuel rest

/-- The value of an attribute with its references resolved. -/
def unescape (t : Text) : Text :=
  unescapeFrom t.length t

end Entity

end VeiledGateway.Markup
