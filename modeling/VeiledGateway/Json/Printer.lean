/-
  Writing JSON.

  A string is quoted in one of two ways: `ascii` escapes every code point beyond U+007E,
  by code units; `raw` escapes only what must be.  Values are laid out on
  one line, compactly or with a space after each comma and colon, or one item a line.
-/
import VeiledGateway.Json.Value
import VeiledGateway.Text.Search
import VeiledGateway.Text.Utf16
import VeiledGateway.Number.Shortest

set_option autoImplicit false

namespace VeiledGateway.Json

/-- The escape `\uXXXX` of a code unit. -/
def unitEscape (n : Nat) : Text :=
  ("\\u" : Text) ++ Text.hex n 4

/-- The escape that a code point must have in a string. -/
def shortEscape? (c : CodePoint) : Option Text :=
  if c == '"' then some ("\\\"" : Text)
  else if c == '\\' then some ("\\\\" : Text)
  else if c == '\n' then some ("\\n" : Text)
  else if c == '\r' then some ("\\r" : Text)
  else if c == '\t' then some ("\\t" : Text)
  else if c == '\x0C' then some ("\\f" : Text)
  else if c == '\x08' then some ("\\b" : Text)
  else none

def quoteCode (ascii : Bool) (c : CodePoint) : Text :=
  match shortEscape? c with
  | some escape => escape
  | none =>
    if c.val < 0x20 then unitEscape c.val
    else if ascii && 0x7E < c.val then (Utf16.unitsOf c).flatMap unitEscape
    else [c]

def quoteWith (ascii : Bool) (t : Text) : Text :=
  ("\"" : Text) ++ t.flatMap (quoteCode ascii) ++ ("\"" : Text)

/-- The string in quotes, in ASCII alone. -/
def quoteAscii (t : Text) : Text :=
  quoteWith true t

/-- The string in quotes, with no escape that can be left out. -/
def quoteRaw (t : Text) : Text :=
  quoteWith false t

/-- The spelling of a floating-point number. -/
def spellReal (x : Float) : Text :=
  if x.isNaN then "NaN"
  else if x.isInf then (if x < 0 then "-Infinity" else "Infinity")
  else Shortest.spell x

/-- How values are laid out: what stands after a comma and a colon, or the width of a step of
indentation when each item has a line. -/
inductive Style where
  | compact
  | spaced
  | indented (width : Nat)

def newline (width depth : Nat) : Text :=
  (CodePoint.ofChar '\n') :: List.replicate (width * depth) (CodePoint.ofChar ' ')

/-- The parts between brackets. -/
def enclose (style : Style) (depth : Nat) (opening closing : Text) (parts : List Text) : Text :=
  if parts.isEmpty then opening ++ closing
  else
    match style with
    | .compact => opening ++ Text.join "," parts ++ closing
    | .spaced => opening ++ Text.join ", " parts ++ closing
    | .indented width =>
      opening ++ newline width (depth + 1)
        ++ Text.join (("," : Text) ++ newline width (depth + 1)) parts
        ++ newline width depth ++ closing

mutual

def render (ascii : Bool) (style : Style) (depth : Nat) : Json → Text
  | .null => "null"
  | .bool b => if b then "true" else "false"
  | .int i => Text.ofInt i
  | .real x => spellReal x
  | .text t => quoteWith ascii t
  | .list items => enclose style depth "[" "]" (renderItems ascii style (depth + 1) items)
  | .object fields =>
    enclose style depth "\x7b" "\x7d" (renderFields ascii style (depth + 1) fields)

def renderItems (ascii : Bool) (style : Style) (depth : Nat) : List Json → List Text
  | [] => []
  | item :: rest => render ascii style depth item :: renderItems ascii style depth rest

def renderFields (ascii : Bool) (style : Style) (depth : Nat) : List (Text × Json) → List Text
  | [] => []
  | (name, value) :: rest =>
    let colon : Text := match style with
      | .compact => ":"
      | _ => ": "
    (quoteWith ascii name ++ colon ++ render ascii style depth value)
      :: renderFields ascii style depth rest

end

/-- One line in ASCII with no blanks. -/
def toAscii (j : Json) : Text :=
  render true .compact 0 j

/-- One line in ASCII, with a space after each comma and colon. -/
def toSpacedAscii (j : Json) : Text :=
  render true .spaced 0 j

end VeiledGateway.Json
