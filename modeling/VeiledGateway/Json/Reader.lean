/-
  Reading JSON.

  `Json.read?` takes the whole text or nothing.  The names of not-a-number and the infinities are
  taken as numbers.  A `\u` escape of a lone surrogate half is kept, or refused by the `strict`
  reader, whose texts always have an encoding.
-/
import VeiledGateway.Json.Value
import VeiledGateway.Number.Decimal
import VeiledGateway.Text.Search
import VeiledGateway.Text.Utf16

set_option autoImplicit false

namespace VeiledGateway.Json

/-- The blanks between the parts of a value. -/
def isSpace (c : CodePoint) : Bool :=
  c == ' ' || c == '\n' || c == '\r' || c == '\t'

def skipSpace (t : Text) : Text :=
  t.dropWhile isSpace

/-- The value of four hexadecimal digits, and the rest. -/
def hex4? : Text → Option (Nat × Text)
  | a :: b :: c :: d :: rest => do
    let a ← a.hexValue?
    let b ← b.hexValue?
    let c ← c.hexValue?
    let d ← d.hexValue?
    some (((a * 16 + b) * 16 + c) * 16 + d, rest)
  | _ => none

/-- The code point of a one-letter escape. -/
def escape? (c : CodePoint) : Option CodePoint :=
  if c == '"' then some '"'
  else if c == '\\' then some '\\'
  else if c == '/' then some '/'
  else if c == 'b' then some '\x08'
  else if c == 'f' then some '\x0C'
  else if c == 'n' then some '\n'
  else if c == 'r' then some '\r'
  else if c == 't' then some '\t'
  else none

/-- The code point after `\u`, with a second escape that completes a pair. -/
def unicodeEscape? (strict : Bool) (t : Text) : Option (CodePoint × Text) := do
  let (n, rest) ← hex4? t
  let c := CodePoint.ofNat n
  if c.isHighSurrogate then
    let paired : Option (CodePoint × Text) := do
      let after ← Text.dropPrefix? rest "\\u"
      let (m, rest) ← hex4? after
      let d := CodePoint.ofNat m
      if d.isLowSurrogate then some (Utf16.pair c d, rest) else none
    match paired with
    | some result => some result
    | none => if strict then none else some (c, rest)
  else if strict && c.isSurrogate then none
  else some (c, rest)

/-- The text up to the closing quote, and the rest after it. -/
def readText? (strict : Bool) : Nat → Text → Option (Text × Text)
  | 0, _ => none
  | _, [] => none
  | fuel + 1, c :: rest =>
    if c == '"' then some ([], rest)
    else if c.val < 0x20 then none
    else if c == '\\' then
      match rest with
      | [] => none
      | e :: after =>
        if e == 'u' then do
          let (d, after) ← unicodeEscape? strict after
          let (t, after) ← readText? strict fuel after
          some (d :: t, after)
        else do
          let d ← escape? e
          let (t, after) ← readText? strict fuel after
          some (d :: t, after)
    else do
      let (t, after) ← readText? strict fuel rest
      some (c :: t, after)

/-- A number after its sign. -/
def readNumber? (negative : Bool) (t : Text) : Option (Json × Text) := do
  let whole := t.takeWhile CodePoint.isAsciiDigit
  let rest := t.dropWhile CodePoint.isAsciiDigit
  if whole.isEmpty then none
  let zeroLed := 1 < whole.length && whole.head? == some (CodePoint.ofChar '0')
  if zeroLed then none
  let (fraction, rest) ←
    match rest with
    | p :: after =>
      if p == '.' then
        let ds := after.takeWhile CodePoint.isAsciiDigit
        if ds.isEmpty then none else some (some ds, after.dropWhile CodePoint.isAsciiDigit)
      else some (none, rest)
    | [] => some (none, rest)
  let (exponent, rest) ←
    match rest with
    | e :: after =>
      if e == 'e' || e == 'E' then
        let (minus, after) :=
          match after with
          | s :: more => if s == '-' then (true, more) else if s == '+' then (false, more) else (false, after)
          | [] => (false, after)
        let ds := after.takeWhile CodePoint.isAsciiDigit
        if ds.isEmpty then none
        else
          let n : Int := Decimal.digitsValue ds
          some (some (if minus then -n else n), after.dropWhile CodePoint.isAsciiDigit)
      else some (none, rest)
    | [] => some (none, rest)
  match fraction, exponent with
  | none, none =>
    let n : Int := Decimal.digitsValue whole
    some (.int (if negative then -n else n), rest)
  | _, _ =>
    let ds := fraction.getD []
    some (.real (Decimal.toFloat negative (Decimal.digitsValue (whole ++ ds)) (exponent.getD 0 - ds.length)), rest)

mutual

/-- A value at the front of the text, and the rest after it. -/
def readValue? (strict : Bool) : Nat → Text → Option (Json × Text)
  | 0, _ => none
  | fuel + 1, t =>
    match t with
    | [] => none
    | c :: rest =>
      if c == '"' then do
        let (s, rest) ← readText? strict (rest.length + 1) rest
        some (.text s, rest)
      else if c == '{' then
        match skipSpace rest with
        | d :: after =>
          if d == '}' then some (.object [], after)
          else do
            let (pairs, rest) ← readFields? strict fuel (d :: after)
            some (.object (Entries.ofPairs pairs), rest)
        | [] => none
      else if c == '[' then
        match skipSpace rest with
        | d :: after =>
          if d == ']' then some (.list [], after)
          else do
            let (items, rest) ← readItems? strict fuel (d :: after)
            some (.list items, rest)
        | [] => none
      else if c == '-' then
        match Text.dropPrefix? rest "Infinity" with
        | some after => some (.real (-1.0 / 0.0), after)
        | none => readNumber? true rest
      else if c.isAsciiDigit then readNumber? false t
      else
        match Text.dropPrefix? t "null", Text.dropPrefix? t "true", Text.dropPrefix? t "false",
            Text.dropPrefix? t "NaN", Text.dropPrefix? t "Infinity" with
        | some rest, _, _, _, _ => some (.null, rest)
        | _, some rest, _, _, _ => some (.bool true, rest)
        | _, _, some rest, _, _ => some (.bool false, rest)
        | _, _, _, some rest, _ => some (.real (0.0 / 0.0), rest)
        | _, _, _, _, some rest => some (.real (1.0 / 0.0), rest)
        | _, _, _, _, _ => none

/-- The fields up to the closing brace. -/
def readFields? (strict : Bool) : Nat → Text → Option (List (Text × Json) × Text)
  | 0, _ => none
  | fuel + 1, t =>
    match t with
    | [] => none
    | q :: rest =>
      if q != '"' then none
      else do
        let (name, rest) ← readText? strict (rest.length + 1) rest
        match skipSpace rest with
        | [] => none
        | colon :: rest =>
          if colon != ':' then none
          else do
            let (value, rest) ← readValue? strict fuel (skipSpace rest)
            match skipSpace rest with
            | [] => none
            | d :: rest =>
              if d == '}' then some ([(name, value)], rest)
              else if d == ',' then do
                let (pairs, rest) ← readFields? strict fuel (skipSpace rest)
                some ((name, value) :: pairs, rest)
              else none

/-- The items up to the closing bracket. -/
def readItems? (strict : Bool) : Nat → Text → Option (List Json × Text)
  | 0, _ => none
  | fuel + 1, t => do
    let (value, rest) ← readValue? strict fuel t
    match skipSpace rest with
    | [] => none
    | d :: rest =>
      if d == ']' then some ([value], rest)
      else if d == ',' then do
        let (items, rest) ← readItems? strict fuel (skipSpace rest)
        some (value :: items, rest)
      else none

end

/-- The value that the whole text writes. -/
def readWith? (strict : Bool) (t : Text) : Option Json := do
  let (value, rest) ← readValue? strict (t.length + 1) (skipSpace t)
  if (skipSpace rest).isEmpty then some value else none

/-- The value of a text, lone surrogate halves kept. -/
def read? (t : Text) : Option Json :=
  readWith? false t

end VeiledGateway.Json
