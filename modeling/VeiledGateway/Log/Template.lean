/-
  Templates of log messages: a text with places for values, each of which begins with `%`.

  A place names the form of its value by one letter; before it may stand the key of the value, flags,
  a width and a precision.  `Template.fill` puts values into the places.
-/
import VeiledGateway.Datum.Basic
import VeiledGateway.Number.Fixed

set_option autoImplicit false

namespace VeiledGateway.Log

inductive TemplateFault where
  /-- A place has no letter. -/
  | incomplete
  /-- The key of a place does not end. -/
  | incompleteKey
  /-- A place has a key, and the values have none. -/
  | noKeys
  | unknownKey (key : Text)
  | tooFewValues
  | tooManyValues
  | unknownForm (letter : CodePoint) (index : Nat)
  /-- A width or a precision is no whole number. -/
  | starNoNumber
  | wideWidth
  | widePrecision
  /-- A whole number is to be written and the value is none. -/
  | noNumber (letter : CodePoint) (kind : Text)
  /-- A whole number is to be written in another base and the value is none. -/
  | noWhole (letter : CodePoint) (kind : Text)
  | noReal (kind : Text)
  | noCode
  | codeRange
  | infinite
  | notANumber
  | largeReal
deriving DecidableEq

/-- The words for a fault. -/
def TemplateFault.message : TemplateFault → Text
  | .incomplete => "incomplete format"
  | .incompleteKey => "incomplete format key"
  | .noKeys => "format requires a mapping"
  | .unknownKey key => Text.quoted key
  | .tooFewValues => "not enough arguments for format string"
  | .tooManyValues => "not all arguments converted during string formatting"
  | .unknownForm letter index =>
    let name := if 31 ≤ letter.val && letter.val ≤ 126 then letter else '?'
    ("unsupported format character '" : Text) ++ [name] ++ ("' (0x" : Text)
      ++ Text.hex letter.val 1 ++ (") at index " : Text) ++ Text.ofNat index
  | .starNoNumber => "* wants int"
  | .wideWidth => "width too big"
  | .widePrecision => "precision too big"
  | .noNumber letter kind =>
    ("%" : Text) ++ [letter] ++ (" format: a real number is required, not " : Text) ++ kind
  | .noWhole letter kind =>
    ("%" : Text) ++ [letter] ++ (" format: an integer is required, not " : Text) ++ kind
  | .noReal kind => ("must be real number, not " : Text) ++ kind
  | .noCode => "%c requires int or char"
  | .codeRange => "%c arg not in range(0x110000)"
  | .infinite => "cannot convert float infinity to integer"
  | .notANumber => "cannot convert float NaN to integer"
  | .largeReal => "int too large to convert to float"

/-- The values that a template is filled with: some in order, or one table of values by key. -/
inductive Values where
  | row (values : List Datum)
  | keyed (table : List (Datum × Datum))

/-- A single table that is not empty is taken as values by key. -/
def Values.ofList : List Datum → Values
  | [.table (e :: entries)] => .keyed (e :: entries)
  | values => .row values

namespace Template

structure Flags where
  left : Bool
  plus : Bool
  space : Bool
  alternate : Bool
  zero : Bool

/-- The form of a value. -/
structure Form where
  flags : Flags
  width : Option Nat
  precision : Option Nat

/-- Where filling stands: the rest of the template and its position, and the values not used yet. -/
structure Filling where
  rest : Text
  index : Nat
  table : Option (List (Datum × Datum))
  left : List Datum

abbrev Step (α : Type) : Type := Filling → Except TemplateFault (α × Filling)

def Filling.skip (f : Filling) (n : Nat) : Filling :=
  { f with rest := f.rest.drop n, index := f.index + n }

/-- The next value. -/
def nextValue : Step Datum := fun f =>
  match f.left with
  | v :: left => .ok (v, { f with left })
  | [] => .error .tooFewValues

/-- The key up to the bracket that closes it; brackets inside are counted. -/
def keyAhead : Nat → Text → Option Text
  | _, [] => none
  | depth, c :: rest =>
    if c == ')' then
      match depth with
      | 0 => some []
      | depth + 1 => (keyAhead depth rest).map (c :: ·)
    else if c == '(' then (keyAhead (depth + 1) rest).map (c :: ·)
    else (keyAhead depth rest).map (c :: ·)

/-- Choose the value of a key, if a key comes. -/
def chooseKey (f : Filling) : Except TemplateFault Filling :=
  match f.rest with
  | c :: rest =>
    if c == '(' then
      match f.table with
      | none => .error .noKeys
      | some table =>
        match keyAhead 0 rest with
        | none => .error .incompleteKey
        | some key =>
          match table.find? fun e => e.1.sameKey (.text key) with
          | some e => .ok { f.skip (key.length + 2) with left := [e.2] }
          | none => .error (.unknownKey key)
    else .ok f
  | [] => .ok f

def flagsOf (t : Text) : Flags :=
  let has (c : Char) : Bool := List.contains t (CodePoint.ofChar c)
  { left := has '-', plus := has '+', space := has ' ', alternate := has '#', zero := has '0' }

def isFlag (c : CodePoint) : Bool :=
  c == '-' || c == '+' || c == ' ' || c == '#' || c == '0'

/-- The largest width. -/
def sizeLimit : Nat := 0x7FFFFFFFFFFFFFFF

/-- The largest precision. -/
def precisionLimit : Nat := 0x7FFFFFFF

/-- A number of digits, or a star for a value; `none` if neither comes. -/
def sizeAhead (limit : Nat) (large : TemplateFault) : Step (Option Int) := fun f =>
  match f.rest with
  | c :: _ =>
    if c == '*' then do
      let (v, f) ← nextValue (f.skip 1)
      match v with
      | .whole i => return (some i, f)
      | .truth b => return (some (if b then 1 else 0), f)
      | _ => throw .starNoNumber
    else
      let digits := f.rest.takeWhile CodePoint.isAsciiDigit
      if digits.isEmpty then .ok (none, f)
      else
        let n := digits.foldl (fun n d => n * 10 + (d.val - 0x30)) 0
        if limit < n then .error large else .ok (some n, f.skip digits.length)
  | [] => .ok (none, f)

def formAhead : Step Form := fun f => do
  let flagText := f.rest.takeWhile isFlag
  let flags := flagsOf flagText
  let (width, f) ← sizeAhead sizeLimit .wideWidth (f.skip flagText.length)
  let flags := if width.any (· < 0) then { flags with left := true } else flags
  let (precision, f) ← (match f.rest with
    | c :: _ =>
      if c == '.' then do
        let (p, f) ← sizeAhead precisionLimit .widePrecision (f.skip 1)
        return (some (p.getD 0).toNat, f)
      else return (none, f)
    | [] => return (none, f) : Except TemplateFault (Option Nat × Filling))
  let f := match f.rest with
    | c :: _ => if c == 'h' || c == 'l' || c == 'L' then f.skip 1 else f
    | [] => f
  return (⟨flags, width.map Int.natAbs, precision⟩, f)

/-- A text filled up with spaces to the width. -/
def pad (form : Form) (t : Text) : Text :=
  let width := form.width.getD 0
  if form.flags.left then Text.padRight t width ' ' else Text.padLeft t width ' '

/-- A number with its sign and the mark of its base, filled up to the width. -/
def padNumber (form : Form) (negative : Bool) (mark body : Text) : Text :=
  let sign : Text :=
    if negative then "-" else if form.flags.plus then "+" else if form.flags.space then " " else []
  if form.flags.zero && !form.flags.left then
    let lead := sign ++ mark
    lead ++ Text.padLeft body (form.width.getD 0 - lead.length) '0'
  else pad form (sign ++ mark ++ body)

def upperText (t : Text) : Text :=
  t.map CodePoint.asciiUpper

/-- The whole number nearest to zero from a value. -/
def truncated (letter : CodePoint) (v : Datum) : Except TemplateFault Int :=
  match v with
  | .whole i => .ok i
  | .truth b => .ok (if b then 1 else 0)
  | .real x =>
    match Exact.ofFloat? x with
    | some r => .ok (Int.tdiv r.num r.den)
    | none => .error (if x.isNaN then .notANumber else .infinite)
  | v => .error (.noNumber letter v.kindName)

def writeWhole (form : Form) (letter : CodePoint) (base : Nat) (mark : Text) (i : Int) : Text :=
  let digits := (Nat.toDigits base i.natAbs).map CodePoint.ofChar
  let digits := Text.padLeft digits (form.precision.getD 0) '0'
  let mark := if form.flags.alternate then mark else []
  if letter == 'X' then padNumber form (i < 0) (upperText mark) (upperText digits)
  else padNumber form (i < 0) mark digits

def writeBased (form : Form) (letter : CodePoint) (v : Datum) : Except TemplateFault Text :=
  let (base, mark) : Nat × Text := if letter == 'o' then (8, "0o") else (16, "0x")
  match v with
  | .whole i => .ok (writeWhole form letter base mark i)
  | .truth b => .ok (writeWhole form letter base mark (if b then 1 else 0))
  | v => .error (.noWhole letter v.kindName)

def writeReal (form : Form) (letter : CodePoint) (v : Datum) : Except TemplateFault Text := do
  let x ← match v with
    | .real x => .ok x
    | .whole i =>
      let x := Float.ofInt i
      if x.isInf then .error .largeReal else .ok x
    | .truth b => .ok (if b then 1 else 0)
    | v => .error (TemplateFault.noReal v.kindName)
  let places := form.precision.getD 6
  let point := form.flags.alternate
  let lower := letter.asciiLower
  let body : Text := match Exact.ofFloat? x with
    | none => if x.isNaN then "nan" else "inf"
    | some r =>
      let size : Rat := if r < 0 then -r else r
      if lower == 'f' then Fixed.fixed size places point
      else if lower == 'e' then Fixed.scientific size places point
      else Fixed.general size places point
  let body := if letter.isAsciiUpper then upperText body else body
  return padNumber form (!x.isNaN && 0x8000000000000000 ≤ x.toBits.toNat) [] body

/-- A quoted text in which everything beyond ASCII is escaped. -/
def asciiWritten (v : Datum) : Text :=
  v.written.flatMap fun c => if c.isAscii then [c] else Text.numericEscape c

def writeText (form : Form) (t : Text) : Text :=
  pad form (match form.precision with
    | some p => t.take p
    | none => t)

def writeCode (form : Form) (v : Datum) : Except TemplateFault Text :=
  let number (i : Int) : Except TemplateFault Text :=
    match if i < 0 then none else CodePoint.ofNat? i.toNat with
    | some c => .ok (pad form [c])
    | none => .error .codeRange
  match v with
  | .text [c] => .ok (pad form [c])
  | .whole i => number i
  | .truth b => number (if b then 1 else 0)
  | _ => .error .noCode

/-- A value in its form. -/
def write (form : Form) (letter : CodePoint) (index : Nat) (v : Datum) :
    Except TemplateFault Text :=
  let is (s : String) : Bool := List.contains (Text.ofString s) letter
  if is "s" then .ok (writeText form v.shown)
  else if is "r" then .ok (writeText form v.written)
  else if is "a" then .ok (writeText form (asciiWritten v))
  else if is "diu" then return writeWhole form letter 10 [] (← truncated letter v)
  else if is "oxX" then writeBased form letter v
  else if is "eEfFgG" then writeReal form letter v
  else if is "c" then writeCode form v
  else .error (.unknownForm letter index)

/-- The text of the place that begins after a `%`. -/
def place : Step Text := fun f =>
  match f.rest with
  | [] => .error .incomplete
  | c :: _ =>
    if c == '%' then .ok ([c], f.skip 1)
    else do
      let f ← chooseKey f
      let (form, f) ← formAhead f
      match f.rest with
      | [] => throw .incomplete
      | letter :: _ =>
        let (v, g) ← nextValue f
        return (← write form letter f.index v, g.skip 1)

/-- The template from a position on; `out` is what came before, reversed. -/
def run : Nat → Filling → Text → Except TemplateFault Text
  | 0, _, out => .ok out.reverse
  | fuel + 1, f, out =>
    match f.rest with
    | [] =>
      if f.table.isNone && !f.left.isEmpty then .error .tooManyValues else .ok out.reverse
    | c :: _ =>
      if c == '%' then do
        let (t, f) ← place (f.skip 1)
        run fuel f (t.reverse ++ out)
      else run fuel (f.skip 1) (c :: out)

/-- A template with values in its places. -/
def fill (template : Text) (values : Values) : Except TemplateFault Text :=
  let start : Filling := match values with
    | .row values => ⟨template, 0, none, values⟩
    | .keyed table => ⟨template, 0, some table, [.table table]⟩
  run (template.length + 1) start []

end Template

end VeiledGateway.Log
