/-
  Writing YAML: a table of texts, numbers and lists of texts, one entry a line.

  A text stands as it is where it reads back as the same text, and otherwise in single quotes, or in
  double quotes with escapes where those cannot hold it.  Long texts are broken at spaces.
-/
import VeiledGateway.Yaml.Scalar
import VeiledGateway.Yaml.Token

set_option autoImplicit false

namespace VeiledGateway.Yaml

/-- What a text holds that matters for the choice of its form. -/
structure Traits where
  /-- It begins or holds what means something else outside quotes. -/
  indicators : Bool
  breaks : Bool
  /-- It holds code points that only an escape can write. -/
  special : Bool
  /-- A blank or a break is at one of its ends. -/
  outerBlanks : Bool
  /-- A space follows a break. -/
  breakSpace : Bool
  /-- A break follows a space. -/
  spaceBreak : Bool

inductive Form where
  | plain
  | single
  | double
deriving DecidableEq

/-- A break that a written text may hold. -/
def isWrittenBreak (c : CodePoint) : Bool :=
  c == '\n' || c.val == 0x85 || c.val == 0x2028 || c.val == 0x2029

/-- A blank, a break or the code point zero. -/
def isGap (c : CodePoint) : Bool :=
  c.val == 0 || endsBlank (some c)

/-- The text holds two code points, one after the other. -/
def hasPair (first second : CodePoint → Bool) : Text → Bool
  | c :: d :: rest => (first c && second d) || hasPair first second (d :: rest)
  | _ => false

/-- What means something else at the beginning of a text. -/
def startsIndicator (t : Text) : Bool :=
  match t with
  | [] => false
  | c :: rest =>
    let gapAhead := match rest with
      | d :: _ => isGap d
      | [] => true
    oneOf "#,[]\x7b\x7d&*!|>'\"%@\x60" (some c) || (oneOf "?:-" (some c) && gapAhead)
      || Text.startsWith t "---" || Text.startsWith t "..."

/-- What means something else inside a text: a colon before a gap, and a mark of comments after one.
-/
def holdsIndicator (t : Text) : Bool :=
  let colon (c : CodePoint) : Bool := c == ':'
  let hash (c : CodePoint) : Bool := c == '#'
  hasPair colon isGap t || (t.getLast?.any colon) || hasPair isGap hash t

def Traits.of (t : Text) : Traits :=
  let ends (p : CodePoint → Bool) : Bool := t.head?.any p || t.getLast?.any p
  let space (c : CodePoint) : Bool := c == ' '
  { indicators := startsIndicator t || holdsIndicator t
    breaks := t.any isWrittenBreak
    special := t.any fun c => !(c == '\n' || (0x20 ≤ c.val && c.val ≤ 0x7E))
    outerBlanks := ends fun c => c == ' ' || isWrittenBreak c
    breakSpace := hasPair isWrittenBreak space t
    spaceBreak := hasPair space isWrittenBreak t }

/-- A text that would read back as something else. -/
def readsOtherwise (t : Text) : Bool :=
  Tag.ofPlain t != .text

/-- The form in which a text is written. -/
def formOf (t : Text) : Form :=
  let traits := Traits.of t
  if t.isEmpty then .single
  else if traits.spaceBreak || traits.special then .double
  else if traits.breakSpace then .double
  else if traits.outerBlanks || traits.breaks || traits.indicators || readsOtherwise t then .single
  else .plain

/-! ## Writing on lines -/

/-- Lines after which a text is broken. -/
def bestWidth : Nat := 80

/-- Text that has been written, reversed, and the column after it. -/
structure Page where
  out : Text
  column : Nat

namespace Page

def write (p : Page) (t : Text) : Page :=
  ⟨t.reverse ++ p.out, p.column + t.length⟩

/-- A new line, which begins at a column. -/
def indent (p : Page) (depth : Nat) : Page :=
  ⟨List.replicate depth (CodePoint.ofChar ' ') ++ CodePoint.ofChar '\n' :: p.out, depth⟩

/-- A line break as it stands in a text. -/
def lineBreak (p : Page) (c : CodePoint) : Page :=
  ⟨c :: p.out, 0⟩

/-- The column of texts that go on on a new line. -/
def depth : Nat := 2

end Page

/-- The spaces that `t` begins with are written, or a line is broken there: a single space that is
not at an end, beyond the best width. -/
def writeSpaces (first : Bool) (spaces rest : Text) (p : Page) : Page :=
  if spaces.length = 1 && Nat.blt bestWidth p.column && !first && !rest.isEmpty then p.indent Page.depth
  else p.write spaces

def isSpace (c : CodePoint) : Bool :=
  c == ' '

/-- A text as it is, broken at single spaces. -/
def writePlain : Nat → Bool → Text → Page → Page
  | 0, _, _, p => p
  | fuel + 1, first, t, p =>
    match t with
    | [] => p
    | c :: _ =>
      if isSpace c then
        let rest := t.dropWhile isSpace
        writePlain fuel false rest (writeSpaces first (t.takeWhile isSpace) rest p)
      else
        let word := t.takeWhile fun d => !isSpace d
        writePlain fuel false (t.drop word.length) (p.write word)

/-- The breaks that a quoted text holds.  The first line feed of a row needs one more. -/
def writeBreaks (breaks : Text) (p : Page) : Page :=
  let p := if breaks.head?.any (fun (c : CodePoint) => c == '\n') then p.lineBreak '\n' else p
  let p := breaks.foldl (fun p c => p.lineBreak c) p
  ⟨List.replicate Page.depth (CodePoint.ofChar ' ') ++ p.out, Page.depth⟩

/-- The inside of single quotes, in which a quote is written twice. -/
def writeSingle : Nat → Bool → Text → Page → Page
  | 0, _, _, p => p
  | fuel + 1, first, t, p =>
    match t with
    | [] => p
    | c :: rest =>
      if isSpace c then
        let rest := t.dropWhile isSpace
        writeSingle fuel false rest (writeSpaces first (t.takeWhile isSpace) rest p)
      else if isWrittenBreak c then
        writeSingle fuel false (t.dropWhile isWrittenBreak)
          (writeBreaks (t.takeWhile isWrittenBreak) p)
      else if c == '\'' then writeSingle fuel false rest (p.write [c, c])
      else
        let stops (d : CodePoint) : Bool := isSpace d || isWrittenBreak d || d == '\''
        let word := t.takeWhile fun d => !stops d
        writeSingle fuel false (t.drop word.length) (p.write word)

/-- The letter of the escape of a code point that has one. -/
def escapeLetter? (c : CodePoint) : Option Char :=
  ([(0, '0'), (7, 'a'), (8, 'b'), (9, 't'), (10, 'n'), (11, 'v'), (12, 'f'), (13, 'r'), (27, 'e'),
    (34, '"'), (92, '\\'), (0x85, 'N'), (0xA0, '_'), (0x2028, 'L'), (0x2029, 'P')] :
    List (Nat × Char)).lookup c.val

def upperHex (n width : Nat) : Text :=
  (Text.hex n width).map CodePoint.asciiUpper

/-- The escape of a code point. -/
def escapeOf (c : CodePoint) : Text :=
  match escapeLetter? c with
  | some letter => [CodePoint.ofChar '\\', CodePoint.ofChar letter]
  | none =>
    if c.val ≤ 0xFF then ("\\x" : Text) ++ upperHex c.val 2
    else if c.val ≤ 0xFFFF then ("\\u" : Text) ++ upperHex c.val 4
    else ("\\U" : Text) ++ upperHex c.val 8

/-- A code point that stands for itself in double quotes. -/
def isBare (c : CodePoint) : Bool :=
  0x20 ≤ c.val && c.val ≤ 0x7E && c != '"' && c != '\\'

/-- The inside of double quotes.  `held` are code points that are not written yet, reversed.  A line
that is broken ends in a backslash, and a space at the beginning of the next has one before it. -/
def writeDouble (size : Nat) : Nat → Text → Text → Page → Page
  | _, [], held, p => p.write held.reverse
  | at_, c :: rest, held, p =>
    let (held, p) := if isBare c then (held, p) else ([], (p.write held.reverse).write (escapeOf c))
    let breaks := 0 < at_ && at_ + 1 < size && (isSpace c || !isBare c)
      && Nat.blt bestWidth (p.column + held.length)
    let (held, p) :=
      if breaks then
        let p := (p.write (held.reverse ++ ("\\" : Text))).indent Page.depth
        let ahead := if isBare c then isSpace c else rest.head?.any isSpace
        ([], if ahead then p.write "\\" else p)
      else (held, p)
    writeDouble size (at_ + 1) rest (if isBare c then c :: held else held) p

/-- A text in its form. -/
def writeText (t : Text) (p : Page) : Page :=
  match formOf t with
  | .plain => writePlain (t.length + 1) true t p
  | .single => (writeSingle (t.length + 1) true t (p.write "'")).write "'"
  | .double => (writeDouble t.length 0 t [] (p.write "\"")).write "\""

/-- A value of a table. -/
inductive Value where
  | nothing
  | whole (i : Int)
  | text (t : Text)
  | list (ts : List Text)

def lineText (lead : Text) (t : Text) : Text :=
  (writeText t ⟨lead.reverse, lead.length⟩).out.reverse ++ ("\n" : Text)

/-- An entry of a table. -/
def entryText (name : Text) : Value → Text
  | .nothing => name ++ (": null\n" : Text)
  | .whole i => name ++ (": " : Text) ++ Text.ofInt i ++ ("\n" : Text)
  | .text t => lineText (name ++ (": " : Text)) t
  | .list [] => name ++ (": []\n" : Text)
  | .list ts => name ++ (":\n" : Text) ++ ts.flatMap (lineText "- ")

/-- A table. -/
def tableText (entries : List (Text × Value)) : Text :=
  entries.flatMap fun e => entryText e.1 e.2

end VeiledGateway.Yaml
