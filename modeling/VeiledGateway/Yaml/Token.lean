/-
  The tokens of a YAML document.

  `Token.scan` cuts a text into tokens.  Indentation becomes tokens of its own: where a line begins
  further right than the collections around it, a collection starts, and where one begins further
  left, collections end.  A key is known as one only by the colon after it, so the place of every
  token that may begin a key is kept until the colon comes or can come no more.
-/
import VeiledGateway.Yaml.Fault
import VeiledGateway.Text.Utf8

set_option autoImplicit false

namespace VeiledGateway.Yaml

inductive Directive where
  /-- The version of the format. -/
  | version (major : Nat)
  /-- What a handle of tags stands for. -/
  | handle (name lead : Text)
  | other
deriving DecidableEq

inductive Token where
  | directive (d : Directive)
  | documentStart
  | documentEnd
  | blockListStart
  | blockTableStart
  | blockEnd
  | flowListStart
  | flowListEnd
  | flowTableStart
  | flowTableEnd
  | item
  | comma
  | key
  | value
  | again (name : Text)
  | anchor (name : Text)
  | tag (handle : Option Text) (suffix : Text)
  | scalar (t : Text) (plain : Bool)
deriving DecidableEq

/-! ## Classes of code points -/

/-- A code point that may stand in a document. -/
def isAllowed (c : CodePoint) : Bool :=
  c == '\t' || c == '\n' || c == '\r' || (0x20 ≤ c.val && c.val ≤ 0x7E) || c.val == 0x85
    || (0xA0 ≤ c.val && c.val ≤ 0xD7FF) || (0xE000 ≤ c.val && c.val ≤ 0xFFFD)
    || 0x10000 ≤ c.val

def isBreak (c : CodePoint) : Bool :=
  c == '\n' || c == '\r' || c.val == 0x85 || c.val == 0x2028 || c.val == 0x2029

/-- The text ends here, or the line does. -/
def endsLine : Option CodePoint → Bool
  | none => true
  | some c => isBreak c

/-- The text ends here, or the line, or a space comes. -/
def endsWord : Option CodePoint → Bool
  | none => true
  | some c => c == ' ' || isBreak c

/-- The text ends here, or the line, or a space or a tabulator comes. -/
def endsBlank : Option CodePoint → Bool
  | none => true
  | some c => c == ' ' || c == '\t' || isBreak c

def isNameCode (c : CodePoint) : Bool :=
  c.isAsciiLetter || c.isAsciiDigit || c == '-' || c == '_'

/-- One of the code points of a string comes. -/
def oneOf (s : String) : Option CodePoint → Bool
  | none => false
  | some c => List.contains (Text.ofString s) c

/-! ## The place of reading -/

/-- What is left to read, and where it begins. -/
structure Cursor where
  rest : Text
  index : Nat
  line : Nat
  column : Nat

namespace Cursor

def peek (c : Cursor) : Option CodePoint :=
  c.rest.head?

def peekAt (c : Cursor) (n : Nat) : Option CodePoint :=
  (c.rest.drop n).head?

/-- One code point further.  A byte order mark takes no column. -/
def next (c : Cursor) : Cursor :=
  match c.rest with
  | [] => c
  | d :: rest =>
    let halfBreak := d == '\r' && (match rest with
      | e :: _ => e == '\n'
      | [] => false)
    if isBreak d && !halfBreak then ⟨rest, c.index + 1, c.line + 1, 0⟩
    else ⟨rest, c.index + 1, c.line, if d.val = 0xFEFF then c.column else c.column + 1⟩

def skip : Nat → Cursor → Cursor
  | 0, c => c
  | n + 1, c => skip n c.next

/-- Past the code points of a class, which come back too. -/
def spanWhile (p : CodePoint → Bool) (c : Cursor) : Text × Cursor :=
  let run := c.rest.takeWhile p
  (run, skip run.length c)

def skipSpaces (c : Cursor) : Cursor :=
  (c.spanWhile fun d => d == ' ').2

/-- Past a comment, if one begins here. -/
def skipComment (c : Cursor) : Cursor :=
  if oneOf "#" c.peek then (c.spanWhile fun d => !isBreak d).2 else c

/-- Past a line break, if one is here.  The two separators of the larger character set are kept as
they are; every other break becomes a line feed. -/
def lineBreak (c : Cursor) : Text × Cursor :=
  match c.rest with
  | [] => ([], c)
  | d :: rest =>
    if d.val = 0x2028 || d.val = 0x2029 then ([d], c.next)
    else if isBreak d then
      let both := d == '\r' && oneOf "\n" rest.head?
      ("\n", if both then c.next.next else c.next)
    else ([], c)

/-- A mark that begins or ends a document stands here. -/
def atMark (mark : Text) (c : Cursor) : Bool :=
  c.rest.take 3 == mark && endsBlank (c.peekAt 3)

def atDocumentMark (c : Cursor) : Bool :=
  c.atMark "---" || c.atMark "..."

/-- The end of a line on which nothing but a comment may follow. -/
def ignoredLine (c : Cursor) : Except Fault Cursor :=
  let c := c.skipSpaces.skipComment
  if endsLine c.peek then .ok c.lineBreak.2 else .error .malformed

end Cursor

/-! ## Tags and anchors -/

/-- A name of letters, digits, hyphens and underscores. -/
def readName (c : Cursor) : Except Fault (Text × Cursor) :=
  match c.spanWhile isNameCode with
  | ([], _) => .error .malformed
  | r => .ok r

/-- The name of an anchor, after the mark for it. -/
def readAnchor (c : Cursor) : Except Fault (Text × Cursor) := do
  let (name, c) ← readName c.next
  if endsBlank c.peek || oneOf "?:,]\x7d%@\x60" c.peek then return (name, c) else throw .malformed

/-- The bytes of a run of escapes `%XX`. -/
def uriBytes : Text → Except Fault (List UInt8 × Nat)
  | p :: a :: b :: rest =>
    if p == '%' then
      match a.hexValue?, b.hexValue? with
      | some x, some y => do
        let (bytes, n) ← uriBytes rest
        return (UInt8.ofNat (x * 16 + y) :: bytes, n + 3)
      | _, _ => .error .malformed
    else .ok ([], 0)
  | p :: _ => if p == '%' then .error .malformed else .ok ([], 0)
  | [] => .ok ([], 0)

def isUriCode (c : CodePoint) : Bool :=
  c.isAsciiLetter || c.isAsciiDigit || oneOf "-;/?:@&=+$,_.!~*'()[]" (some c)

/-- The code points of a tag, of which escapes are one code point each. -/
def uriRun : Nat → Cursor → Except Fault (Text × Cursor)
  | 0, c => .ok ([], c)
  | fuel + 1, c =>
    match c.peek with
    | none => .ok ([], c)
    | some d =>
      if d == '%' then do
        let (bytes, n) ← uriBytes c.rest
        match Utf8.decode bytes with
        | .error _ => throw Fault.malformed
        | .ok t =>
          let (more, c) ← uriRun fuel (c.skip n)
          return (t ++ more, c)
      else if isUriCode d then do
        let (more, c) ← uriRun fuel c.next
        return (d :: more, c)
      else .ok ([], c)

def readUri (c : Cursor) : Except Fault (Text × Cursor) := do
  let (uri, after) ← uriRun (c.rest.length + 1) c
  if after.index = c.index then throw .malformed
  return (uri, after)

/-- A handle of tags: a mark alone, or a name between two. -/
def readHandle (c : Cursor) : Except Fault (Text × Cursor) :=
  if !oneOf "!" c.peek then .error .malformed
  else if oneOf " " (c.peekAt 1) then .ok (c.rest.take 1, c.skip 1)
  else
    let name := (c.rest.drop 1).takeWhile isNameCode
    if oneOf "!" (c.peekAt (name.length + 1)) then
      .ok (c.rest.take (name.length + 2), c.skip (name.length + 2))
    else .error .malformed

/-- A mark for tags comes before the next space. -/
def hasSecondMark (t : Text) : Bool :=
  (t.takeWhile fun d => !endsWord (some d)).any fun d => d == '!'

def readTag (c : Cursor) : Except Fault (Token × Cursor) := do
  let (token, c) ← (do
    if oneOf "<" (c.peekAt 1) then
      let (uri, c) ← readUri (c.skip 2)
      if oneOf ">" c.peek then return (Token.tag none uri, c.next) else throw Fault.malformed
    else if endsBlank (c.peekAt 1) then return (Token.tag none "!", c.next)
    else
      let (handle, c) ← if hasSecondMark (c.rest.drop 1) then readHandle c
        else (.ok (("!" : Text), c.next) : Except Fault (Text × Cursor))
      let (uri, c) ← readUri c
      return (Token.tag (some handle) uri, c))
  if endsWord c.peek then return (token, c) else throw .malformed

/-! ## Directives -/

def readNumber (c : Cursor) : Except Fault (Nat × Cursor) :=
  match c.spanWhile CodePoint.isAsciiDigit with
  | ([], _) => .error .malformed
  | (digits, c) => .ok (digits.foldl (fun n d => n * 10 + (d.val - 0x30)) 0, c)

def readVersion (c : Cursor) : Except Fault (Directive × Cursor) := do
  let (major, c) ← readNumber c.skipSpaces
  if !oneOf "." c.peek then throw .malformed
  let (_, c) ← readNumber c.next
  if endsWord c.peek then return (.version major, c) else throw .malformed

def readHandleLead (c : Cursor) : Except Fault (Directive × Cursor) := do
  let (handle, c) ← readHandle c.skipSpaces
  if !oneOf " " c.peek then throw .malformed
  let (lead, c) ← readUri c.skipSpaces
  if endsWord c.peek then return (.handle handle lead, c) else throw .malformed

def readDirective (c : Cursor) : Except Fault (Directive × Cursor) := do
  let (name, c) ← readName c.next
  if !endsWord c.peek then throw .malformed
  let (d, c) ←
    if name.eqString "YAML" then readVersion c
    else if name.eqString "TAG" then readHandleLead c
    else .ok (Directive.other, (c.spanWhile fun d => !isBreak d).2)
  return (d, ← c.ignoredLine)

/-! ## Scalars over several lines -/

/-- How the line breaks at the end of a block are kept. -/
inductive Chomping where
  | clip
  | strip
  | keep
deriving DecidableEq

def chomping? : Option CodePoint → Option Chomping
  | some c => if c == '+' then some .keep else if c == '-' then some .strip else none
  | none => none

def blockDigit? : Option CodePoint → Option Nat
  | some c => if c.isAsciiDigit then some (c.val - 0x30) else none
  | none => none

/-- What stands after the mark of a block: how its end is kept and how far it is indented. -/
def readBlockHeader (c : Cursor) : Except Fault (Chomping × Option Nat × Cursor) := do
  let (chomping, depth, c) ← (match chomping? c.peek with
    | some chomping =>
      match blockDigit? c.next.peek with
      | some n => .ok (chomping, some n, c.next.next)
      | none => .ok (chomping, none, c.next)
    | none =>
      match blockDigit? c.peek with
      | some n =>
        match chomping? c.next.peek with
        | some chomping => .ok (chomping, some n, c.next.next)
        | none => .ok (.clip, some n, c.next)
      | none => .ok (.clip, none, c) : Except Fault (Chomping × Option Nat × Cursor))
  if depth = some 0 || !endsWord c.peek then throw .malformed
  return (chomping, depth, ← c.ignoredLine)

/-- The empty lines before the first line of a block, and the furthest column of them. -/
def blockIndentation : Nat → Cursor → Text → Nat → Text × Nat × Cursor
  | 0, c, breaks, furthest => (breaks, furthest, c)
  | fuel + 1, c, breaks, furthest =>
    match c.peek with
    | some d =>
      if d == ' ' then blockIndentation fuel c.next breaks (max furthest c.next.column)
      else if isBreak d then
        let (b, c) := c.lineBreak
        blockIndentation fuel c (breaks ++ b) furthest
      else (breaks, furthest, c)
    | none => (breaks, furthest, c)

def skipIndentation : Nat → Nat → Cursor → Cursor
  | 0, _, c => c
  | fuel + 1, depth, c =>
    if c.column < depth && oneOf " " c.peek then skipIndentation fuel depth c.next else c

/-- The empty lines before the next line of a block that is indented to `depth`. -/
def blockBreaks (depth : Nat) : Nat → Cursor → Text → Text × Cursor
  | 0, c, breaks => (breaks, c)
  | fuel + 1, c, breaks =>
    let c := skipIndentation depth depth c
    match c.peek with
    | some d =>
      if isBreak d then
        let (b, c) := c.lineBreak
        blockBreaks depth fuel c (breaks ++ b)
      else (breaks, c)
    | none => (breaks, c)

/-- The lines of a block.  In a folded one, a line break between two lines that begin with no blank
becomes a space. -/
def blockLines (folded : Bool) (depth : Nat) :
    Nat → Cursor → Text → Text → Text → Text × Text × Text × Cursor
  | 0, c, out, lastBreak, breaks => (out, lastBreak, breaks, c)
  | fuel + 1, c, out, lastBreak, breaks =>
    if c.column = depth && c.peek.isSome then
      let bare := !oneOf " \t" c.peek
      let (line, c) := c.spanWhile fun d => !isBreak d
      let (lastBreak, c) := c.lineBreak
      let out := out ++ breaks ++ line
      let (breaks, c) := blockBreaks depth (c.rest.length + 1) c []
      if c.column = depth && c.peek.isSome then
        let folds := folded && lastBreak.eqString "\n" && bare && !oneOf " \t" c.peek
        let glue : Text := if folds then (if breaks.isEmpty then " " else []) else lastBreak
        blockLines folded depth fuel c (out ++ glue) lastBreak breaks
      else (out, lastBreak, breaks, c)
    else (out, lastBreak, breaks, c)

/-- A block scalar; `around` is the column of the collection around it. -/
def readBlock (folded : Bool) (around : Int) (c : Cursor) : Except Fault (Text × Cursor) := do
  let (chomping, step, c) ← readBlockHeader c.next
  let least := max 1 (around + 1).toNat
  let (breaks, depth, c) := match step with
    | none =>
      let (breaks, furthest, c) := blockIndentation (c.rest.length + 1) c [] 0
      (breaks, max least furthest, c)
    | some n =>
      let depth := least + n - 1
      let (breaks, c) := blockBreaks depth (c.rest.length + 1) c []
      (breaks, depth, c)
  let (out, lastBreak, breaks, c) := blockLines folded depth (c.rest.length + 1) c [] [] breaks
  let tail := match chomping with
    | .strip => []
    | .clip => lastBreak
    | .keep => lastBreak ++ breaks
  return (out ++ tail, c)

/-- The empty lines inside a quoted scalar; no document may begin or end there. -/
def quotedBreaks : Nat → Cursor → Text → Except Fault (Text × Cursor)
  | 0, c, out => .ok (out, c)
  | fuel + 1, c, out =>
    if c.atDocumentMark then .error .malformed
    else
      let c := (c.spanWhile fun d => d == ' ' || d == '\t').2
      match c.peek with
      | some d =>
        if isBreak d then
          let (b, c) := c.lineBreak
          quotedBreaks fuel c (out ++ b)
        else .ok (out, c)
      | none => .ok (out, c)

/-- Blanks inside a quoted scalar; a single line break becomes a space. -/
def quotedBlanks (c : Cursor) : Except Fault (Text × Cursor) := do
  let (blanks, c) := c.spanWhile fun d => d == ' ' || d == '\t'
  match c.peek with
  | none => throw .malformed
  | some d =>
    if isBreak d then
      let (b, c) := c.lineBreak
      let (breaks, c) ← quotedBreaks (c.rest.length + 1) c []
      let lead : Text := if b.eqString "\n" then (if breaks.isEmpty then " " else []) else b
      return (lead ++ breaks, c)
    else return (blanks, c)

/-- The code point that an escape of one letter stands for. -/
def shortEscape? (c : CodePoint) : Option Nat :=
  (List.map (fun (p : Char × Nat) => (CodePoint.ofChar p.1, p.2))
    [('0', 0), ('a', 7), ('b', 8), ('t', 9), ('\t', 9), ('n', 10), ('v', 11), ('f', 12), ('r', 13),
      ('e', 27), (' ', 32), ('"', 34), ('\\', 92), ('/', 47), ('N', 0x85), ('_', 0xA0),
      ('L', 0x2028), ('P', 0x2029)]).lookup c

/-- How many digits follow the letter of a numeric escape. -/
def escapeWidth? (c : CodePoint) : Option Nat :=
  if c == 'x' then some 2 else if c == 'u' then some 4 else if c == 'U' then some 8 else none

def readEscape (c : Cursor) : Except Fault (Text × Cursor) :=
  match c.peek with
  | none => .error .malformed
  | some d =>
    match shortEscape? d, escapeWidth? d with
    | some n, _ => .ok ([CodePoint.ofNat n], c.next)
    | none, some width =>
      match (c.rest.drop 1 |>.take width).mapM CodePoint.hexValue? with
      | some values =>
        if values.length < width then .error .malformed
        else
          let n := values.foldl (fun n v => n * 16 + v) 0
          match CodePoint.ofNat? n with
          | some e => .ok ([e], c.skip (width + 1))
          | none => .error (.codeRange n)
      | none => .error .malformed
    | none, none =>
      if isBreak d then quotedBreaks (c.rest.length + 1) c.lineBreak.2 [] else .error .malformed

/-- The inside of a quoted scalar and its closing quote; `out` is what came before, reversed. -/
def quotedInside (double : Bool) : Nat → Cursor → Text → Except Fault (Text × Cursor)
  | 0, _, _ => .error .malformed
  | fuel + 1, c, out =>
    match c.peek with
    | none => .error .malformed
    | some d =>
      if d == ' ' || d == '\t' || isBreak d then do
        let (t, c) ← quotedBlanks c
        quotedInside double fuel c (t.reverse ++ out)
      else if double && d == '\\' then do
        let (t, c) ← readEscape c.next
        quotedInside double fuel c (t.reverse ++ out)
      else if !double && d == '\'' && oneOf "'" (c.peekAt 1) then
        quotedInside double fuel (c.skip 2) (d :: out)
      else if d = CodePoint.ofChar (if double then '"' else '\'') then .ok (out.reverse, c.next)
      else quotedInside double fuel c.next (d :: out)

/-! ## Plain scalars -/

/-- The code points up to the next blank, or up to what ends a plain scalar. -/
def plainRun (flow : Bool) : Text → Text
  | [] => []
  | c :: rest =>
    let ends := endsBlank (some c)
      || (c == ':' && (endsBlank rest.head? || (flow && oneOf ",[]\x7b\x7d" rest.head?)))
      || (flow && oneOf ",?[]\x7b\x7d" (some c))
    if ends then [] else c :: plainRun flow rest

/-- The empty lines inside a plain scalar; nothing if a document begins or ends there. -/
def plainBreaks : Nat → Cursor → Text → Option Text × Cursor
  | 0, c, out => (some out, c)
  | fuel + 1, c, out =>
    match c.peek with
    | some d =>
      if d == ' ' then plainBreaks fuel c.next out
      else if isBreak d then
        let (b, c) := c.lineBreak
        if c.atDocumentMark then (none, c) else plainBreaks fuel c (out ++ b)
      else (some out, c)
    | none => (some out, c)

/-- The blanks between two runs of a plain scalar, and whether a line break is among them. -/
def plainBlanks (c : Cursor) : Text × Bool × Cursor :=
  let (spaces, c) := c.spanWhile fun d => d == ' '
  match c.peek with
  | some d =>
    if isBreak d then
      let (b, c) := c.lineBreak
      if c.atDocumentMark then ([], true, c)
      else
        match plainBreaks (c.rest.length + 1) c [] with
        | (none, c) => ([], true, c)
        | (some breaks, c) =>
          let lead : Text := if b.eqString "\n" then (if breaks.isEmpty then " " else []) else b
          (lead ++ breaks, true, c)
    else (spaces, false, c)
  | none => (spaces, false, c)

/-- A plain scalar; the flag tells that the line has ended after its last run.  `blanks` stand
before the next run. -/
def plainRuns (flow : Bool) (depth : Int) :
    Nat → Cursor → Text → Text → Bool → Text × Bool × Cursor
  | 0, c, out, _, ended => (out, ended, c)
  | fuel + 1, c, out, blanks, ended =>
    let run := if oneOf "#" c.peek then [] else plainRun flow c.rest
    if run.isEmpty then (out, ended, c)
    else
      let out := out ++ blanks ++ run
      let (blanks, ended, c) := plainBlanks (c.skip run.length)
      if blanks.isEmpty || oneOf "#" c.peek || (!flow && c.column < depth) then (out, ended, c)
      else plainRuns flow depth fuel c out blanks ended

/-! ## Scanning -/

/-- A token that may turn out to begin a key. -/
structure KeyPlace where
  /-- The number of the token. -/
  number : Nat
  /-- Nothing but a key can stand there. -/
  required : Bool
  index : Nat
  line : Nat
  column : Nat

structure Scan extends Cursor where
  /-- The column of the innermost block collection; before any, one left of the first column. -/
  depth : Int
  /-- The columns of the block collections around it. -/
  outer : List Int
  /-- A key may begin here. -/
  fresh : Bool
  /-- Tokens that may begin keys, one for each flow collection that is open, innermost first, and
  one outside of them. -/
  keys : List (Option KeyPlace)
  tokens : Array Token

namespace Scan

def start (t : Text) : Scan :=
  { rest := t, index := 0, line := 0, column := 0, depth := -1, outer := [], fresh := true
    keys := [none], tokens := #[] }

def inFlow (s : Scan) : Bool :=
  1 < s.keys.length

def emit (s : Scan) (token : Token) : Scan :=
  { s with tokens := s.tokens.push token }

def moveTo (s : Scan) (c : Cursor) : Scan :=
  { s with toCursor := c }

/-- How far a key may reach. -/
def keyLimit : Nat := 1024

def isStale (s : Scan) (k : KeyPlace) : Bool :=
  k.line ≠ s.line || keyLimit < s.index - k.index

/-- Give up the places from which no key can come any more. -/
def dropStale (s : Scan) : Except Fault Scan :=
  if s.keys.any fun k => k.any fun k => s.isStale k && k.required then .error .malformed
  else .ok { s with keys := s.keys.map fun k => k.filter fun k => !s.isStale k }

/-- Give up the place at the innermost level. -/
def dropKey (s : Scan) : Except Fault Scan :=
  match s.keys with
  | some k :: outer => if k.required then .error .malformed else .ok { s with keys := none :: outer }
  | _ => .ok s

/-- The next token may begin a key. -/
def keepKey (s : Scan) : Except Fault Scan :=
  if s.fresh then do
    let s ← s.dropKey
    let k : KeyPlace := ⟨s.tokens.size, !s.inFlow && s.depth == s.column, s.index, s.line, s.column⟩
    return { s with keys := some k :: s.keys.drop 1 }
  else .ok s

/-- End the block collections that lie right of a column. -/
def unwind (column : Int) : Nat → Scan → Scan
  | 0, s => s
  | fuel + 1, s =>
    if column < s.depth then
      unwind column fuel
        { s.emit .blockEnd with depth := s.outer.headD (-1), outer := s.outer.drop 1 }
    else s

/-- End the block collections right of a column; in a flow collection columns do not count. -/
def unwindTo (s : Scan) (column : Int) : Scan :=
  if s.inFlow then s else unwind column (s.outer.length + 1) s

/-- Begin a block collection at a column, if it lies right of the one around it. -/
def indentTo (s : Scan) (column : Nat) (number : Nat) (token : Token) : Scan :=
  if s.depth < column then
    { s with depth := column, outer := s.depth :: s.outer
             tokens := s.tokens.insertIdxIfInBounds number token }
  else s

/-- Past spaces, comments and line breaks; outside flow collections a key may begin on a new line.
-/
def toNextToken : Nat → Scan → Scan
  | 0, s => s
  | fuel + 1, s =>
    let c := s.toCursor.skipSpaces.skipComment
    match c.lineBreak with
    | ([], _) => s.moveTo c
    | (_, c) => toNextToken fuel { s.moveTo c with fresh := s.fresh || !s.inFlow }

def fetchEnd (s : Scan) : Except Fault Scan :=
  (s.unwindTo (-1)).dropKey

def fetchDirective (s : Scan) : Except Fault Scan := do
  let s ← (s.unwindTo (-1)).dropKey
  let (d, c) ← readDirective s.toCursor
  return { (s.moveTo c).emit (.directive d) with fresh := false }

def fetchMark (s : Scan) (token : Token) : Except Fault Scan := do
  let s ← (s.unwindTo (-1)).dropKey
  return { (s.moveTo (s.toCursor.skip 3)).emit token with fresh := false }

def fetchFlowStart (s : Scan) (token : Token) : Except Fault Scan := do
  let s ← s.keepKey
  return { (s.moveTo s.toCursor.next).emit token with fresh := true, keys := none :: s.keys }

def fetchFlowEnd (s : Scan) (token : Token) : Except Fault Scan := do
  let s ← s.dropKey
  if !s.inFlow then throw .malformed
  return { (s.moveTo s.toCursor.next).emit token with fresh := false, keys := s.keys.drop 1 }

def fetchComma (s : Scan) : Except Fault Scan := do
  let s ← s.dropKey
  return { (s.moveTo s.toCursor.next).emit .comma with fresh := true }

def fetchItem (s : Scan) : Except Fault Scan := do
  if !s.inFlow && !s.fresh then throw .malformed
  let s := if s.inFlow then s else s.indentTo s.column s.tokens.size .blockListStart
  let s ← s.dropKey
  return { (s.moveTo s.toCursor.next).emit .item with fresh := true }

def fetchKey (s : Scan) : Except Fault Scan := do
  if !s.inFlow && !s.fresh then throw .malformed
  let s := if s.inFlow then s else s.indentTo s.column s.tokens.size .blockTableStart
  let s ← s.dropKey
  return { (s.moveTo s.toCursor.next).emit .key with fresh := !s.inFlow }

def fetchValue (s : Scan) : Except Fault Scan :=
  match s.keys with
  | some k :: outer =>
    let s := { s with tokens := s.tokens.insertIdxIfInBounds k.number .key, keys := none :: outer }
    let s := if s.inFlow then s else s.indentTo k.column k.number .blockTableStart
    .ok { (s.moveTo s.toCursor.next).emit .value with fresh := false }
  | _ =>
    if !s.inFlow && !s.fresh then .error .malformed
    else
      let s := if s.inFlow then s else s.indentTo s.column s.tokens.size .blockTableStart
      .ok { (s.moveTo s.toCursor.next).emit .value with fresh := !s.inFlow }

def fetchNamed (s : Scan) (token : Text → Token) : Except Fault Scan := do
  let s ← s.keepKey
  let (name, c) ← readAnchor s.toCursor
  return { (s.moveTo c).emit (token name) with fresh := false }

def fetchTag (s : Scan) : Except Fault Scan := do
  let s ← s.keepKey
  let (token, c) ← readTag s.toCursor
  return { (s.moveTo c).emit token with fresh := false }

def fetchBlock (s : Scan) (folded : Bool) : Except Fault Scan := do
  let s ← s.dropKey
  let (t, c) ← readBlock folded s.depth s.toCursor
  return { (s.moveTo c).emit (.scalar t false) with fresh := true }

def fetchQuoted (s : Scan) (double : Bool) : Except Fault Scan := do
  let s ← s.keepKey
  let (t, c) ← quotedInside double (s.rest.length + 1) s.toCursor.next []
  return { (s.moveTo c).emit (.scalar t false) with fresh := false }

def fetchPlain (s : Scan) : Except Fault Scan := do
  let s ← s.keepKey
  let (t, ended, c) := plainRuns s.inFlow (s.depth + 1) (s.rest.length + 1) s.toCursor [] [] false
  return { (s.moveTo c).emit (.scalar t true) with fresh := ended }

/-- A plain scalar can begin here. -/
def atPlain (s : Scan) : Bool :=
  match s.peek with
  | none => false
  | some c =>
    !(endsBlank (some c) || oneOf "-?:,[]\x7b\x7d#&*!|>'\"%@\x60" (some c))
      || (!endsBlank (s.peekAt 1) && (c == '-' || (!s.inFlow && (c == '?' || c == ':'))))

/-- The next token; the flag tells that the text has ended. -/
def fetch (s : Scan) : Except Fault (Bool × Scan) := do
  let s := toNextToken (s.rest.length + 1) s
  let s ← s.dropStale
  let s := s.unwindTo s.column
  let blank := endsBlank (s.peekAt 1)
  match s.peek with
  | none => return (true, ← s.fetchEnd)
  | some c =>
    let is (d : Char) : Bool := c = CodePoint.ofChar d
    let s ←
      if is '%' && s.column = 0 then s.fetchDirective
      else if s.column = 0 && s.atMark "---" then s.fetchMark .documentStart
      else if s.column = 0 && s.atMark "..." then s.fetchMark .documentEnd
      else if is '[' then s.fetchFlowStart .flowListStart
      else if is '\x7b' then s.fetchFlowStart .flowTableStart
      else if is ']' then s.fetchFlowEnd .flowListEnd
      else if is '\x7d' then s.fetchFlowEnd .flowTableEnd
      else if is ',' then s.fetchComma
      else if is '-' && blank then s.fetchItem
      else if is '?' && (s.inFlow || blank) then s.fetchKey
      else if is ':' && (s.inFlow || blank) then s.fetchValue
      else if is '*' then s.fetchNamed .again
      else if is '&' then s.fetchNamed .anchor
      else if is '!' then s.fetchTag
      else if is '|' && !s.inFlow then s.fetchBlock false
      else if is '>' && !s.inFlow then s.fetchBlock true
      else if is '\'' then s.fetchQuoted false
      else if is '"' then s.fetchQuoted true
      else if s.atPlain then s.fetchPlain
      else throw Fault.malformed
    return (false, s)

/-- The tokens up to the end of the text. -/
def run : Nat → Scan → Except Fault (List Token)
  | 0, _ => .error .malformed
  | fuel + 1, s => do
    let (done, s) ← s.fetch
    if done then return s.tokens.toList else run fuel s

end Scan

/-- The tokens of a text. -/
def Token.scan (t : Text) : Except Fault (List Token) :=
  if t.all isAllowed then
    let body := match t with
      | c :: rest => if c.val = 0xFEFF then rest else t
      | [] => t
    Scan.run (body.length + 2) (Scan.start body)
  else .error .malformed

end VeiledGateway.Yaml
