/-
  The lexemes of scripts.

  `Cursor.lex` reads the lexeme at the cursor and `Cursor.skipBlanks` the blanks and comments
  before one.  What a closing brace means depends on the braces and template holes that are open,
  so a cursor carries them.  A regular expression is read by `Cursor.regex`, where the grammar
  expects one.
-/
import VeiledGateway.Script.Fault
import VeiledGateway.Text.Search
import VeiledGateway.Text.Utf16
import VeiledGateway.Unicode.Property

set_option autoImplicit false

namespace VeiledGateway.Script

/-! ## Names, reserved words, blanks and ends of lines -/

/-- Code points that may begin a name although they are no letters. -/
def otherStarts : List Nat :=
  [0x1885, 0x1886, 0x2118, 0x212E, 0x309B, 0x309C]

/-- Code points that may stand inside a name although their class does not say so. -/
def otherParts : List Nat :=
  [0xB7, 0x387, 0x1369, 0x136A, 0x136B, 0x136C, 0x136D, 0x136E, 0x136F, 0x1370, 0x1371, 0x19DA,
    0x200C, 0x200D]

/-- A code point that may begin a name; the backslash begins an escape in one. -/
def isNameStart (c : CodePoint) : Bool :=
  c.isLetter || c == '$' || c == '_' || c == '\\' || otherStarts.contains c.val

/-- A code point that may stand inside a name. -/
def isNamePart (c : CodePoint) : Bool :=
  if c.val < 0x80 then isNameStart c || c.isAsciiDigit
  else
    isNameStart c || c.digitValue?.isSome || c.isMark || c.isConnector || otherParts.contains c.val

/-- A blank that ends no line. -/
def isBlank (c : CodePoint) : Bool :=
  c.val == 0x09 || c.val == 0x0B || c.val == 0x0C || c.val == 0x20 || c.val == 0xA0
    || c.val == 0x1680 || (0x2000 ≤ c.val && c.val ≤ 0x200A) || c.val == 0x202F
    || c.val == 0x205F || c.val == 0x3000 || c.val == 0xFEFF

def isLineEnd (c : CodePoint) : Bool :=
  c.val == 0x0A || c.val == 0x0D || c.val == 0x2028 || c.val == 0x2029

def keywords : List String :=
  ["if", "in", "do", "var", "for", "new", "try", "let", "this", "else", "case", "void", "with",
    "enum", "while", "break", "catch", "throw", "const", "yield", "class", "super", "return",
    "typeof", "delete", "switch", "export", "import", "default", "finally", "extends", "function",
    "continue", "debugger", "instanceof"]

def isKeyword (word : String) : Bool :=
  keywords.contains word

/-- Reserved words that no construct uses in the place where they stand. -/
def isFutureReserved (word : String) : Bool :=
  ["enum", "export", "import", "super"].contains word

/-- Words reserved in strict code alone. -/
def isStrictReserved (word : String) : Bool :=
  ["implements", "interface", "package", "private", "protected", "public", "static", "yield",
    "let"].contains word

/-- Names that strict code may not bind or assign. -/
def isRestricted (word : String) : Bool :=
  word == "eval" || word == "arguments"

/-! ## Lexemes -/

inductive LexemeKind where
  | boolean
  | endOfInput
  | identifier
  | keyword
  | null
  | number
  | punctuator
  | string
  | template
  | regex
deriving DecidableEq

/-- A lexeme: its value, the line on which it ends, and where it stands.  A string or number may be
written in the old octal way; a template part may open or close its template. -/
structure Lexeme where
  kind : LexemeKind
  value : Text
  /-- The value of a word or sign, for comparison. -/
  word : String
  line : Nat
  start : Nat
  stop : Nat
  raw : Text
  octal : Bool
  opensTemplate : Bool
  closesTemplate : Bool

/-- A place in a script, and the braces open there: `true` for the hole of a template. -/
structure Cursor where
  rest : Text
  index : Nat
  line : Nat
  holes : List Bool
  isModule : Bool
  /-- The length of the whole script. -/
  size : Nat

namespace Cursor

/-- What stands for the code point after the last one. -/
def endMark : CodePoint := CodePoint.ofNat 0

def peek (cur : Cursor) : CodePoint :=
  cur.rest.head?.getD endMark

/-- The code point `n` places on. -/
def peekAt (cur : Cursor) (n : Nat) : CodePoint :=
  cur.rest[n]?.getD endMark

def atEnd (cur : Cursor) : Bool :=
  cur.rest.isEmpty

def move (cur : Cursor) (n : Nat) : Cursor :=
  { cur with rest := cur.rest.drop n, index := cur.index + n }

def nextLine (cur : Cursor) : Cursor :=
  { cur with line := cur.line + 1 }

/-- Past a line end; a return and a feed are one. -/
def passLineEnd (cur : Cursor) : Cursor :=
  let paired := cur.peek == '\r' && cur.peekAt 1 == '\n'
  (cur.move (if paired then 2 else 1)).nextLine

def startsWith (cur : Cursor) (s : String) : Bool :=
  Text.startsWith cur.rest s

def fail {α : Type} (cur : Cursor) (problem : Problem) : Except SyntaxFault α :=
  .error (.at cur.line problem)

/-! ## Blanks and comments -/

/-- Past the end of the line. -/
def skipLine : Nat → Cursor → Cursor
  | 0, cur => cur
  | fuel + 1, cur =>
    if cur.atEnd then cur
    else if isLineEnd cur.peek then cur.passLineEnd
    else skipLine fuel (cur.move 1)

/-- Past the end of a comment that its own mark closes. -/
def skipComment : Nat → Cursor → Except SyntaxFault Cursor
  | 0, cur => cur.fail .illegal
  | fuel + 1, cur =>
    if cur.atEnd then cur.fail .illegal
    else if isLineEnd cur.peek then skipComment fuel cur.passLineEnd
    else if cur.peek == '*' && cur.peekAt 1 == '/' then .ok (cur.move 2)
    else skipComment fuel (cur.move 1)

def skipBlanksFrom : Nat → Bool → Cursor → Except SyntaxFault Cursor
  | 0, _, cur => .ok cur
  | fuel + 1, lineStart, cur =>
    if cur.atEnd then .ok cur
    else
      let c := cur.peek
      let size := cur.size
      if isBlank c then skipBlanksFrom fuel lineStart (cur.move 1)
      else if isLineEnd c then skipBlanksFrom fuel true cur.passLineEnd
      else if c == '/' && cur.peekAt 1 == '/' then skipBlanksFrom fuel true (skipLine size (cur.move 2))
      else if c == '/' && cur.peekAt 1 == '*' then
        match skipComment size (cur.move 2) with
        | .ok cur => skipBlanksFrom fuel lineStart cur
        | .error fault => .error fault
      else if lineStart && cur.startsWith "-->" then
        skipBlanksFrom fuel lineStart (skipLine size (cur.move 3))
      else if !cur.isModule && cur.startsWith "<!--" then
        skipBlanksFrom fuel lineStart (skipLine size (cur.move 4))
      else .ok cur

/-- Past blanks and comments.  Besides the comments of the language, an opening mark of a markup
comment hides the rest of its line outside modules, and a closing one does at the start of a
line. -/
def skipBlanks (cur : Cursor) : Except SyntaxFault Cursor :=
  skipBlanksFrom (cur.size + 1) (cur.index == 0) cur

/-! ## Escapes -/

/-- The code that `count` hexadecimal digits write. -/
def hexCode? : Nat → Nat → Cursor → Option (Nat × Cursor)
  | 0, n, cur => some (n, cur)
  | count + 1, n, cur =>
    match cur.rest with
    | c :: _ =>
      match c.hexValue? with
      | some d => hexCode? count (n * 16 + d) (cur.move 1)
      | none => none
    | [] => none

/-- The code point of an escape in braces, after the opening one. -/
def bracedCode (cur : Cursor) : Except SyntaxFault (CodePoint × Cursor) :=
  let digits := cur.rest.takeWhile CodePoint.isHexDigit
  let after := cur.move digits.length
  let code := digits.foldl (fun n d => n * 16 + d.hexValue?.getD 0) 0
  if digits.isEmpty && after.peek == '}' then cur.fail .illegal
  else if after.peek == '}' && !after.atEnd then
    match CodePoint.ofNat? code with
    | some c => .ok (c, after.move 1)
    | none => cur.fail .illegal
  else cur.fail .illegal

/-! ## Names -/

/-- The code point of an escape in a name, after the backslash. -/
def nameEscape (accepts : CodePoint → Bool) (cur : Cursor) :
    Except SyntaxFault (CodePoint × Cursor) :=
  if cur.peek != 'u' then cur.fail .illegal
  else
    let cur := cur.move 1
    if cur.peek == '{' then bracedCode (cur.move 1)
    else
      match hexCode? 4 0 cur with
      | some (n, cur) =>
        let c := CodePoint.ofNat n
        if c == '\\' || !accepts c then cur.fail .illegal else .ok (c, cur)
      | none => cur.fail .illegal

/-- The part of a name from the cursor on. -/
def nameParts : Nat → Cursor → Except SyntaxFault (Text × Cursor)
  | 0, cur => .ok ([], cur)
  | fuel + 1, cur =>
    match cur.rest with
    | [] => .ok ([], cur)
    | c :: _ =>
      if !isNamePart c then .ok ([], cur)
      else if c == '\\' then do
        let (d, cur) ← nameEscape isNamePart (cur.move 1)
        let (name, cur) ← nameParts fuel cur
        .ok (d :: name, cur)
      else do
        let (name, cur) ← nameParts fuel (cur.move 1)
        .ok (c :: name, cur)

/-- The name at the cursor. -/
def name (cur : Cursor) : Except SyntaxFault (Text × Cursor) := do
  let c := cur.peek
  let (first, after) ←
    if c == '\\' then nameEscape isNameStart (cur.move 1) else .ok (c, cur.move 1)
  let (others, after) ← nameParts (after.size + 1) after
  .ok (first :: others, after)

/-- The lexeme between two places. -/
def lexeme (start stop : Cursor) (kind : LexemeKind) (value : Text) : Lexeme :=
  { kind, value, word := Text.toString value, line := stop.line, start := start.index
    stop := stop.index, raw := start.rest.take (stop.index - start.index), octal := false
    opensTemplate := false, closesTemplate := false }

def wordKind (name : Text) (word : String) : LexemeKind :=
  if name.length = 1 then .identifier
  else if isKeyword word then .keyword
  else if word == "null" then .null
  else if word == "true" || word == "false" then .boolean
  else .identifier

def word (cur : Cursor) : Except SyntaxFault (Lexeme × Cursor) := do
  let (name, after) ← cur.name
  let kind := wordKind name (Text.toString name)
  if kind != .identifier && cur.index + name.length != after.index then
    after.fail .escapedKeyword
  else .ok (lexeme cur after kind name, after)

/-! ## Punctuators -/

def signs : List String :=
  [">>>=", "===", "!==", ">>>", "<<=", ">>=", "**=", "&&", "||", "==", "!=", "+=", "-=", "*=",
    "/=", "++", "--", "<<", ">>", "&=", "|=", "^=", "%=", "<=", ">=", "=>", "**", "<", ">", "=",
    "!", "+", "-", "*", "%", "&", "|", "^", "/", "...", ".", "(", ")", ";", ",", "[", "]", ":",
    "?", "~", "\x7b", "\x7d"]

def punctuator (cur : Cursor) : Except SyntaxFault (Lexeme × Cursor) :=
  match signs.find? cur.startsWith with
  | none => cur.fail .illegal
  | some sign =>
    let after := cur.move sign.length
    let holes :=
      if sign == "\x7b" then false :: cur.holes
      else if sign == "\x7d" then cur.holes.drop 1
      else cur.holes
    .ok (lexeme cur after .punctuator sign, { after with holes })

/-! ## Numbers -/

/-- A number, whose value is kept as it is written. -/
def numeral (start stop : Cursor) : Lexeme :=
  lexeme start stop .number (start.rest.take (stop.index - start.index))

def isOctalDigit (c : CodePoint) : Bool :=
  0x30 ≤ c.val && c.val ≤ 0x37

def isBinaryDigit (c : CodePoint) : Bool :=
  c == '0' || c == '1'

def skipWhile (p : CodePoint → Bool) (cur : Cursor) : Cursor :=
  cur.move (cur.rest.takeWhile p).length

/-- A number of digits of one class after its two-letter mark. -/
def radixNumber (cur : Cursor) (p : CodePoint → Bool) (refusesDigit : Bool) :
    Except SyntaxFault (Lexeme × Cursor) :=
  let digits := cur.move 2
  let after := digits.skipWhile p
  if after.index == digits.index then after.fail .illegal
  else if isNameStart after.peek || (refusesDigit && after.peek.isAsciiDigit) then after.fail .illegal
  else .ok (numeral cur after, after)

/-- The digits that follow a leading zero make it octal: none of them is an eight or a nine. -/
def isOctalRun (t : Text) : Bool :=
  match t.dropWhile isOctalDigit with
  | c :: _ => !(c == '8' || c == '9')
  | [] => true

def oldOctal (cur : Cursor) : Except SyntaxFault (Lexeme × Cursor) :=
  let after := (cur.move 1).skipWhile isOctalDigit
  if isNameStart after.peek || after.peek.isAsciiDigit then after.fail .illegal
  else .ok ({ numeral cur after with octal := true }, after)

/-- A decimal number: digits, a fraction, an exponent. -/
def decimal (cur : Cursor) : Except SyntaxFault (Lexeme × Cursor) := do
  let after := cur.skipWhile CodePoint.isAsciiDigit
  let after := if after.peek == '.' then (after.move 1).skipWhile CodePoint.isAsciiDigit else after
  let after ←
    if after.peek == 'e' || after.peek == 'E' then
      let signed := after.move 1
      let signed := if signed.peek == '+' || signed.peek == '-' then signed.move 1 else signed
      if signed.peek.isAsciiDigit then .ok (signed.skipWhile CodePoint.isAsciiDigit)
      else signed.fail .illegal
    else .ok after
  if isNameStart after.peek then after.fail .illegal
  else .ok (numeral cur after, after)

def number (cur : Cursor) : Except SyntaxFault (Lexeme × Cursor) :=
  let mark := cur.peekAt 1
  if cur.peek == '0' then
    if mark == 'x' || mark == 'X' then cur.radixNumber CodePoint.isHexDigit false
    else if mark == 'b' || mark == 'B' then cur.radixNumber isBinaryDigit true
    else if mark == 'o' || mark == 'O' then cur.radixNumber isOctalDigit true
    else if isOctalDigit mark && isOctalRun (cur.rest.drop 2) then cur.oldOctal
    else cur.decimal
  else cur.decimal

/-! ## Strings -/

/-- The code of an octal escape, its digits, and whether it is written in the old way. -/
def octalEscape (cur : Cursor) : Nat × Cursor × Bool :=
  let value (c : CodePoint) : Nat := c.val - 0x30
  let first := cur.peek
  let after := cur.move 1
  if !isOctalDigit after.peek then (value first, after, first != '0')
  else
    let code := value first * 8 + value after.peek
    let after := after.move 1
    if value first < 4 && isOctalDigit after.peek then
      (code * 8 + value after.peek, after.move 1, true)
    else (code, after, true)

/-- The code point of a one-letter escape. -/
def letterEscape? (c : CodePoint) : Option CodePoint :=
  if c == 'n' then some '\n'
  else if c == 'r' then some '\r'
  else if c == 't' then some '\t'
  else if c == 'b' then some '\x08'
  else if c == 'f' then some '\x0C'
  else if c == 'v' then some '\x0B'
  else none

/-- What an escape in a string stands for, after the backslash. -/
def stringEscape (cur : Cursor) : Except SyntaxFault (Text × Cursor × Bool) :=
  let c := cur.peek
  if c == 'u' then
    if cur.peekAt 1 == '{' then do
      let (d, cur) ← bracedCode (cur.move 2)
      .ok ([d], cur, false)
    else
      match hexCode? 4 0 (cur.move 1) with
      | some (n, cur) => .ok ([CodePoint.ofNat n], cur, false)
      | none => cur.fail .illegal
  else if c == 'x' then
    match hexCode? 2 0 (cur.move 1) with
    | some (n, cur) => .ok ([CodePoint.ofNat n], cur, false)
    | none => cur.fail .hexEscape
  else if c == '8' || c == '9' then cur.fail .illegal
  else
    match letterEscape? c with
    | some d => .ok ([d], cur.move 1, false)
    | none =>
      if isOctalDigit c then
        let (n, cur, octal) := octalEscape cur
        .ok ([CodePoint.ofNat n], cur, octal)
      else .ok ([c], cur.move 1, false)

/-- The value of a string up to its closing quote. -/
def stringBody (quote : CodePoint) : Nat → Cursor → Except SyntaxFault (Text × Cursor × Bool)
  | 0, cur => cur.fail .illegal
  | fuel + 1, cur =>
    match cur.rest with
    | [] => cur.fail .illegal
    | c :: _ =>
      if c = quote then .ok ([], cur.move 1, false)
      else if c == '\\' then
        let cur := cur.move 1
        if cur.atEnd then cur.fail .illegal
        else if isLineEnd cur.peek then stringBody quote fuel cur.passLineEnd
        else do
          let (t, cur, octal) ← stringEscape cur
          let (value, cur, others) ← stringBody quote fuel cur
          .ok (t ++ value, cur, octal || others)
      else if isLineEnd c then cur.fail .illegal
      else do
        let (value, cur, octal) ← stringBody quote fuel (cur.move 1)
        .ok (c :: value, cur, octal)

def string (cur : Cursor) : Except SyntaxFault (Lexeme × Cursor) := do
  let (value, after, octal) ← stringBody cur.peek cur.size (cur.move 1)
  .ok ({ lexeme cur after .string value with octal }, after)

/-! ## Templates -/

/-- What an escape in a template stands for is not kept; only its form is checked. -/
def templateEscape (cur : Cursor) : Except SyntaxFault Cursor :=
  let c := cur.peek
  if c == 'u' then
    if cur.peekAt 1 == '{' then (bracedCode (cur.move 2)).map (·.2)
    else
      match hexCode? 4 0 (cur.move 1) with
      | some (_, cur) => .ok cur
      | none => .ok (cur.move 1)
  else if c == 'x' then
    match hexCode? 2 0 (cur.move 1) with
    | some (_, cur) => .ok cur
    | none => cur.fail .hexEscape
  else if c == '0' then
    if (cur.peekAt 1).isAsciiDigit then cur.fail .templateOctal else .ok (cur.move 1)
  else if isOctalDigit c then cur.fail .templateOctal
  else .ok (cur.move 1)

/-- To the end of the template or of this part of it; the flag says which. -/
def templateBody : Nat → Cursor → Except SyntaxFault (Cursor × Bool)
  | 0, cur => cur.fail .illegal
  | fuel + 1, cur =>
    match cur.rest with
    | [] => cur.fail .illegal
    | c :: _ =>
      if c.val == 0x60 then .ok (cur.move 1, true)
      else if c == '$' && cur.peekAt 1 == '{' then
        let cur := cur.move 2
        .ok ({ cur with holes := true :: cur.holes }, false)
      else if c == '\\' then
        let cur := cur.move 1
        if cur.atEnd then cur.fail .illegal
        else if isLineEnd cur.peek then templateBody fuel cur.passLineEnd
        else do
          let cur ← templateEscape cur
          templateBody fuel cur
      else if isLineEnd c then templateBody fuel cur.passLineEnd
      else templateBody fuel (cur.move 1)

/-- A part of a template: from its opening mark or the end of a hole to the next hole or the closing
mark. -/
def template (cur : Cursor) : Except SyntaxFault (Lexeme × Cursor) := do
  let opens := cur.peek.val == 0x60
  let (after, closes) ← templateBody cur.size (cur.move 1)
  let after := if opens then after
    else { after with holes := if closes then after.holes.drop 1 else after.holes.eraseIdx 1 }
  let used := after.index - cur.index
  let value := (cur.rest.drop 1).take (used - (if closes then 2 else 3))
  .ok ({ lexeme cur after .template value with opensTemplate := opens, closesTemplate := closes },
    after)

/-! ## Any lexeme -/

def lex (cur : Cursor) : Except SyntaxFault (Lexeme × Cursor) :=
  if cur.atEnd then .ok (lexeme cur cur .endOfInput [], cur)
  else
    let c := cur.peek
    if isNameStart c then cur.word
    else if c == '\'' || c == '"' then cur.string
    else if c == '.' then
      if (cur.peekAt 1).isAsciiDigit then cur.number else cur.punctuator
    else if c.isAsciiDigit then cur.number
    else if c.val == 0x60 || (c == '}' && cur.holes.head? == some true) then cur.template
    else cur.punctuator

/-! ## Regular expressions -/

/-- To the end of the body of a regular expression; in brackets a slash does not end it. -/
def regexBody : Nat → Bool → Cursor → Except SyntaxFault Cursor
  | 0, _, cur => cur.fail .regexUnterminated
  | fuel + 1, inBrackets, cur =>
    match cur.rest with
    | [] => cur.fail .regexUnterminated
    | c :: _ =>
      if c == '\\' then
        if isLineEnd (cur.peekAt 1) || (cur.move 1).atEnd then cur.fail .regexUnterminated
        else regexBody fuel inBrackets (cur.move 2)
      else if isLineEnd c then cur.fail .regexUnterminated
      else if inBrackets then regexBody fuel (c != ']') (cur.move 1)
      else if c == '/' then .ok (cur.move 1)
      else regexBody fuel (c == '[') (cur.move 1)

/-- The flags of a regular expression; an escape among them is refused. -/
def regexFlags : Nat → Cursor → Except SyntaxFault Cursor
  | 0, cur => .ok cur
  | fuel + 1, cur =>
    if cur.atEnd || !isNamePart cur.peek then .ok cur
    else if cur.peek == '\\' && !(cur.move 1).atEnd then cur.fail .illegal
    else regexFlags fuel (cur.move 1)

/-- The code point that an escape of a pattern is replaced with before the pattern is checked. -/
def patternEscape (t : Text) : Option (Except Unit (CodePoint × Text)) :=
  match Text.dropPrefix? t "\\u" with
  | none => none
  | some after =>
    let digits := after.take 4
    if digits.length = 4 && digits.all CodePoint.isHexDigit then
      let n := digits.foldl (fun n d => n * 16 + d.hexValue?.getD 0) 0
      some (.ok (CodePoint.ofNat n, after.drop 4))
    else
      match after with
      | c :: body =>
        let inside := body.takeWhile CodePoint.isHexDigit
        match body.drop inside.length with
        | d :: rest =>
          if c == '{' && d == '}' && !inside.isEmpty then
            let n := inside.foldl (fun n d => n * 16 + d.hexValue?.getD 0) 0
            if 0x10FFFF < n then some (.error ())
            else some (.ok (CodePoint.ofNat (if n ≤ 0xFFFF then n else 0xFFFF), rest))
          else none
        | [] => none
      | [] => none

def expandEscapes : Nat → Text → Except Unit Text
  | 0, t => .ok t
  | _, [] => .ok []
  | fuel + 1, c :: rest =>
    match patternEscape (c :: rest) with
    | some (.ok (d, rest)) => (expandEscapes fuel rest).map (d :: ·)
    | some (.error e) => .error e
    | none => (expandEscapes fuel rest).map (c :: ·)

def replacePairs : Text → Text
  | c :: d :: rest =>
    if c.isHighSurrogate && d.isLowSurrogate then CodePoint.ofNat 0xFFFF :: replacePairs rest
    else c :: replacePairs (d :: rest)
  | t => t

/-- A regular expression at the cursor.  Its pattern, with its code escapes replaced by what they
stand for, must be one that `valid` accepts. -/
def regex (valid : Text → Text → Bool) (cur : Cursor) : Except SyntaxFault (Lexeme × Cursor) := do
  let body ← regexBody cur.size false (cur.move 1)
  let after ← regexFlags body.size body
  let pattern := (cur.rest.drop 1).take (body.index - cur.index - 2)
  let flags := body.rest.take (after.index - body.index)
  match expandEscapes (pattern.length + 1) pattern with
  | .error _ => after.fail .regexInvalid
  | .ok pattern =>
    if valid (replacePairs pattern) flags then .ok (lexeme cur after .regex [], after)
    else after.fail .regexInvalid

end Cursor

end VeiledGateway.Script
