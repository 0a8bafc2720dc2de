/-
  The state of reading a script: the lexeme that comes next, what surrounds the place reached, and
  the steps that every construct of the grammar is read with.
-/
import VeiledGateway.Script.Lexeme
import VeiledGateway.Script.Tree

set_option autoImplicit false

namespace VeiledGateway.Script

/-- What has been reached and what holds there. -/
structure State where
  cursor : Cursor
  /-- The next lexeme; the cursor is behind it. -/
  ahead : Lexeme
  /-- A line ends between the last lexeme and the next. -/
  newline : Bool
  /-- The cursor at the next lexeme. -/
  start : Cursor
  /-- The end of the last lexeme. -/
  lastIndex : Nat
  lastLine : Nat
  isModule : Bool
  allowAwait : Bool
  allowIn : Bool
  allowStrictDirective : Bool
  allowYield : Bool
  /-- A default value of a shorthand property, which only a pattern may have. -/
  coverFault : Option Lexeme
  isAssignmentTarget : Bool
  isBindingElement : Bool
  inFunctionBody : Bool
  inIteration : Bool
  inSwitch : Bool
  labels : List Text
  strict : Bool

/-- Reading: from a state to a result and the state after it, or to what is wrong. -/
abbrev Parse := StateT State (Except SyntaxFault)

namespace Parse

def failAtLine {α : Type} (line : Nat) (problem : Problem) : Parse α :=
  fun _ => .error (.at line problem)

/-- Refuse the script at the end of the last lexeme. -/
def fail {α : Type} (problem : Problem) : Parse α :=
  fun s => .error (.at s.lastLine problem)

/-- Refuse the script at a lexeme, for a reason of its own. -/
def failAt {α : Type} (lexeme : Lexeme) (problem : Problem) : Parse α :=
  failAtLine lexeme.line problem

/-- The problem with a lexeme that cannot stand where it does. -/
def unexpectedProblem (strict : Bool) (lexeme : Lexeme) : Problem :=
  match lexeme.kind with
  | .endOfInput => .unexpectedEnd
  | .identifier => .unexpectedIdentifier
  | .number => .unexpectedNumber
  | .string => .unexpectedString
  | .template => .unexpectedTemplate lexeme.value
  | .keyword =>
    if isFutureReserved lexeme.word then .unexpectedReserved
    else if strict && isStrictReserved lexeme.word then .strictReserved
    else .unexpectedToken lexeme.value
  | _ => .unexpectedToken lexeme.value

def unexpected {α : Type} (lexeme : Lexeme) : Parse α :=
  fun s => .error (.at lexeme.line (unexpectedProblem s.strict lexeme))

def ahead : Parse Lexeme :=
  return (← get).ahead

/-- Read on from a cursor: past blanks, to the lexeme there. -/
def advance (previousLine : Nat) (cursor : Cursor) : Parse Unit := fun s =>
  match cursor.skipBlanks with
  | .error fault => .error fault
  | .ok start =>
    match start.lex with
    | .error fault => .error fault
    | .ok (lexeme, cursor) =>
      let lexeme :=
        if s.strict && lexeme.kind = .identifier && isStrictReserved lexeme.word then
          { lexeme with kind := .keyword }
        else lexeme
      .ok ((), { s with
        cursor
        ahead := lexeme
        newline := previousLine != lexeme.line
        start
        lastIndex := s.cursor.index
        lastLine := s.cursor.line })

/-- Take the next lexeme. -/
def next : Parse Lexeme := do
  let s ← get
  advance s.ahead.line s.cursor
  return s.ahead

/-- Take a regular expression where the next lexeme began with its slash. -/
def nextRegex (valid : Text → Text → Bool) : Parse Lexeme := do
  let s ← get
  let start := { s.start with line := s.cursor.line, holes := s.cursor.holes }
  match start.regex valid with
  | .error fault => throw fault
  | .ok (lexeme, cursor) =>
    set { s with cursor }
    advance lexeme.line cursor
    return lexeme

/-- The lexeme after the next one.  Braces that it opens or closes stay so. -/
def glance : Parse Lexeme := fun s =>
  match s.cursor.skipBlanks with
  | .error fault => .error fault
  | .ok start =>
    match start.lex with
    | .error fault => .error fault
    | .ok (lexeme, after) => .ok (lexeme, { s with cursor := { s.cursor with holes := after.holes } })

def isSign (sign : String) : Parse Bool := do
  let s ← get
  return s.ahead.kind = .punctuator && s.ahead.word == sign

def isWord (word : String) : Parse Bool := do
  let s ← get
  return s.ahead.kind = .keyword && s.ahead.word == word

/-- The next lexeme is a name that is a keyword only here. -/
def isContextual (word : String) : Parse Bool := do
  let s ← get
  return s.ahead.kind = .identifier && s.ahead.word == word

def isEnd : Parse Bool := do
  return (← get).ahead.kind = .endOfInput

def assignmentSigns : List String :=
  ["=", "*=", "**=", "/=", "%=", "+=", "-=", "<<=", ">>=", ">>>=", "&=", "^=", "|="]

def isAssignment : Parse Bool := do
  let s ← get
  return s.ahead.kind = .punctuator && assignmentSigns.contains s.ahead.word

def expect (sign : String) : Parse Unit := do
  let lexeme ← next
  unless lexeme.kind = .punctuator && lexeme.word == sign do unexpected lexeme

def expectWord (word : String) : Parse Unit := do
  let lexeme ← next
  unless lexeme.kind = .keyword && lexeme.word == word do unexpected lexeme

/-- Where the next lexeme begins. -/
def here : Parse Nat :=
  return (← get).start.index

/-- A node from `start` to the end of the last lexeme. -/
def finish (start : Nat) (kind : String) (fields : List (String × Option Tree)) : Parse Tree := do
  return Tree.mk kind start (← get).lastIndex fields

/-- Read something on its own: what may be assigned or bound in it does not show outside. -/
def isolate {α : Type} (p : Parse α) : Parse α := do
  let before ← get
  set { before with isBindingElement := true, isAssignmentTarget := true, coverFault := none }
  let result ← p
  let after ← get
  match after.coverFault with
  | some lexeme => unexpected lexeme
  | none =>
    set { after with
      isBindingElement := before.isBindingElement
      isAssignmentTarget := before.isAssignmentTarget
      coverFault := before.coverFault }
    return result

/-- Read a part of something: it can be assigned or bound only if all its parts can. -/
def inherit {α : Type} (p : Parse α) : Parse α := do
  let before ← get
  set { before with isBindingElement := true, isAssignmentTarget := true, coverFault := none }
  let result ← p
  modify fun after => { after with
    isBindingElement := after.isBindingElement && before.isBindingElement
    isAssignmentTarget := after.isAssignmentTarget && before.isAssignmentTarget
    coverFault := before.coverFault <|> after.coverFault }
  return result

/-- What has just been read can be neither assigned nor bound. -/
def isNoTarget : Parse Unit :=
  modify fun s => { s with isAssignmentTarget := false, isBindingElement := false }

/-- The end of a statement: a semicolon, the end of a line, a closing brace, or the end. -/
def semicolon : Parse Unit := do
  if ← isSign ";" then
    let _ ← next
  else
    let s ← get
    unless s.newline do
      unless s.ahead.kind = .endOfInput || (← isSign "\x7d") do unexpected s.ahead
      set { s with lastIndex := s.start.index, lastLine := s.start.line }

/-- The results of `step` until it has none. -/
def collect {α : Type} (step : Parse (Option α)) : Parse (List α) := do
  go ((← get).cursor.size + 2)
where
  go : Nat → Parse (List α)
    | 0 => return []
    | fuel + 1 => do
      match ← step with
      | none => return []
      | some a => return a :: (← go fuel)

/-- Change a part of the state by `f` for the time of `p`, and put it back by `restore`. -/
def within {α : Type} (f : State → State) (p : Parse α) (restore : State → State → State) :
    Parse α := do
  let before ← get
  set (f before)
  let result ← p
  modify fun after => restore before after
  return result

def withIn {α : Type} (allow : Bool) (p : Parse α) : Parse α :=
  within (fun s => { s with allowIn := allow }) p
    (fun before after => { after with allowIn := before.allowIn })

def inLoop {α : Type} (p : Parse α) : Parse α :=
  within (fun s => { s with inIteration := true }) p
    (fun before after => { after with inIteration := before.inIteration })

end Parse

end VeiledGateway.Script
