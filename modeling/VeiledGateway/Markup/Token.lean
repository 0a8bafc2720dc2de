/-
  The tokens of a markup document.

  A document is gone through twice.  The first pass stops where a construct is not finished at the
  end, and at a reference by number that is spoiled; the second takes up there, takes what is not
  finished as text, and where it meets a spoiled reference the rest is text.  The content of a
  script or a style sheet ends at its end tag only, and is lost without one.
-/
import VeiledGateway.Markup.Entity
import VeiledGateway.Pattern.Basic
import VeiledGateway.Text.Quoted
import VeiledGateway.Unicode.Case

set_option autoImplicit false

namespace VeiledGateway.Markup

/-- What stands in a document beside elements and text. -/
inductive AsideKind where
  | comment
  | rawSection
  | declaration
  | instruction
  | docType
deriving DecidableEq

inductive Token where
  | text (content : Text)
  /-- A start tag with its attributes, and whether it ends with a slash. -/
  | start (name : Text) (attributes : List (Text × Text)) (closed : Bool)
  | stop (name : Text)
  | aside (kind : AsideKind) (content : Text)
deriving DecidableEq

/-- Why a document is refused: a marked section without a name, or with one that is not known. -/
inductive Refusal where
  | nameless (here : Text)
  | unknown (name : Text)
deriving DecidableEq

/-- How many code points a refusal shows. -/
def shownSize : Nat := 20

def Refusal.message : Refusal → Text
  | .nameless here => ("expected name token at " : Text) ++ Text.quoted (here.take shownSize)
  | .unknown name => ("unknown status keyword " : Text) ++ Text.quoted name
      ++ (" in marked section" : Text)

/-- What is read at the beginning of a text: tokens and what follows them, or a construct that is
not finished there. -/
inductive Reading where
  | done (tokens : List Token) (rest : Text)
  | unfinished
deriving DecidableEq

/-- The construct up to the first `close` in `after`, where `make` gives the tokens of what precedes
it. -/
def readThrough (close : Text) (make : Text → List Token) (after : Text) : Reading :=
  match Text.cutAt? close after with
  | some (content, rest) => .done (make content) rest
  | none => .unfinished

/-! ## Start tags -/

def isTagNameEnd (c : CodePoint) : Bool :=
  c == '\t' || c == '\n' || c == '\r' || c == '\x0C' || c == ' ' || c == '/' || c == '>'
    || c.val == 0

/-- An attribute may begin behind a quote, a blank or a slash. -/
def maySeparate (c : CodePoint) : Bool :=
  c == '\'' || c == '"' || c == '/' || c.isBlank

/-- The text without the blanks and slashes at its beginning, except for a slash before the end of
the tag, and what stands before that text when `last` stands before the given one. -/
def skipFill (last : CodePoint) : Text → CodePoint × Text
  | [] => (last, [])
  | c :: rest =>
    if c.isBlank || (c == '/' && !(rest.head? == some (CodePoint.ofChar '>'))) then
      skipFill c rest
    else (last, c :: rest)

/-- The value of an attribute without quotes, and what follows. -/
def bareValue (t : Text) : Text × Text :=
  let stays (c : CodePoint) := !(c == '>' || c.isBlank)
  (t.takeWhile stays, t.dropWhile stays)

/-- The value after an equals sign, what stands before the text behind it, and that text. -/
structure Valued where
  value : Text
  last : CodePoint
  rest : Text

/-- The value of an attribute behind its name, if there is one.  A quote without its partner begins
no value: with a blank before it the value is empty, and with two equals signs before it the second
belongs to a value without quotes. -/
def readValue? (t : Text) : Option Valued :=
  let equals := CodePoint.ofChar '='
  let signs := (t.dropWhile CodePoint.isBlank).takeWhile (· = equals)
  if signs.isEmpty then none
  else
    let behind := (t.dropWhile CodePoint.isBlank).dropWhile (· = equals)
    let after := behind.dropWhile CodePoint.isBlank
    let bare (t : Text) : Valued :=
      let (value, rest) := bareValue t
      ⟨value, (value.getLast?).getD equals, rest⟩
    match after with
    | [] => some (bare [])
    | c :: inside =>
      if c == '"' || c == '\'' then
        match Text.cutAtCode c inside with
        | (value, some rest) => some ⟨value, c, rest⟩
        | (_, none) =>
          if after.length < behind.length then some ⟨[], ' ', after⟩
          else if 1 < signs.length then some (bare (equals :: after))
          else none
      else some (bare after)

/-- The attributes at the beginning of a text that `last` stands before, and what follows. -/
def readAttributes : Nat → CodePoint → Text → List (Text × Text) × Text
  | 0, _, t => ([], t)
  | _, _, [] => ([], [])
  | fuel + 1, last, c :: rest =>
    if !maySeparate last || c.isBlank || c == '/' || c == '>' then ([], c :: rest)
    else
      let inName (d : CodePoint) := !(d.isBlank || d == '/' || d == '=' || d == '>')
      let name := c :: rest.takeWhile inName
      let behind := rest.dropWhile inName
      let valued := (readValue? behind).getD ⟨[], name.getLastD c, behind⟩
      let (last, following) := skipFill valued.last valued.rest
      let (attributes, final) := readAttributes fuel last following
      ((Text.lower name, Entity.unescape valued.value) :: attributes, final)

/-- A start tag, of which `whole` is all and `t` what follows the angle bracket. -/
def readStartTag (whole t : Text) : Reading :=
  let name := t.takeWhile (!isTagNameEnd ·)
  let (last, filled) := skipFill (name.getLastD ' ') (t.dropWhile (!isTagNameEnd ·))
  let (attributes, rest) := readAttributes filled.length last filled
  match rest with
  | [] => .unfinished
  | c :: behind =>
    if c == '>' then .done [.start (Text.lower name) attributes false] behind
    else if c == '/' then
      match behind with
      | d :: final =>
        if d == '>' then .done [.start (Text.lower name) attributes true] final else .unfinished
      | [] => .unfinished
    else if c.isAsciiLetter || c == '=' then .unfinished
    else .done [.text (whole.take (whole.length - rest.length))] rest

/-! ## End tags -/

def isEndNamePart (c : CodePoint) : Bool :=
  c.isAsciiLetter || c.isAsciiDigit || c == '-' || c == '.' || c == ':' || c == '_'

/-- The name of an end tag that holds nothing else, and what follows it; `t` is what follows the
slash. -/
def plainEndTag? (t : Text) : Option (Text × Text) :=
  let start := t.dropWhile CodePoint.isBlank
  match start with
  | [] => none
  | c :: _ =>
    if c.isAsciiLetter then
      match (start.dropWhile isEndNamePart).dropWhile CodePoint.isBlank with
      | d :: rest => if d == '>' then some (start.takeWhile isEndNamePart, rest) else none
      | [] => none
    else none

/-- An end tag, where `t` is what follows the slash. -/
def readEndTag (t : Text) : Reading :=
  match plainEndTag? t with
  | some (name, rest) => .done [.stop (Text.lower name)] rest
  | none =>
    match t with
    | [] => .unfinished
    | c :: _ =>
      if c.isAsciiLetter then
        readThrough ">" (fun _ => [.stop (Text.lower (t.takeWhile (!isTagNameEnd ·)))]) t
      else
        readThrough ">" (fun content => if content.isEmpty then [] else [.aside .comment content]) t

/-! ## Comments, sections and declarations -/

/-- The parts before and after the first place where the texts of `close` stand, with blanks
between them only. -/
def cutAtSpaced? (close : List Text) (t : Text) : Option (Text × Text) :=
  match closes? close t with
  | some rest => some ([], rest)
  | none =>
    match t with
    | [] => none
    | c :: behind => (cutAtSpaced? close behind).map fun parts => (c :: parts.1, parts.2)
where
  /-- What follows the texts of `close` at the beginning of `t`. -/
  closes? : List Text → Text → Option Text
    | [], t => some t
    | [last], t => Text.dropPrefix? t last
    | first :: others, t =>
      match Text.dropPrefix? t first with
      | some rest => closes? others (rest.dropWhile CodePoint.isBlank)
      | none => none

def readSpaced (close : List Text) (kind : AsideKind) (t : Text) : Reading :=
  match cutAtSpaced? close t with
  | some (content, rest) => .done [.aside kind content] rest
  | none => .unfinished

/-- Names of sections that end as in other markup languages. -/
def standardSections : List String :=
  ["temp", "cdata", "ignore", "include", "rcdata"]

/-- Names of the sections of conditional comments. -/
def conditionalSections : List String :=
  ["if", "else", "endif"]

/-- How a section of raw text begins. -/
def rawLead : Text := "CDATA["

/-- The token of a section of this content. -/
def sectionToken (content : Text) : Token :=
  if Text.startsWith (content.map CodePoint.asciiLower) (rawLead.map CodePoint.asciiLower) then
    .aside .rawSection (content.drop rawLead.length)
  else .aside .declaration content

def isSectionNamePart (c : CodePoint) : Bool :=
  c.isAsciiLetter || c.isAsciiDigit || c == '-' || c == '.' || c == '_'

/-- A marked section, of which `whole` is all and `t` what follows the bracket. -/
def readSection (whole t : Text) : Except Refusal Reading :=
  match t with
  | [] => .ok .unfinished
  | c :: _ =>
    if !c.isAsciiLetter then .error (.nameless whole)
    else
      let name := t.takeWhile isSectionNamePart
      let behind := (t.dropWhile isSectionNamePart).dropWhile CodePoint.isBlank
      if behind.isEmpty then .ok .unfinished
      else
        let isIn (names : List String) : Bool :=
          names.any (Text.eqString (name.map CodePoint.asciiLower))
        let ending (close : List Text) : Reading :=
          match cutAtSpaced? close t with
          | some (content, rest) => .done [sectionToken content] rest
          | none => .unfinished
        if isIn standardSections then .ok (ending ["]", "]", ">"])
        else if isIn conditionalSections then .ok (ending ["]", ">"])
        else .error (.unknown (t.take (t.length - behind.length)))

/-- How long the word is that begins a document type, with the blank behind it. -/
def docTypeLead : Nat := 8

/-- What begins with `<!` and is no comment; `t` is what follows. -/
def readDeclaration (whole t : Text) : Except Refusal Reading :=
  match Text.dropPrefix? t "[" with
  | some rest => readSection whole rest
  | none =>
    if Text.eqString ((t.take 7).map CodePoint.asciiLower) "doctype" then
      .ok (readThrough ">" (fun content => [.aside .docType (content.drop docTypeLead)]) t)
    else .ok (readThrough ">" (fun content => [.aside .comment content]) t)

/-- What begins with an angle bracket; `t` is what follows it.  A bracket that begins nothing is
text, unless it is the last code point. -/
def readBracket (t : Text) : Except Refusal Reading :=
  let whole := CodePoint.ofChar '<' :: t
  match t with
  | [] => .ok .unfinished
  | c :: rest =>
    if c.isAsciiLetter then .ok (readStartTag whole t)
    else if c == '/' then .ok (readEndTag rest)
    else if c == '?' then
      .ok (readThrough ">" (fun content => [.aside .instruction content]) rest)
    else if c == '!' then
      match Text.dropPrefix? rest "--" with
      | some behind => .ok (readSpaced ["--", ">"] .comment behind)
      | none => readDeclaration whole rest
    else .ok (.done [.text [CodePoint.ofChar '<']] t)

/-! ## References in running text -/

/-- What is read at an ampersand: a text and what follows; the end of the pass, with what is left;
or an ampersand that is text. -/
inductive ReferenceReading where
  | text (content rest : Text)
  | halt (tokens : List Token) (rest : Text)
deriving DecidableEq

def ampersand : CodePoint := CodePoint.ofChar '&'

/-- A reference by number; `t` is what follows the number sign. -/
def readNumber (t : Text) : ReferenceReading :=
  let hex := match t with
    | c :: _ => c == 'x' || c == 'X'
    | [] => false
  let body := if hex then t.drop 1 else t
  let isDigit := if hex then CodePoint.isHexDigit else CodePoint.isAsciiDigit
  let digits := body.takeWhile isDigit
  let after := body.dropWhile isDigit
  let spoiled : ReferenceReading :=
    let lead := [ampersand, CodePoint.ofChar '#']
    if List.contains t (CodePoint.ofChar ';') then .halt [.text lead] t else .halt [] (lead ++ t)
  match after with
  | [] => spoiled
  | c :: _ =>
    if digits.isEmpty || c.isHexDigit then spoiled
    else
      let n := if hex then Entity.hexNumber digits else Entity.decimalNumber digits
      .text [Entity.ofNumber n] (Entity.dropSemicolon after).2

def isReferencePart (c : CodePoint) : Bool :=
  c.isAsciiLetter || c.isAsciiDigit || c == '-' || c == '.'

/-- The name at the beginning of a text, and what follows it, of which something must be there: at
the end of the text the name ends before its last sign that is no letter or digit. -/
def referenceName? (t : Text) : Option (Text × Text) :=
  let run := t.takeWhile isReferencePart
  let after := t.dropWhile isReferencePart
  if !after.isEmpty then some (run, after)
  else
    let sign (c : CodePoint) : Bool := c == '-' || c == '.'
    match run.reverse.dropWhile (!sign ·) with
    | [] => none
    | _ :: name => some (name.reverse, run.drop name.length)

/-- What stands for a named reference. -/
def ofReferenceName (name : Text) : Text :=
  match Entity.ofName? name with
  | some entity => entity.stands
  | none => ampersand :: name

/-- What begins with an ampersand; `t` is what follows it, and `ending` tells that nothing more will
come.  A single letter behind the last ampersand of all loses the ampersand. -/
def readReference (ending : Bool) (t : Text) : ReferenceReading :=
  match t with
  | [] => .halt [] [ampersand]
  | c :: rest =>
    if c == '#' then readNumber rest
    else if c.isAsciiLetter then
      match referenceName? t with
      | some (name, after) => .text (ofReferenceName name) (Entity.dropSemicolon after).2
      | none => if ending && rest.isEmpty then .halt [] t else .halt [] (ampersand :: t)
    else .text [ampersand] t

/-! ## Passes -/

/-- The elements whose content is raw text. -/
def rawElements : List String := ["script", "style"]

def isRawElement (name : Text) : Bool :=
  rawElements.any (Text.eqString name)

/-- What follows `name` at the beginning of `t`, in any case. -/
def dropFolded? : Text → Text → Option Text
  | t, [] => some t
  | [], _ :: _ => none
  | d :: t, c :: name =>
    if (Pattern.folds false c).contains d.simpleLower.val then dropFolded? t name else none

/-- What follows the end tag of `name` at the beginning of `t`. -/
def rawEnd? (name t : Text) : Option Text :=
  match Text.dropPrefix? t "</" with
  | none => none
  | some rest =>
    match dropFolded? (rest.dropWhile CodePoint.isBlank) name with
    | none => none
    | some behind => Text.dropPrefix? (behind.dropWhile CodePoint.isBlank) ">"

/-- The raw text before the end tag of `name`, that end tag, and what follows. -/
def cutAtRawEnd? (name : Text) : Text → Option (Text × Text × Text)
  | [] => none
  | c :: rest =>
    match rawEnd? name (c :: rest) with
    | some after => some ([], (c :: rest).take (rest.length + 1 - after.length), after)
    | none => (cutAtRawEnd? name rest).map fun parts => (c :: parts.1, parts.2)

/-- How far a pass has come: its tokens, the element whose raw text is being read, and what is
left. -/
structure Pass where
  tokens : List Token
  inside : Option Text
  rest : Text

def Pass.after (tokens : List Token) (p : Pass) : Pass :=
  { p with tokens := tokens ++ p.tokens }

/-- The token of a text, if there is any. -/
def textToken (t : Text) : List Token :=
  if t.isEmpty then [] else [.text t]

/-- The element whose raw text follows these tokens. -/
def rawAfter (tokens : List Token) : Option Text :=
  match tokens with
  | [.start name _ false] => if isRawElement name then some name else none
  | _ => none

/-- What stands for the beginning of a construct that is never finished, and what follows: all up
to the next closing bracket, or else up to the next opening one, or else the bracket alone. -/
def giveUp (t : Text) : Text × Text :=
  match t with
  | [] => ([], [])
  | c :: rest =>
    match Text.cutAt? ">" rest with
    | some (content, after) => (c :: (content ++ [CodePoint.ofChar '>']), after)
    | none =>
      match Text.cutAt? "<" rest with
      | some (content, after) => (c :: content, CodePoint.ofChar '<' :: after)
      | none => ([c], rest)

/-- The end tag of raw text, as far as it is written in the letters of its element; in others of the
same kind it is text. -/
def rawEndTokens (written : Text) : List Token × Bool :=
  match plainEndTag? (written.drop 2) with
  | some (name, _) => ([.stop (Text.lower name)], true)
  | none => ([.text written], false)

/-- One pass over a text; `ending` tells that nothing more will come. -/
def pass (ending : Bool) : Nat → Option Text → Text → Except Refusal Pass
  | 0, inside, t => .ok ⟨[], inside, t⟩
  | _, inside, [] => .ok ⟨[], inside, []⟩
  | fuel + 1, some name, t =>
    match cutAtRawEnd? name t with
    | none => .ok ⟨[], some name, t⟩
    | some (content, written, rest) => do
      let (tokens, ended) := rawEndTokens written
      return (← pass ending fuel (if ended then none else some name) rest).after
        (textToken content ++ tokens)
  | fuel + 1, none, t => do
    let plain (c : CodePoint) : Bool := !(c == '&' || c == '<')
    let lead := textToken (t.takeWhile plain)
    match t.dropWhile plain with
    | [] => return ⟨lead, none, []⟩
    | c :: after =>
      if c == '<' then
        match ← readBracket after with
        | .done tokens rest =>
          return (← pass ending fuel (rawAfter tokens) rest).after (lead ++ tokens)
        | .unfinished =>
          if ending && !after.isEmpty then
            let (content, rest) := giveUp (c :: after)
            return (← pass ending fuel none rest).after (lead ++ [.text content])
          else return ⟨lead, none, c :: after⟩
      else
        match readReference ending after with
        | .text content rest => return (← pass ending fuel none rest).after (lead ++ [.text content])
        | .halt tokens rest => return ⟨lead ++ tokens, none, rest⟩

/-- The tokens of a document. -/
def scan (source : Text) : Except Refusal (List Token) := do
  let first ← pass false (source.length + 1) none source
  let second ← pass true (first.rest.length + 1) first.inside first.rest
  let left := if second.inside.isSome then [] else textToken second.rest
  return first.tokens ++ second.tokens ++ left

end VeiledGateway.Markup
