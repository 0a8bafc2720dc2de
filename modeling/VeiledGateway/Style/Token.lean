/-
  The tokens of a style sheet that matter when it is rewritten: comments, addresses, strings,
  braces, semicolons, and selectors of classes and identities.

  `scan` cuts a style sheet into tokens and the code points between them; put together again they
  are the style sheet.
-/
import VeiledGateway.Unicode.Property
import VeiledGateway.Text.Search

set_option autoImplicit false

namespace VeiledGateway.Style

inductive TokenKind where
  | comment
  | address
  | string
  | opening
  | closing
  | semicolon
  | classSelector
  | identitySelector
deriving DecidableEq

/-- A piece of a style sheet: a token, or a code point that belongs to none. -/
inductive Piece where
  | token (kind : TokenKind) (text : Text)
  | other (c : CodePoint)
deriving DecidableEq

def Piece.text : Piece → Text
  | .token _ text => text
  | .other c => [c]

/-- How many code points a token takes; nothing if there is none here. -/
abbrev Extent := Option Nat

/-! ## Escapes and names -/

/-- How many code points the escape after a backslash takes: up to six hexadecimal digits and a
blank, or one code point that is no end of a line. -/
def escapeSize (after : Text) : Extent :=
  match after with
  | [] => none
  | c :: _ =>
    if c.isHexDigit then
      let digits := ((after.take 6).takeWhile CodePoint.isHexDigit).length
      match after.drop digits with
      | d :: _ => if d.isBlank then some (digits + 1) else some digits
      | [] => some digits
    else if c == '\n' then none
    else some 1

/-- A letter that may begin a name: an ASCII letter in any case, of which some have no ASCII form,
or the underscore. -/
def isNameStart (c : CodePoint) : Bool :=
  c.isAsciiLetter || c == '_' || c.val == 0x130 || c.val == 0x131 || c.val == 0x17F || c.val == 0x212A

def isNamePart (c : CodePoint) : Bool :=
  c.isWord || c == '-'

/-- How many code points the part of a name at the beginning of a text takes. -/
def namePartSize (accepts : CodePoint → Bool) (t : Text) : Extent :=
  match t with
  | [] => none
  | c :: rest =>
    if accepts c then some 1
    else if c == '\\' then (escapeSize rest).map (· + 1)
    else none

/-- How many code points the rest of a name takes. -/
def nameRestSize : Nat → Text → Nat
  | 0, _ => 0
  | fuel + 1, t =>
    match namePartSize isNamePart t with
    | some n => n + nameRestSize fuel (t.drop n)
    | none => 0

/-- How many code points a name takes: a hyphen perhaps, a start, and parts. -/
def nameSize (t : Text) : Extent :=
  let hyphen := match t with
    | c :: _ => if c == '-' then 1 else 0
    | [] => 0
  let after := t.drop hyphen
  match namePartSize isNameStart after with
  | some n => some (hyphen + n + nameRestSize after.length (after.drop n))
  | none => none

/-! ## Tokens -/

/-- How many code points precede the first place where `sought` stands, with `sought` itself. -/
def throughSize (sought : Text) (t : Text) : Extent :=
  (Text.cutAt? sought t).map fun parts => parts.1.length + sought.length

def commentSize (t : Text) : Extent :=
  match Text.dropPrefix? t "/*" with
  | some rest => (throughSize "*/" rest).map (· + 2)
  | none => none

/-- How many code points the inside of a string and its closing quote take. -/
def stringRestSize (quote : CodePoint) : Text → Extent
  | [] => none
  | [c] => if c = quote then some 1 else none
  | c :: d :: rest =>
    if c = quote then some 1
    else if c == '\\' then (stringRestSize quote rest).map (· + 2)
    else if c == '\n' then none
    else (stringRestSize quote (d :: rest)).map (· + 1)

def stringSize (t : Text) : Extent :=
  match t with
  | c :: rest => if c == '"' || c == '\'' then (stringRestSize c rest).map (· + 1) else none
  | [] => none

/-- The text after the opening of an address, in any case. -/
def afterAddressOpening? (t : Text) : Option Text :=
  if Text.eqString ((t.take 4).map CodePoint.asciiLower) "url(" then some (t.drop 4) else none

/-- How many code points a quoted address takes, with the blanks and the parenthesis behind it. -/
def quotedAddressSize (t : Text) : Extent :=
  match t with
  | c :: rest =>
    if c == '"' || c == '\'' then
      let inside := (rest.takeWhile (· != c)).length
      match rest.drop inside with
      | [] => none
      | _ :: after =>
        let blanks := (after.takeWhile CodePoint.isBlank).length
        match after.drop blanks with
        | d :: _ => if d == ')' then some (inside + blanks + 3) else none
        | [] => none
    else none
  | [] => none

/-- How many code points an address takes: to the parenthesis behind its quotes, or else to the
first one. -/
def addressSize (t : Text) : Extent :=
  match afterAddressOpening? t with
  | none => none
  | some rest =>
    let blanks := (rest.takeWhile CodePoint.isBlank).length
    let inside := rest.drop blanks
    match quotedAddressSize inside with
    | some n => some (n + blanks + 4)
    | none => (throughSize ")" inside).map (· + blanks + 4)

/-- The token at the beginning of a text and its length. -/
def tokenAt (t : Text) : Option (TokenKind × Nat) :=
  match t with
  | [] => none
  | c :: rest =>
    if c == '/' then (commentSize t).map (TokenKind.comment, ·)
    else if c == 'u' || c == 'U' then (addressSize t).map (TokenKind.address, ·)
    else if c == '"' || c == '\'' then (stringSize t).map (TokenKind.string, ·)
    else if c == '{' then some (.opening, 1)
    else if c == '}' then some (.closing, 1)
    else if c == ';' then some (.semicolon, 1)
    else if c == '.' then (nameSize rest).map fun n => (TokenKind.classSelector, n + 1)
    else if c == '#' then (nameSize rest).map fun n => (TokenKind.identitySelector, n + 1)
    else none

def scanFrom : Nat → Text → List Piece
  | 0, t => t.map Piece.other
  | _, [] => []
  | fuel + 1, c :: rest =>
    match tokenAt (c :: rest) with
    | some (kind, n) => .token kind ((c :: rest).take n) :: scanFrom fuel ((c :: rest).drop n)
    | none => .other c :: scanFrom fuel rest

/-- The pieces of a style sheet. -/
def scan (t : Text) : List Piece :=
  scanFrom t.length t

end VeiledGateway.Style
