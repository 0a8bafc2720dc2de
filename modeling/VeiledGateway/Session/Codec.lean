/-
  The written form of the record of a session.

  Reading is lenient: fields that are not known are passed over, what is missing gets its default,
  and whole numbers and truth values may be written in several ways.  All that is wrong with a
  record is told at once, in the order of the fields.
-/
import VeiledGateway.Json.Printer
import VeiledGateway.Json.Reader
import VeiledGateway.Number.Shortest
import VeiledGateway.Session.Record

set_option autoImplicit false

namespace VeiledGateway.Record

/-! ## Writing -/

/-- What is written for a name: a surrogate half has no encoding, and each of its three bytes is
written as the replacement. -/
def writtenName (t : Text) : Text :=
  Utf8.decodeLossy (t.flatMap Utf8.encodeCode)

def entriesJson (entries : Entries Text) : Json :=
  .object (entries.map fun entry => (writtenName entry.1, .text entry.2))

/-- The tables, by the names under which they are written. -/
def tables (m : Mappings) : List (String × Entries Text) :=
  [("identifiers", m.identifiers), ("classnames", m.classNames), ("ids", m.elementIds),
    ("textchunks", m.textChunks), ("links", m.links)]

def challengeJson (challenge : Challenge) : Json :=
  .object [("nonce", .text challenge.nonce), ("difficulty", .int challenge.difficulty),
    ("solved", .bool challenge.solved)]

def toJson (record : Record) : Json :=
  .object [("sessionKey", .text record.key),
    ("challenge", (record.challenge.map challengeJson).getD .null),
    ("mappings", .object ((tables record.mappings).map fun table =>
      (Text.ofString table.1, entriesJson table.2)))]

/-- The texts of a record that must have an encoding, in the order in which they are written. -/
def values (record : Record) : List Text :=
  let nonce := match record.challenge with
    | some challenge => [challenge.nonce]
    | none => []
  [record.key] ++ nonce
    ++ (tables record.mappings).flatMap fun table => table.2.map Prod.snd

/-- A record in writing, or the first of its texts that has no encoding. -/
def write (record : Record) : Except Utf8.EncodeFault Text := do
  let _ ← record.values.mapM Utf8.encode
  return record.toJson.render false .compact 0

/-! ## Reading -/

/-- What can be wrong with a value. -/
inductive IssueKind where
  | invalid
  | missing
  | text
  | object
  | table
  | number
  | numberText
  | numberSize
  | fraction
  | finite
  | truth
  | truthText
deriving DecidableEq

/-- Something wrong with a record, and the names on the way to it. -/
structure Issue where
  place : List Text
  kind : IssueKind
deriving DecidableEq

/-- A value, or all that is wrong. -/
abbrev Checked (α : Type) := Except (List Issue) α

/-- Two parts together: what is wrong with either is told. -/
def both {α β : Type} (a : Checked α) (b : Checked β) : Checked (α × β) :=
  match a, b with
  | .ok a, .ok b => .ok (a, b)
  | .error issues, .ok _ => .error issues
  | .ok _, .error issues => .error issues
  | .error first, .error second => .error (first ++ second)

def wrong {α : Type} (kind : IssueKind) : Checked α :=
  .error [⟨[], kind⟩]

/-- What is wrong with a part, told of the whole that has it under a name. -/
def under {α : Type} (name : Text) (part : Checked α) : Checked α :=
  part.mapError (List.map fun issue => { issue with place := name :: issue.place })

def textOf : Json → Checked Text
  | .text t => .ok t
  | _ => wrong .text

/-- The text without leading zeros, of which the last one stays if a point follows or nothing else
is there; underscores between zeros are passed over. -/
def dropZeros : Text → Option Text
  | [] => none
  | c :: rest =>
    if c == '0' then go c rest
    else if c.isAsciiDigit then some (c :: rest)
    else none
where
  go (last : CodePoint) : Text → Option Text
    | [] => some [last]
    | c :: rest =>
      if c == '0' || c == '_' then go c rest
      else if c.isAsciiDigit then some (c :: rest)
      else if c == '.' then some (last :: c :: rest)
      else none

/-- The text without a fraction of zeros. -/
def dropFraction (t : Text) : Text :=
  match Text.cutAtCode '.' t with
  | (whole, some fraction) => if fraction.all (· == '0') then whole else t
  | (_, none) => t

/-- The text without single underscores between its other code points. -/
def dropUnderscores (t : Text) : Text :=
  let mark := CodePoint.ofChar '_'
  if t.head? == some mark || t.getLast? == some mark || Text.contains t "__" then t
  else t.filter (· != mark)

/-- A blank at the ends of a written number. -/
def isNumberBlank (c : CodePoint) : Bool :=
  c.isBlank && !(0x1C ≤ c.val && c.val ≤ 0x1F)

/-- The whole number that a text writes. -/
def numberOfText? (t : Text) : Option Int := do
  let t := Text.trimWhere isNumberBlank t
  let t ← match t with
    | c :: rest =>
      if c == '+' then if rest.head? == some (CodePoint.ofChar '-') then none else some rest
      else some t
    | [] => some t
  let (negative, t) := match t with
    | c :: rest => if c == '-' then (true, rest) else (false, t)
    | [] => (false, t)
  let digits := dropUnderscores (dropFraction (← dropZeros t))
  if digits.isEmpty || !digits.all CodePoint.isAsciiDigit then none
  else
    let n : Int := Decimal.digitsValue digits
    some (if negative then -n else n)

/-- The bound of the numbers that a floating-point number may stand for. -/
def numberBound : Int := 0x8000000000000000

def numberOf : Json → Checked Int
  | .int i => .ok i
  | .bool b => .ok (if b then 1 else 0)
  | .real x =>
    match Exact.ofFloat? x with
    | none => wrong .finite
    | some r =>
      match Exact.whole? r with
      | none => wrong .fraction
      | some i => if -numberBound < i && i < numberBound then .ok i else wrong .numberSize
  | .text t =>
    match numberOfText? t with
    | some i => .ok i
    | none => wrong .numberText
  | _ => wrong .number

def falseWords : List String := ["0", "off", "f", "false", "n", "no"]

def trueWords : List String := ["1", "on", "t", "true", "y", "yes"]

def truthOfNumber (i : Int) : Checked Bool :=
  if i = 0 then .ok false else if i = 1 then .ok true else wrong .truthText

def truthOf : Json → Checked Bool
  | .bool b => .ok b
  | .int i => if -numberBound ≤ i && i < numberBound then truthOfNumber i else wrong .truth
  | .real x =>
    match numberOf (.real x) with
    | .ok i => truthOfNumber i
    | .error _ => wrong .truth
  | .text t =>
    let word := t.map CodePoint.asciiLower
    if falseWords.any (Text.eqString word) then .ok false
    else if trueWords.any (Text.eqString word) then .ok true
    else wrong .truthText
  | _ => wrong .truth

/-- A field that has a default. -/
def field {α : Type} (fields : Entries Json) (name : Text) (default : α) (read : Json → Checked α) :
    Checked α :=
  match fields.get? name with
  | some j => under name (read j)
  | none => .ok default

def tableOf : Json → Checked (Entries Text)
  | .object fields =>
    fields.foldr (fun entry rest =>
      (both (under entry.1 (textOf entry.2)) rest).map fun pair => (entry.1, pair.1) :: pair.2)
      (.ok [])
  | _ => wrong .table

def mappingsOf : Json → Checked Mappings
  | .object fields => do
    let table (name : Text) := field fields name [] tableOf
    let parts ← both (table "identifiers") (both (table "classnames")
      (both (table "ids") (both (table "textchunks") (table "links"))))
    return ⟨parts.1, parts.2.1, parts.2.2.1, parts.2.2.2.1, parts.2.2.2.2⟩
  | _ => wrong .object

def defaultDifficulty : Int := 4

def challengeOf : Json → Checked (Option Challenge)
  | .null => .ok none
  | .object fields => do
    let nonce : Checked Text := match Entries.get? fields "nonce" with
      | some j => under "nonce" (textOf j)
      | none => under "nonce" (wrong .missing)
    let parts ← both nonce (both (field fields "difficulty" defaultDifficulty numberOf)
      (field fields "solved" false truthOf))
    return some ⟨parts.1, parts.2.1, parts.2.2⟩
  | _ => wrong .object

/-- The key of a record, which has two names of which the first counts more; a record without one
gets a new key. -/
def keyOf (fields : Entries Json) (secrets : Secrets) : Checked Text × Secrets :=
  match fields.get? "sessionKey", fields.get? "session_key" with
  | some j, _ => (under "sessionKey" (textOf j), secrets)
  | none, some j => (under "session_key" (textOf j), secrets)
  | none, none =>
    let (key, secrets) := secrets.hex keyBytes
    (.ok key, secrets)

/-- The record that a value stands for. -/
def ofJson (j : Json) (secrets : Secrets) : Checked Record × Secrets :=
  match j with
  | .object fields =>
    let (key, secrets) := keyOf fields secrets
    let parts := both key (both (field fields "challenge" none challengeOf)
      (field fields "mappings" Mappings.empty mappingsOf))
    (parts.map fun parts => ⟨parts.1, parts.2.1, parts.2.2⟩, secrets)
  | _ => (wrong .object, secrets)

/-- The record that a text writes. -/
def read (t : Text) (secrets : Secrets) : Checked Record × Secrets :=
  match Json.readWith? true t with
  | some j => ofJson j secrets
  | none => (wrong .invalid, secrets)

end VeiledGateway.Record
