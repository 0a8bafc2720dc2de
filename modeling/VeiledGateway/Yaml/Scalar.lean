/-
  The scalars of a YAML document: which kind a plain one is of, and what value it writes.

  `Tag.ofPlain` finds the kind of a scalar that carries no tag; `Tag.value` reads a scalar of a kind.
  A pattern for the kinds also fits a text with a line feed after it.
-/
import VeiledGateway.Datum.Basic
import VeiledGateway.Number.Decimal
import VeiledGateway.Number.Integer
import VeiledGateway.Unicode.Case
import VeiledGateway.Yaml.Fault

set_option autoImplicit false

namespace VeiledGateway.Yaml

/-- The kinds of values that a node can be marked as. -/
inductive Tag where
  | nothing
  | truth
  | whole
  | real
  | text
  | bytes
  | moment
  | list
  | table
  | set
  | orderedTable
  | pairs
  /-- The key of a table whose entries are taken over. -/
  | merge
  /-- The key of a table that stands for its value. -/
  | value
  | unknown
deriving DecidableEq, Inhabited

namespace Tag

/-- How the tags of the common kinds begin. -/
def commonLead : Text := "tag:yaml.org,2002:"

def ofText (t : Text) : Tag :=
  match (Text.dropPrefix? t commonLead).map Text.toString with
  | some "null" => .nothing
  | some "bool" => .truth
  | some "int" => .whole
  | some "float" => .real
  | some "str" => .text
  | some "binary" => .bytes
  | some "timestamp" => .moment
  | some "seq" => .list
  | some "map" => .table
  | some "set" => .set
  | some "omap" => .orderedTable
  | some "pairs" => .pairs
  | some "merge" => .merge
  | some "value" => .value
  | _ => .unknown

end Tag

/-! ## Kinds of plain scalars -/

/-- The text without a line feed at its end. -/
def withoutFinalBreak (t : Text) : Text :=
  (Text.dropSuffix? t "\n").getD t

def isWord (words : List String) (t : Text) : Bool :=
  words.any fun w => t.eqString w

def isTruthWord (t : Text) : Bool :=
  isWord ["yes", "Yes", "YES", "no", "No", "NO", "true", "True", "TRUE", "false", "False", "FALSE",
    "on", "On", "ON", "off", "Off", "OFF"] t

def isNullWord (t : Text) : Bool :=
  isWord ["~", "null", "Null", "NULL"] t

def withoutSign (t : Text) : Text :=
  (Decimal.signOf t).2

def isDigitOrLine (c : CodePoint) : Bool :=
  c.isAsciiDigit || c == '_'

/-- A digit, and then digits and underscores. -/
def digitsAhead (t : Text) : Text :=
  match t with
  | c :: _ => if c.isAsciiDigit then t.takeWhile isDigitOrLine else []
  | [] => []

/-- One digit, or two of which the first is below six. -/
def isSixtieth (t : Text) : Bool :=
  match t with
  | [a] => a.isAsciiDigit
  | [a, b] => a.isAsciiDigit && a.val ≤ 0x35 && b.isAsciiDigit
  | _ => false

/-- An exponent with its sign, or nothing. -/
def isSignedExponent (t : Text) : Bool :=
  match t with
  | [] => true
  | e :: sign :: digits =>
    (e == 'e' || e == 'E') && (sign == '+' || sign == '-') && !digits.isEmpty
      && digits.all CodePoint.isAsciiDigit
  | _ => false

/-- Digits after the point, and an exponent. -/
def isFraction (t : Text) : Bool :=
  isSignedExponent (t.dropWhile isDigitOrLine)

/-- Groups of sixtieths after a first number. -/
def isSixties (t : Text) : Bool :=
  match Text.fields ':' t with
  | first :: part :: rest =>
    !first.isEmpty && digitsAhead first == first && (part :: rest).all isSixtieth
  | _ => false

def isReal (t : Text) : Bool :=
  let body := withoutSign t
  let whole := digitsAhead body
  let plain := match whole, body.drop whole.length with
    | _ :: _, c :: rest => c == '.' && isFraction rest
    | _, _ => false
  let pointed := match t with
    | c :: d :: rest => c == '.' && d.isAsciiDigit && isFraction rest
    | _ => false
  let sixties := match Text.cutAtLast? '.' body with
    | some (lead, tail) => isSixties lead && tail.all isDigitOrLine
    | none => false
  plain || pointed || sixties || isWord [".inf", ".Inf", ".INF"] body
    || isWord [".nan", ".NaN", ".NAN"] t

/-- A mark, and then at least one code point of a class. -/
def isMarked (mark : Text) (p : CodePoint → Bool) (t : Text) : Bool :=
  match Text.dropPrefix? t mark with
  | some digits => !digits.isEmpty && digits.all p
  | none => false

def isWhole (t : Text) : Bool :=
  let body := withoutSign t
  let decimal := match body with
    | c :: rest =>
      c.isAsciiDigit && c != '0' && (rest.all isDigitOrLine || isSixties body)
    | [] => false
  decimal || body.eqString "0"
    || isMarked "0b" (fun (c : CodePoint) => c == '0' || c == '1' || c == '_') body
    || isMarked "0x" (fun (c : CodePoint) => c.isHexDigit || c == '_') body
    || isMarked "0" (fun (c : CodePoint) => (c.isAsciiDigit && c.val ≤ 0x37) || c == '_') body

/-! ## Moments -/

/-- The numbers of a date or a moment as it is written. -/
structure MomentText where
  year : Nat
  month : Nat
  day : Nat
  time : Option (Nat × Nat × Nat)
  fraction : Text
  /-- Nothing, or the distance from universal time in seconds. -/
  zone : Option Int

/-- A number of at least `least` and at most `most` digits at the beginning. -/
def numberAhead? (least most : Nat) (t : Text) : Option (Nat × Text) :=
  let digits := (t.takeWhile CodePoint.isAsciiDigit).take most
  if digits.length < least then none
  else some (Decimal.digitsValue digits, t.drop digits.length)

def afterCode? (c : Char) (t : Text) : Option Text :=
  match t with
  | d :: rest => if d = CodePoint.ofChar c then some rest else none
  | [] => none

def isSpaceOrTab (c : CodePoint) : Bool :=
  c == ' ' || c == '\t'

/-- The distance from universal time, up to the end of the text. -/
def zoneAhead? (t : Text) : Option (Option Int) := do
  match t.dropWhile isSpaceOrTab with
  | [] => if t.isEmpty then some none else none
  | c :: rest =>
    if c == 'Z' then (if rest.isEmpty then some (some 0) else none)
    else if c == '+' || c == '-' then
      let (hours, rest) ← numberAhead? 1 2 rest
      let (minutes, rest) ← match afterCode? ':' rest with
        | some rest => numberAhead? 2 2 rest
        | none => some (0, rest)
      if !rest.isEmpty then none
      let seconds : Int := hours * 3600 + minutes * 60
      some (some (if c == '-' then -seconds else seconds))
    else none

/-- The mark or the blanks between a date and a time. -/
def timeAhead? (t : Text) : Option Text :=
  match t with
  | c :: rest =>
    if c == 'T' || c == 't' then some rest
    else if isSpaceOrTab c then some (rest.dropWhile isSpaceOrTab)
    else none
  | [] => none

def momentText? (t : Text) : Option MomentText := do
  let (year, t) ← numberAhead? 4 4 t
  let (month, t) ← numberAhead? 1 2 (← afterCode? '-' t)
  let (day, t) ← numberAhead? 1 2 (← afterCode? '-' t)
  if t.isEmpty then return ⟨year, month, day, none, [], none⟩
  let (hour, t) ← numberAhead? 1 2 (← timeAhead? t)
  let (minute, t) ← numberAhead? 2 2 (← afterCode? ':' t)
  let (second, t) ← numberAhead? 2 2 (← afterCode? ':' t)
  let (fraction, t) := match afterCode? '.' t with
    | some t => (t.takeWhile CodePoint.isAsciiDigit, t.dropWhile CodePoint.isAsciiDigit)
    | none => ([], t)
  return ⟨year, month, day, some (hour, minute, second), fraction, ← zoneAhead? t⟩

/-- A date with all its digits, or a date with a time. -/
def isMoment (t : Text) : Bool :=
  match momentText? t with
  | some m => m.time.isSome || t.length = 10
  | none => false

/-- The kind of a plain scalar. -/
def Tag.ofPlain (t : Text) : Tag :=
  let core := withoutFinalBreak t
  if t.isEmpty then .nothing
  else if isTruthWord core then .truth
  else if isReal core then .real
  else if isWhole core then .whole
  else if core.eqString "<<" then .merge
  else if isNullWord core then .nothing
  else if isMoment core then .moment
  else if core.eqString "=" then .value
  else if isWord ["!", "&", "*"] core then .unknown
  else .text

/-! ## Values -/

/-- The whole number of decimal digits. -/
def decimalOf (t : Text) : Except Fault Int :=
  match Text.readInt t with
  | .ok i => .ok i
  | .error (.tooLong n) => .error (.longWhole n)
  | .error .noNumber => .error (.badWhole 10 t)

def basedOf (base : Nat) (t : Text) : Except Fault Int :=
  match Text.toIntIn? base t with
  | some i => .ok i
  | none => .error (.badWhole base t)

/-- Numbers as the digits of a number in the base sixty. -/
def sixtiesOf (parts : List Int) : Int :=
  parts.foldl (fun n p => n * 60 + p) 0

def wholeOf (t : Text) : Except Fault Int := do
  let t := t.filter fun (c : CodePoint) => c != '_'
  if t.isEmpty then throw .noDigits
  let (negative, body) := Decimal.signOf t
  let size ←
    if body.eqString "0" then pure 0
    else if Text.startsWith body "0b" then basedOf 2 (body.drop 2)
    else if Text.startsWith body "0x" then basedOf 16 (body.drop 2)
    else if body.isEmpty then throw Fault.noDigits
    else if Text.startsWith body "0" then basedOf 8 body
    else if List.contains body ':' then
      pure (sixtiesOf (← (Text.fields ':' body).mapM decimalOf))
    else decimalOf body
  return if negative then -size else size

def plainReal (t : Text) : Except Fault Float :=
  match Decimal.real? t with
  | some x => .ok x
  | none => .error (.badReal t)

/-- Numbers as the digits of a number in the base sixty, the last of them added first. -/
def realSixties (parts : List Float) : Float :=
  (parts.reverse.foldl (fun (acc : Float × Float) p => (acc.1 + p * acc.2, acc.2 * 60))
    ((0.0 : Float), (1.0 : Float))).1

def realOf (t : Text) : Except Fault Float := do
  let t := Text.lower (t.filter fun (c : CodePoint) => c != '_')
  if t.isEmpty then throw .noDigits
  let (negative, body) := Decimal.signOf t
  let size ←
    if body.eqString ".inf" then pure (1.0 / 0.0)
    else if body.eqString ".nan" then return 0.0 / 0.0
    else if List.contains body ':' then
      pure (realSixties (← (Text.fields ':' body).mapM plainReal))
    else plainReal body
  return if negative then -size else size

def truthOf (t : Text) : Except Fault Bool :=
  let t := Text.lower t
  if isWord ["yes", "true", "on"] t then .ok true
  else if isWord ["no", "false", "off"] t then .ok false
  else .error (.badTruth t)

/-- Six digits of a fraction, as a number. -/
def microsOf (fraction : Text) : Nat :=
  Decimal.digitsValue (Text.padRight (fraction.take 6) 6 '0')

def momentOf (t : Text) : Except Fault Datum :=
  match momentText? (withoutFinalBreak t) with
  | none => .error .badMoment
  | some m =>
    let date := Date.ofNumbers m.year m.month m.day
    let read : Except CalendarFault Datum := match m.time with
      | none => return .date (← date)
      | some (hour, minute, second) => do
        let zone ← m.zone.mapM Moment.zoneOf
        return .moment (← Moment.ofNumbers date hour minute second (microsOf m.fraction) zone)
    match read with
    | .ok d => .ok d
    | .error fault => .error (.calendar fault)

/-- The value of six bits that a letter of the alphabet for bytes stands for. -/
def sixBits? (c : CodePoint) : Option Nat :=
  if c.isAsciiUpper then some (c.val - 0x41)
  else if c.isAsciiLower then some (c.val - 0x47)
  else if c.isAsciiDigit then some (c.val + 4)
  else if c == '+' then some 62
  else if c == '/' then some 63
  else none

/-- The bytes that groups of four letters write.  Other code points are passed over; `held` are the
letters of a group that is not complete. -/
def bytesFrom : Text → List Nat → Nat → Option (List UInt8)
  | [], [], _ => some []
  | [], _ :: _, _ => none
  | c :: rest, held, fills =>
    if c == '=' then
      if 2 ≤ held.length && 4 ≤ held.length + fills + 1 then
        match held with
        | [a, b] => some [UInt8.ofNat (a * 4 + b / 16)]
        | [a, b, d] => some [UInt8.ofNat (a * 4 + b / 16), UInt8.ofNat (b % 16 * 16 + d / 4)]
        | _ => none
      else if 2 ≤ held.length then bytesFrom rest held (fills + 1)
      else bytesFrom rest held fills
    else
      match sixBits? c with
      | none => bytesFrom rest held fills
      | some v =>
        match held with
        | [a, b, d] =>
          (bytesFrom rest [] 0).map fun more =>
            UInt8.ofNat (a * 4 + b / 16) :: UInt8.ofNat (b % 16 * 16 + d / 4)
              :: UInt8.ofNat (d % 4 * 64 + v) :: more
        | _ => bytesFrom rest (held ++ [v]) 0

def bytesOf (t : Text) : Except Fault Datum :=
  if t.all CodePoint.isAscii then
    match bytesFrom t [] 0 with
    | some bs => .ok (.bytes bs)
    | none => .error .malformed
  else .error .malformed

/-- The value of a scalar of a kind. -/
def Tag.scalarValue (tag : Tag) (t : Text) : Except Fault Datum :=
  match tag with
  | .nothing => .ok .nothing
  | .truth => return .truth (← truthOf t)
  | .whole => return .whole (← wholeOf t)
  | .real => return .real (← realOf t)
  | .text => .ok (.text t)
  | .bytes => bytesOf t
  | .moment => momentOf t
  | _ => .error .malformed

end VeiledGateway.Yaml
