/-
  The program that does nothing but run the server.

  The name of a switch may be cut short as long as no other switch begins so.  The words are told
  apart first, and then taken one after the other.
-/
import VeiledGateway.Command.Serving
import VeiledGateway.Text.Quoted

set_option autoImplicit false

namespace VeiledGateway.Command.ServerProgram

open Running

/-- A part of the command line. -/
inductive Part where
  | help
  | host
  | port
  | debug
deriving DecidableEq

namespace Part

def names : Part → List Text
  | help => ["-h", "--help"]
  | host => ["--host"]
  | port => ["--port"]
  | debug => ["--debug"]

/-- All names of parts. -/
def allNames : List (Text × Part) :=
  [help, host, port, debug].flatMap fun part => part.names.map fun name => (name, part)

def ofName? (t : Text) : Option Part :=
  allNames.lookup t

/-- A value comes with the part. -/
def hasValue : Part → Bool
  | host | port => true
  | help | debug => false

end Part

/-- Why a command line cannot be used. -/
inductive LineFault where
  | ambiguous (word : Text) (names : List Text)
  | valueMissing (part : Part)
  | valueUnwanted (part : Part) (value : Text)
  | noWhole (part : Part) (value : Text)
  | unknown (words : List Text)
deriving DecidableEq

/-- A fault of one part. -/
def Part.fault (part : Part) (detail : Text) : Text :=
  ("argument " : Text) ++ Text.join "/" part.names ++ (": " : Text) ++ detail

/-- The words for a fault. -/
def LineFault.message : LineFault → Text
  | .ambiguous word names =>
    ("ambiguous option: " : Text) ++ word ++ (" could match " : Text) ++ Text.join ", " names
  | .valueMissing part => part.fault "expected one argument"
  | .valueUnwanted part value =>
    part.fault (("ignored explicit argument " : Text) ++ Text.quoted value)
  | .noWhole part value => part.fault (("invalid int value: " : Text) ++ Text.quoted value)
  | .unknown words => ("unrecognized arguments: " : Text) ++ Text.join " " words

/-- What a word is. -/
inductive WordKind where
  | plain
  /-- The word after which all words are plain. -/
  | terminator
  /-- It looks like a switch and is none. -/
  | unknown
  /-- A part by one of its names, and the value in the word. -/
  | named (part : Part) (name : Text) (value : Option Text)
deriving DecidableEq

/-! ## Telling words apart -/

/-- The parts that a word may stand for which is no name itself. -/
def candidates (word : Text) : List (Part × Text × Option Text) :=
  if Text.startsWith word "--" then
    let (lead, value) := Text.cutAtCode '=' word
    (Part.allNames.filter fun n => Text.startsWith n.1 lead).map fun n => (n.2, n.1, value)
  else
    Part.allNames.filterMap fun n =>
      if n.1 == word.take 2 then some (n.2, n.1, some (word.drop 2))
      else if Text.startsWith n.1 word then some (n.2, n.1, none)
      else none

def isDigit (c : CodePoint) : Bool :=
  c.digitValue?.isSome

/-- A number with a minus before it. -/
def isNegativeNumber (word : Text) : Bool :=
  let body := (Text.dropSuffix? word "\n").getD word
  match body with
  | [] => false
  | c :: digits =>
    let (whole, fraction) := Text.cutAtCode '.' digits
    c == '-' && whole.all isDigit
      && (match fraction with
        | some fraction => !fraction.isEmpty && fraction.all isDigit
        | none => !whole.isEmpty)

/-- What a word is that stands before any terminator. -/
def kindOf (word : Text) : Except LineFault WordKind :=
  if !Text.startsWith word "-" || word.length = 1 then .ok .plain
  else
    match Part.ofName? word with
    | some part => .ok (.named part word none)
    | none =>
      let (name, value) := Text.cutAtCode '=' word
      match Part.ofName? name with
      | some part => .ok (.named part name value)
      | none =>
        match candidates word with
        | [(part, name, value)] => .ok (.named part name value)
        | [] =>
          if isNegativeNumber word || List.contains word (CodePoint.ofChar ' ') then .ok .plain
          else .ok .unknown
        | several => .error (.ambiguous word (several.map fun c => c.2.1))

/-- What the words are. -/
def kinds : List Text → Except LineFault (List (Text × WordKind))
  | [] => .ok []
  | word :: rest =>
    if word.eqString "--" then .ok ((word, .terminator) :: rest.map fun w => (w, .plain))
    else do
      let kind ← kindOf word
      return (word, kind) :: (← kinds rest)

/-! ## Taking words -/

/-- What a command line comes to. -/
structure Choices where
  listening : Listening
  /-- Words that belong to no part. -/
  unknown : List Text

/-- Why taking words ends early. -/
inductive Stop where
  | help
  | fault (fault : LineFault)

/-- The choices with a part taken over. -/
def Choices.take (choices : Choices) (part : Part) (value : Text) : Except Stop Choices :=
  let listening := choices.listening
  match part with
  | .help => .error .help
  | .debug => .ok { choices with listening := { listening with debug := true } }
  | .host => .ok { choices with listening := { listening with host := value } }
  | .port =>
    match Text.readInt value with
    | .ok port => .ok { choices with listening := { listening with port } }
    | .error _ => .error (.fault (.noWhole part value))

/-- A part without a value that has one all the same.  A short name may be repeated. -/
def unwanted (part : Part) (name value : Text) : Option LineFault :=
  let rest := value.dropWhile fun c => name.drop 1 == [c]
  if !value.isEmpty && rest.isEmpty then none else some (.valueUnwanted part rest)

/-- The words are taken one after the other. -/
def takeAll : List (Text × WordKind) → Choices → Except Stop Choices
  | [], choices => .ok choices
  | (_, .named part name value) :: rest, choices =>
    match part.hasValue, value with
    | true, some value => do takeAll rest (← choices.take part value)
    | true, none =>
      match rest with
      | (value, .plain) :: rest => do takeAll rest (← choices.take part value)
      | _ => .error (.fault (.valueMissing part))
    | false, some value =>
      match unwanted part name value with
      | some fault => .error (.fault fault)
      | none => do takeAll rest (← choices.take part value)
    | false, none => do takeAll rest (← choices.take part [])
  | (word, _) :: rest, choices => takeAll rest { choices with unknown := choices.unknown ++ [word] }

def standard : Choices :=
  ⟨⟨Serving.standardHost, Serving.standardPort, false⟩, []⟩

/-- What a command line comes to. -/
def read (line : List Text) : Except Stop Listening := do
  let words ← (kinds line).mapError Stop.fault
  let choices ← takeAll words standard
  if !choices.unknown.isEmpty then throw (.fault (.unknown choices.unknown))
  return choices.listening

/-! ## Running -/

def usage : Text :=
  "usage: gateway [-h] [--host HOST] [--port PORT] [--debug]\n"

def help : Text :=
  usage ++ ("\nCloakGate Gateway Server\n\noptions:\n" : Text)
    ++ ("  -h, --help   show this help message and exit\n" : Text)
    ++ ("  --host HOST  Bind address\n" : Text)
    ++ ("  --port PORT  Port (default: 8080)\n" : Text)
    ++ ("  --debug      Enable debug mode\n" : Text)

/-- A run of the program. -/
def run (w : Surroundings) (line : List Text) : Running Unit :=
  match read line with
  | .ok listening => Serving.run w listening none
  | .error .help => do
    write help
    exit 0
  | .error (.fault fault) => do
    note (usage ++ ("gateway: error: " : Text) ++ fault.message ++ ("\n" : Text))
    exit 2

end VeiledGateway.Command.ServerProgram
