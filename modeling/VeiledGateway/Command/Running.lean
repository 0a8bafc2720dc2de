/-
  Runs of the program: what a run finds, what it writes, and how it ends.

  A run writes to two streams, its output and its notes, to which the log goes too.  What has been
  written stays written when the run ends early.
-/
import VeiledGateway.Config.Source
import VeiledGateway.Log.Setup
import VeiledGateway.Session.Address

set_option autoImplicit false

namespace VeiledGateway.Command

/-- What a run finds. -/
structure Surroundings where
  disk : Disk
  environment : Entries Text
  now : Moment
  /-- The seed of layouts, if none is chosen. -/
  seed : Int

/-- A server that is started. -/
structure Listening where
  host : Text
  port : Int
  debug : Bool
deriving DecidableEq

/-- What a run has written so far, and what it keeps. -/
structure Console where
  output : Text
  notes : Text
  log : Log.Setup
  secrets : Secrets
  started : List Listening

namespace Console

/-- The log before anyone has chosen what is logged. -/
def firstLog : Log.Setup :=
  ⟨Log.Level.warning, .plain⟩

def start : Console :=
  ⟨[], [], firstLog, Secrets.start, []⟩

end Console

/-- What a run does not get over. -/
inductive Crash where
  | setup (fault : Log.SetupFault)
  | config (fault : Config.Fault)
  | address (fault : AddressFault)
  | token (fault : Utf8.EncodeFault)
  | source (fault : Utf8.DecodeFault)
  | zeroInPath
  /-- There is no backend to be shown. -/
  | noBackend

/-- The words for a crash. -/
def Crash.message : Crash → Text
  | .setup fault => fault.message
  | .config fault => fault.message
  | .address fault => fault.message
  | .token fault => fault.message
  | .source fault => fault.message
  | .zeroInPath => "embedded null byte"
  | .noBackend => "unsupported format string passed to NoneType.__format__"

/-- How a run ends before all is done. -/
inductive Ending where
  | exit (code : Nat)
  | crash (crash : Crash)

/-- A part of a run. -/
abbrev Running (α : Type) := ExceptT Ending (StateM Console) α

namespace Running

variable {α ε : Type}

def write (t : Text) : Running Unit :=
  modify fun c => { c with output := c.output ++ t }

def writeLine (t : Text) : Running Unit :=
  write (t ++ ("\n" : Text))

def note (t : Text) : Running Unit :=
  modify fun c => { c with notes := c.notes ++ t }

def noteLine (t : Text) : Running Unit :=
  note (t ++ ("\n" : Text))

def exit (code : Nat) : Running α :=
  throw (.exit code)

def crash (crash : Crash) : Running α :=
  throw (.crash crash)

/-- A result, or a crash of its fault. -/
def orCrash (ofFault : ε → Crash) : Except ε α → Running α
  | .ok a => pure a
  | .error fault => crash (ofFault fault)

/-- The run ends with a word on what is wrong. -/
def refuse (message : Text) (code : Nat) : Running α := do
  noteLine (("Error: " : Text) ++ message)
  exit code

/-- Events are written to the log. -/
def tell (w : Surroundings) (events : List Log.Event) : Running Unit := do
  (← get).log.lines false w.now events |>.forM noteLine

/-- A text from the source of secrets. -/
def draw (f : Secrets → Text × Secrets) : Running Text := do
  let c ← get
  let (t, secrets) := f c.secrets
  set { c with secrets }
  return t

/-- What is logged from now on. -/
def chooseLog (w : Surroundings) (level : Option Text) : Running Unit := do
  let (log, event) ← orCrash .setup (Log.Setup.choose level none w.environment)
  modify fun c => { c with log }
  tell w [event]

/-- The configuration of a file and the environment. -/
def loadConfig (w : Surroundings) (file : Option Text) : Running Config := do
  let loaded := Config.load w.disk w.environment file (← get).secrets
  modify fun c => { c with secrets := loaded.secrets }
  tell w loaded.events
  orCrash .config loaded.result

/-- Where the directories of assets lie. -/
def assetPlaces (w : Surroundings) (config : Config) : Running (List Place) :=
  orCrash .config (config.rootPlaces w.disk)

end Running

/-- What a whole run comes to. -/
structure Outcome where
  code : Nat
  output : Text
  notes : Text
  crash : Option Crash
  started : List Listening

/-- The outcome of a run. -/
def Running.outcome (run : Running Unit) : Outcome :=
  let (ending, c) := run.run.run Console.start
  let (code, crash) := match ending with
    | .ok () => (0, none)
    | .error (.exit code) => (code, none)
    | .error (.crash crash) => (1, some crash)
  ⟨code, c.output, c.notes, crash, c.started⟩

end VeiledGateway.Command
