/-
  The program with its commands.

  The parts before the name of a command belong to all commands: they tell what is logged and where
  the configuration comes from.  Both are settled before the parts of the command are read.
-/
import VeiledGateway.Command.Spec
import VeiledGateway.Command.Inspection
import VeiledGateway.Command.Serving
import VeiledGateway.Command.Tool

set_option autoImplicit false

namespace VeiledGateway.Command

open Running

namespace Program

def configSwitch : Switch :=
  .valued "--config" .file "YAML config file (default: $CLOAKGATE_CONFIG_FILE)"

def levelSwitch : Switch :=
  .valued "--log-level" .text "DEBUG, INFO, WARNING, ERROR"

/-- The parts that belong to all commands. -/
def form : Form :=
  { name := "cli"
    summary := "CloakGate — proof-of-work gate and per-session content obfuscation."
    slots := [], switches := [configSwitch, levelSwitch], mixed := false }

/-- What the program can be asked to do. -/
inductive Task where
  | serve
  | token
  | transform
  | checkConfig
  | showConfig
deriving DecidableEq

namespace Task

def all : List Task :=
  [serve, token, transform, checkConfig, showConfig]

def form : Task → Form
  | serve => ServeCommand.form
  | token => TokenCommand.form
  | transform => TransformCommand.form
  | checkConfig => CheckConfig.form
  | showConfig => ShowConfig.form

def name (task : Task) : Text :=
  task.form.name

def ofName? (t : Text) : Option Task :=
  all.find? fun task => task.name == t

/-- The task is done with what its command line gives. -/
def perform (w : Surroundings) (config : Config) (given : Given) : Task → Running Unit
  | serve => ServeCommand.run w config given
  | token => TokenCommand.run given
  | transform => TransformCommand.run w config given
  | checkConfig => CheckConfig.run w config
  | showConfig => ShowConfig.run config given

end Task

/-- How the program is used. -/
def usage : Text :=
  form.usage form.name commandWords

def help : Text :=
  groupHelp form (Task.all.map Task.form)

/-- The code of a run whose command line cannot be used. -/
def misuse : Nat := 2

/-- The run ends because its command line cannot be used. -/
def reject {α : Type} (usage path : Text) : UsageFault → Running α
  | .zeroInPath => crash .zeroInPath
  | fault => do
    if fault.tellsUsage then note (usage ++ Form.helpHint path)
    refuse fault.message misuse

/-- What the parts of a form come to; help ends the run. -/
def readParts (w : Surroundings) (form : Form) (usage help path : Text) (line : List Text) :
    Running (Given × List Text) := do
  match form.read w.disk line with
  | .error fault => reject usage path fault
  | .ok .help =>
    write help
    exit 0
  | .ok (.given given rest) => return (given, rest)

/-- The parts that belong to all commands, and the words after them. -/
def readShared (w : Surroundings) (line : List Text) : Running (Given × List Text) :=
  readParts w form usage help form.name line

/-- The task of a name, and the words after it.  A name that begins like a switch is taken for one
first. -/
def chooseTask (w : Surroundings) (line : List Text) : Running (Task × List Text) :=
  match line with
  | [] => reject usage form.name .commandMissing
  | name :: rest =>
    match Task.ofName? name with
    | some task => pure (task, rest)
    | none => do
      if isSwitch name then
        let _ ← readShared w line
      reject usage form.name (.noCommand name (Text.similarTo name (Task.all.map Task.name)))

/-- The parts of a command. -/
def readCommand (w : Surroundings) (command : Form) (line : List Text) : Running Given := do
  let path := form.name ++ (" " : Text) ++ command.name
  let usage := command.usage path []
  let (given, rest) ← readParts w command usage (command.help path []) path line
  if !rest.isEmpty then reject usage path (.leftOver rest)
  return given

/-- A run of the program. -/
def run (w : Surroundings) (line : List Text) : Running Unit := do
  if line.isEmpty then
    note help
    exit misuse
  let (shared, rest) ← readShared w line
  let (task, words) ← chooseTask w rest
  chooseLog w (shared.text? levelSwitch.name)
  let config ← loadConfig w (shared.text? configSwitch.name)
  let given ← readCommand w task.form words
  task.perform w config given

end Program

end VeiledGateway.Command
