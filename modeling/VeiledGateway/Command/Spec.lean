/-
  What a command takes from its command line.

  A part of a command line is a slot, which is known by its place, or a switch, which is known by
  its name.  What is told of a command is its usage on one line, and all its parts; and of a command
  line that cannot be used it is told why.
-/
import VeiledGateway.Text.Quoted
import VeiledGateway.Text.Search

set_option autoImplicit false

namespace VeiledGateway.Command

/-- What a value must be. -/
inductive ValueKind where
  | text
  | whole
  /-- The path of a file that is there. -/
  | file
  | oneOf (names : List Text)
deriving DecidableEq

/-- The word for a kind of values. -/
def ValueKind.name : ValueKind → Text
  | .text => "TEXT"
  | .whole => "INTEGER"
  | .file => "FILE"
  | .oneOf names => ("[" : Text) ++ Text.join "|" names ++ ("]" : Text)

structure Slot where
  name : Text
  kind : ValueKind
deriving DecidableEq

/-- How a slot is shown: by its name, or by all that may stand in it. -/
def Slot.shown (slot : Slot) : Text :=
  match slot.kind with
  | .oneOf names => ("\x7b" : Text) ++ Text.join "|" names ++ ("\x7d" : Text)
  | _ => slot.name

structure Switch where
  /-- The name with its dashes. -/
  name : Text
  /-- The kind of its value, if it has one. -/
  kind : Option ValueKind
  needed : Bool
  /-- What it is for. -/
  purpose : Text
deriving DecidableEq

namespace Switch

/-- A switch with a value that may be left out. -/
def valued (name : Text) (kind : ValueKind) (purpose : Text) : Switch :=
  ⟨name, some kind, false, purpose⟩

/-- A switch that is there or not. -/
def plain (name purpose : Text) : Switch :=
  ⟨name, none, false, purpose⟩

/-- The switch that asks for help, which all commands have. -/
def help : Switch :=
  plain "--help" "Show this message and exit."

end Switch

/-- The form of a command. -/
structure Form where
  name : Text
  /-- What the command does. -/
  summary : Text
  slots : List Slot
  /-- The switches other than the one for help. -/
  switches : List Switch
  /-- Switches may come after slots. -/
  mixed : Bool
deriving DecidableEq

namespace Form

def allSwitches (form : Form) : List Switch :=
  form.switches ++ [Switch.help]

def switch? (form : Form) (name : Text) : Option Switch :=
  form.allSwitches.find? fun s => s.name == name

end Form

/-! ## Help -/

/-- Rows of two columns.  The second column begins two blanks after the widest word of the first. -/
def columns (rows : List (Text × Text)) : Text :=
  let width := rows.foldl (fun w r => max w r.1.length) 0
  rows.flatMap fun r =>
    ("  " : Text) ++ Text.padRight r.1 (width + 2) ' ' ++ r.2 ++ ("\n" : Text)

/-- A switch and what it is for. -/
def Switch.row (switch : Switch) : Text × Text :=
  let head := match switch.kind with
    | some kind => switch.name ++ (" " : Text) ++ kind.name
    | none => switch.name
  (head, if switch.needed then switch.purpose ++ ("  [required]" : Text) else switch.purpose)

namespace Form

/-- How a command is used that is known as `path`; `more` is what comes after its own parts. -/
def usage (form : Form) (path : Text) (more : List Text) : Text :=
  ("Usage: " : Text) ++ Text.join " " (path :: "[OPTIONS]" :: form.slots.map Slot.shown ++ more)
    ++ ("\n" : Text)

/-- What a command does, and its switches. -/
def help (form : Form) (path : Text) (more : List Text) : Text :=
  form.usage path more ++ ("\n  " : Text) ++ form.summary ++ ("\n\nOptions:\n" : Text)
    ++ columns (form.allSwitches.map Switch.row)

/-- Where help is to be found. -/
def helpHint (path : Text) : Text :=
  ("Try '" : Text) ++ path ++ (" --help' for help.\n\n" : Text)

end Form

/-- The word for the command and its parts, which come after the parts that belong to all commands.
-/
def commandWords : List Text :=
  ["COMMAND", "[ARGS]..."]

/-- What commands do, and the switches that belong to all of them, whose form is given. -/
def groupHelp (form : Form) (commands : List Form) : Text :=
  let rows := (commands.map fun c => (c.name, c.summary)).mergeSort fun a b => Text.le a.1 b.1
  form.help form.name commandWords ++ ("\nCommands:\n" : Text) ++ columns rows

/-! ## Faults -/

/-- Why a command line cannot be used. -/
inductive UsageFault where
  /-- No switch has the name; these names are like it. -/
  | noSwitch (name : Text) (near : List Text)
  | valueMissing (name : Text)
  | valueUnwanted (name : Text)
  | slotMissing (slot : Slot)
  | switchMissing (name : Text)
  /-- A value for the part with this name is no whole number. -/
  | noWhole (part value : Text)
  | noneOf (part value : Text) (names : List Text)
  | noFile (part path : Text)
  | folder (part path : Text)
  /-- A path holds the code point zero. -/
  | zeroInPath
  | leftOver (values : List Text)
  | noCommand (name : Text) (near : List Text)
  | commandMissing
deriving DecidableEq

namespace UsageFault

/-- A value that does not fit. -/
def badValue (part detail : Text) : Text :=
  ("Invalid value for '" : Text) ++ part ++ ("': " : Text) ++ detail

/-- What may have been meant, after a blank. -/
def hint (several : Text) (near : List Text) : Text :=
  match near with
  | [] => []
  | [name] => (" Did you mean " : Text) ++ name ++ ("?" : Text)
  | names => (" (" : Text) ++ several ++ (": " : Text) ++ Text.join ", " names ++ (")" : Text)

/-- What is missing in a slot. -/
def missingHint (kind : ValueKind) : Text :=
  match kind with
  | .oneOf names => (" Choose from:\n\t" : Text) ++ Text.join ",\n\t" names
  | _ => []

def message : UsageFault → Text
  | .noSwitch name near =>
    ("No such option: " : Text) ++ name ++ hint "Possible options" near
  | .valueMissing name => ("Option '" : Text) ++ name ++ ("' requires an argument." : Text)
  | .valueUnwanted name => ("Option '" : Text) ++ name ++ ("' does not take a value." : Text)
  | .slotMissing slot =>
    ("Missing argument '" : Text) ++ slot.shown ++ ("'." : Text) ++ missingHint slot.kind
  | .switchMissing name => ("Missing option '" : Text) ++ name ++ ("'." : Text)
  | .noWhole part value =>
    badValue part (Text.quoted value ++ (" is not a valid integer." : Text))
  | .noneOf part value names =>
    badValue part (Text.quoted value ++ (" is not one of " : Text)
      ++ Text.join ", " (names.map Text.quoted) ++ ("." : Text))
  | .noFile part path =>
    badValue part (("File " : Text) ++ Text.quoted path ++ (" does not exist." : Text))
  | .folder part path =>
    badValue part (("File " : Text) ++ Text.quoted path ++ (" is a directory." : Text))
  | .zeroInPath => "embedded null byte"
  | .leftOver values =>
    (match values with
      | [_] => ("Got unexpected extra argument (" : Text)
      | _ => "Got unexpected extra arguments (") ++ Text.join " " values ++ (")" : Text)
  | .noCommand name near =>
    ("No such command " : Text) ++ Text.quoted name ++ ("." : Text)
      ++ hint "Possible commands" (near.map Text.quoted)
  | .commandMissing => "Missing command."

/-- The usage is told with the fault. -/
def tellsUsage : UsageFault → Bool
  | .valueMissing _ | .valueUnwanted _ => false
  | _ => true

end UsageFault

end VeiledGateway.Command
