/-
  What is logged, and in which form.

  Both are named by a choice of the caller, or else by the environment, or else by a default.  An
  unknown name means the default.
-/
import VeiledGateway.Log.Event
import VeiledGateway.Unicode.Case

set_option autoImplicit false

namespace VeiledGateway.Log

inductive Form where
  | plain
  | structured
deriving DecidableEq

structure Setup where
  /-- Events below this level are passed over. -/
  level : Level
  form : Form
deriving DecidableEq

/-- Why a setup is refused. -/
inductive SetupFault where
  /-- The name of a level stands for a text that is none. -/
  | noLevel (t : Text)
  /-- The name of a level stands for the table of styles. -/
  | styles
deriving DecidableEq

/-- The words for a fault. -/
def SetupFault.message : SetupFault → Text
  | .noLevel t => ("Unknown level: " : Text) ++ Text.quoted t
  | .styles =>
    ("Level not an integer or a valid string: \x7b'%': (<class 'logging.PercentStyle'>, " : Text)
      ++ ("'%(levelname)s:%(name)s:%(message)s'), '\x7b': (<class 'logging.StrFormatStyle'>, " : Text)
      ++ ("'\x7blevelname\x7d:\x7bname\x7d:\x7bmessage\x7d'), " : Text)
      ++ ("'$': (<class 'logging.StringTemplateStyle'>, " : Text)
      ++ ("'$\x7blevelname\x7d:$\x7bname\x7d:$\x7bmessage\x7d')\x7d" : Text)

namespace Setup

/-- The level of a name in upper case. -/
def levelOf (name : Text) : Except SetupFault Level :=
  match Text.toString name with
  | "DEBUG" => .ok 10
  | "INFO" => .ok 20
  | "WARNING" | "WARN" => .ok 30
  | "ERROR" => .ok 40
  | "CRITICAL" | "FATAL" => .ok 50
  | "NOTSET" => .ok 0
  | "BASIC_FORMAT" => .error (.noLevel "%(levelname)s:%(name)s:%(message)s")
  | "_STYLES" => .error .styles
  | _ => .ok 20

/-- The choice, or what the environment says, or the default. -/
def choice (chosen : Option Text) (environment : Entries Text) (name dflt : Text) : Text :=
  match chosen.filter fun t => !t.isEmpty with
  | some t => t
  | none => (Entries.get? environment name).getD dflt

/-- The part of the program that tells of the setup. -/
def source : Text := "cloakgate.logging_config"

/-- The variables that name the level and the form. -/
def levelVariable : Text := "LOG_LEVEL"

def formVariable : Text := "LOG_FORMAT"

/-- The setup of choices, and the event that tells of it. -/
def choose (level form : Option Text) (environment : Entries Text) :
    Except SetupFault (Setup × Event) := do
  let levelName := Text.upper (choice level environment levelVariable "INFO")
  let formName := Text.lower (choice form environment formVariable "text")
  let level ← levelOf levelName
  let form := if formName.eqString "json" then Form.structured else .plain
  let message := ("Logging configured: level=" : Text) ++ levelName ++ (", format=" : Text)
    ++ formName
  return (⟨level, form⟩, .of source Level.debug message)

/-- The name of the source that all others belong to. -/
def rootSource : Text := "root"

/-- The source whose events matter only from a warning on. -/
def quietSource : Text := "werkzeug"

/-- A source is another one or belongs to it. -/
def belongsTo (source group : Text) : Bool :=
  source == group || Text.startsWith source (group ++ ("." : Text))

/-- An event that is written. -/
def admits (setup : Setup) (e : Event) : Bool :=
  let least := if belongsTo e.source quietSource then Level.warning else setup.level
  0 < e.level && least ≤ e.level && setup.level ≤ e.level

/-- The line of an event. -/
def line (setup : Setup) (terminal : Bool) (now : Moment) (e : Event) : Text :=
  match setup.form with
  | .plain => e.plain terminal now
  | .structured => e.structured now

/-- The lines of the events that are written. -/
def lines (setup : Setup) (terminal : Bool) (now : Moment) (events : List Event) : List Text :=
  (events.filter setup.admits).map (setup.line terminal now)

end Setup

end VeiledGateway.Log
