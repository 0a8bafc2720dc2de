/-
  Events of the log and the lines that they are written as.

  An event has two lines: `plain` for people and `structured`, a JSON object, for programs.
-/
import VeiledGateway.Datum.Basic
import VeiledGateway.Json.Printer
import VeiledGateway.Text.Entries

set_option autoImplicit false

namespace VeiledGateway.Log

/-- How much an event matters. -/
abbrev Level := Int

namespace Level

def debug : Level := 10

def info : Level := 20

def warning : Level := 30

def error : Level := 40

def name (level : Level) : Text :=
  if level = 0 then "NOTSET"
  else if level = debug then "DEBUG"
  else if level = info then "INFO"
  else if level = warning then "WARNING"
  else if level = error then "ERROR"
  else if level = 50 then "CRITICAL"
  else ("Level " : Text) ++ Text.ofInt level

/-- The escape that begins the colour of a level on a terminal. -/
def colour (level : Level) : Text :=
  if level = debug then "\x1b[36m"
  else if level = info then "\x1b[32m"
  else if level = warning then "\x1b[33m"
  else if level = error then "\x1b[31m"
  else if level = 50 then "\x1b[35m"
  else []

/-- The escape that ends a colour. -/
def plainColour : Text := "\x1b[0m"

end Level

structure Event where
  /-- The part of the program that tells of the event, a path with points between its names. -/
  source : Text
  level : Level
  message : Text
  /-- What else is known. -/
  extra : Entries Json
  /-- The failure that is told of. -/
  failure : Option Text

namespace Event

/-- An event of which nothing else is known. -/
def of (source : Text) (level : Level) (message : Text) : Event :=
  ⟨source, level, message, [], none⟩

/-- The extra fields that lines can show, in their order. -/
def fieldNames : List Text :=
  List.map Text.ofString ["session_id", "path", "status", "duration_ms"]

/-- A moment of universal time, as programs read it. -/
def stamp (m : Moment) : Text :=
  m.date.text ++ ("T" : Text) ++ m.text.drop (m.date.text.length + 1)

/-- The time of the day in seconds. -/
def clock (m : Moment) : Text :=
  Date.padded m.hour 2 ++ (":" : Text) ++ Date.padded m.minute 2 ++ (":" : Text)
    ++ Date.padded m.second 2

/-- The line of an event for programs. -/
def structured (now : Moment) (e : Event) : Text :=
  let fixed : List (Text × Json) :=
    [("ts", .text (stamp now)), ("level", .text (Level.name e.level)), ("logger", .text e.source),
      ("message", .text e.message)]
  let known := fieldNames.filterMap fun name =>
    (Entries.get? e.extra name).map fun value => (name, value)
  let failure : List (Text × Json) := match e.failure with
    | some t => [("exception", .text t)]
    | none => []
  (Json.object (fixed ++ known ++ failure)).toSpacedAscii

/-- How much of the name of a source a line has place for. -/
def sourceWidth : Nat := 15

/-- The last name of a source. -/
def lastName (source : Text) : Text :=
  ((Text.fields '.' source).getLast?.getD []).take sourceWidth

/-- The beginning of the name of a session, which is a secret as a whole. -/
def sessionMark (e : Event) : Text :=
  match Entries.get? e.extra "session_id" with
  | none => []
  | some name =>
    if name.isTruthy then
      (" (sid=" : Text) ++ (Datum.ofJson name).shown.take 8 ++ (")" : Text)
    else []

/-- The line of an event for people. -/
def plain (terminal : Bool) (now : Moment) (e : Event) : Text :=
  let level := Text.padRight (Level.name e.level) 7 ' '
  let level := if terminal then Level.colour e.level ++ level ++ Level.plainColour else level
  let source := Text.padRight (lastName e.source) sourceWidth ' '
  clock now ++ (" " : Text) ++ level ++ (" [" : Text) ++ source ++ ("] " : Text) ++ e.message
    ++ sessionMark e
    ++ (match e.failure with
      | some t => ("\n" : Text) ++ t
      | none => [])

end Event

end VeiledGateway.Log
