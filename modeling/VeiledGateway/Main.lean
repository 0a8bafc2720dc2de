/-
  The command line.

  What a run finds is gathered first: the files below the working directory, the variables that
  matter, and the time.  A server is announced and not started: whoever embeds the gateway listens
  for it.
-/
import Std.Time.DateTime.Timestamp
import VeiledGateway.Command.Program

set_option autoImplicit false

namespace VeiledGateway.CommandLine

/-- The variables that matter. -/
def variableNames : List Text :=
  [Config.fileVariable, Log.Setup.levelVariable, Log.Setup.formVariable]
    ++ Setting.all.map Config.variableOf

def environment : IO (Entries Text) :=
  variableNames.filterMapM fun name => do
    return (← IO.getEnv name.toString).map fun value => (name, Text.ofString value)

/-- How many levels of directories are gathered. -/
def depthLimit : Nat := 32

/-- What lies below a place, so many levels deep; what cannot be read counts as not there. -/
def entriesBelow : Nat → Place → IO (List (Place × Entry))
  | 0, _ => return []
  | depth + 1, place => do
    try
      let found ← (← IO.FS.realPath (Text.toString (Disk.written place))).readDir
      let parts ← found.toList.mapM fun file => do
        let inner := place ++ [Text.ofString file.fileName]
        try
          match (← file.path.symlinkMetadata).type with
          | .dir => return (inner, Entry.directory) :: (← entriesBelow depth inner)
          | .file => return [(inner, .file (← IO.FS.readBinFile file.path).toList)]
          | .symlink =>
            return [(inner, .link (Text.ofString (← IO.FS.realPath file.path).toString))]
          | .other => return []
        catch _ => return []
      return parts.flatten
    catch _ => return []

/-- The disk as it is seen from the working directory. -/
def disk : IO Disk := do
  let home := Disk.pathNames (Text.ofString (← IO.currentDir).toString)
  return ⟨← entriesBelow depthLimit home, home⟩

/-- The day on which the counting of seconds begins. -/
def firstDay : Date := ⟨1970, 1, 1⟩

def now : IO Moment := do
  let nanos := (← Std.Time.Timestamp.now).toNanosecondsSinceUnixEpoch.toInt.toNat
  return Moment.ofInstant (firstDay.dayNumber * 86400 * 1000000 + nanos / 1000)

/-- The greatest seed that is taken. -/
def greatestSeed : Nat := 0x3FFFFFFFFFFFFFFF

def surroundings : IO Command.Surroundings := do
  return {
    disk := ← disk
    environment := ← environment
    now := ← now
    seed := ← IO.rand 0 greatestSeed }

end VeiledGateway.CommandLine

/-- Runs the program on a command line and tells how it ended. -/
def main (words : List String) : IO UInt32 := do
  let found ← VeiledGateway.CommandLine.surroundings
  let outcome :=
    (VeiledGateway.Command.Program.run found (words.map VeiledGateway.Text.ofString)).outcome
  IO.print (VeiledGateway.Text.toString outcome.output)
  IO.eprint (VeiledGateway.Text.toString outcome.notes)
  if let some crash := outcome.crash then
    IO.eprintln (VeiledGateway.Text.toString crash.message)
  return UInt32.ofNat outcome.code
