/-
  Where a configuration comes from: a file, and the environment, which comes after it.

  Loading tells its events to the log.  Where no secret is set, one is drawn.
-/
import VeiledGateway.Config.Basic
import VeiledGateway.Log.Event
import VeiledGateway.Secrets
import VeiledGateway.Yaml.Document

set_option autoImplicit false

namespace VeiledGateway.Config

open Log (Event)

/-- The part of the program that tells of loading. -/
def source : Text := "cloakgate.config.loader"

/-- Values for settings, by their names or by names that are none of a setting. -/
abbrev Given := List (Datum × Datum)

/-- The configuration with values taken over, and the events of that.  A name of no setting is
passed over. -/
def apply (config : Config) : Given → Except Fault Config × List Event
  | [] => (.ok config, [])
  | (key, value) :: rest =>
    let setting := match key with
      | .text t => Setting.ofName? t
      | _ => none
    match setting with
    | none =>
      let (result, events) := apply config rest
      let message := ("Ignoring unknown config key: " : Text) ++ key.shown
      (result, .of source Log.Level.warning message :: events)
    | some setting =>
      match config.set setting value with
      | .error fault => (.error fault, [])
      | .ok config => apply config rest

/-! ## The file -/

/-- The text of a file of settings. -/
def readFile (disk : Disk) (path : Text) : Except Fault Text :=
  if path.any fun c => c.val == 0 then .error .zeroInPath
  else
    match disk.look (disk.placeOf path) with
    | .found (.file bytes) => (Utf8.decode bytes).mapError .undecodable
    | .found _ => .error (.folder path)
    | .nothing => .error (.missingFile path)
    | .noFolder => .error (.noFolder path)
    | .endless => .error (.endless path)
    | .tooLong => .error (.longName path)

/-- The values in a text of settings; a text that gives nothing has none. -/
def givenOf (path t : Text) : Except Fault Given := do
  match ← (Yaml.read t).mapError Fault.yaml with
  | .table entries => return entries
  | d => if d.isTruthy then throw (.noTable path) else return []

def readGiven (disk : Disk) (path : Text) : Except Fault Given := do
  givenOf path (← readFile disk path)

/-! ## The environment -/

/-- The variable that names the file. -/
def fileVariable : Text := "CLOAKGATE_CONFIG_FILE"

/-- How the variables begin that hold settings. -/
def variableLead : Text := "CLOAKGATE_"

/-- The variable that holds a setting. -/
def variableOf (s : Setting) : Text :=
  variableLead ++ s.name.map CodePoint.asciiUpper

/-- The settings in the environment; an empty variable sets nothing. -/
def environmentGiven (environment : Entries Text) : Given :=
  Setting.all.filterMap fun s =>
    match Entries.get? environment (variableOf s) with
    | some t => if t.isEmpty then none else some (.text s.name, .text t)
    | none => none

/-! ## Loading -/

/-- How many bytes of a drawn secret there are. -/
def secretBytes : Nat := 32

/-- A configuration with a secret. -/
def withSecret (config : Config) (secrets : Secrets) : Config × Secrets × List Event :=
  if (config.secretKey.getD []).isEmpty then
    let (key, secrets) := secrets.hex secretBytes
    ({ config with secretKey := some key }, secrets,
      [.of source Log.Level.warning "No secret key configured, generating an ephemeral one"])
  else (config, secrets, [])

/-- The path of the file, as it is told and as it is opened. -/
def chosenFile (file : Option Text) (environment : Entries Text) : Option (Text × Text) :=
  match file with
  | some path => some (tidyPath path, tidyPath path)
  | none =>
    match Entries.get? environment fileVariable with
    | some path => if path.isEmpty then none else some (path, tidyPath path)
    | none => none

/-- The settings of the file, taken over. -/
def fromFile (disk : Disk) (config : Config) (file : Option (Text × Text)) :
    Except Fault Config × List Event :=
  match file with
  | none => (.ok config, [])
  | some (told, path) =>
    match readGiven disk path with
    | .error fault => (.error fault, [])
    | .ok given =>
      match config.apply given with
      | (.error fault, events) => (.error fault, events)
      | (.ok config, events) =>
        (.ok config,
          events ++ [.of source Log.Level.info (("Loaded configuration from " : Text) ++ told)])

/-- What loading comes to: a configuration or a fault, and the events up to there. -/
structure Loaded where
  result : Except Fault Config
  events : List Event
  secrets : Secrets

/-- The configuration of a file and the environment. -/
def load (disk : Disk) (environment : Entries Text) (file : Option Text) (secrets : Secrets) :
    Loaded :=
  match fromFile disk Config.default (chosenFile file environment) with
  | (.error fault, events) => ⟨.error fault, events, secrets⟩
  | (.ok config, events) =>
    match config.apply (environmentGiven environment) with
    | (.error fault, more) => ⟨.error fault, events ++ more, secrets⟩
    | (.ok config, more) =>
      let (config, secrets, last) := config.withSecret secrets
      ⟨.ok config, events ++ more ++ last, secrets⟩

/-- The configuration of the process: loaded when it is asked for the first time, and kept. -/
def shared (disk : Disk) (environment : Entries Text) (held : Option Config) (secrets : Secrets) :
    Except Fault Config × Option Config × Secrets :=
  match held with
  | some config => (.ok config, held, secrets)
  | none =>
    let loaded := load disk environment none secrets
    (loaded.result, loaded.result.toOption, loaded.secrets)

end VeiledGateway.Config
