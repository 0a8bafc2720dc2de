/-
  Commands that show at the desk what sessions are sent: the token of one name, and a document
  rewritten.
-/
import VeiledGateway.Asset.MediaType
import VeiledGateway.Command.Reading
import VeiledGateway.Command.Running
import VeiledGateway.Json.Printer
import VeiledGateway.Pipeline
import VeiledGateway.Session.Codec

set_option autoImplicit false

namespace VeiledGateway.Command

open Running

namespace TokenCommand

def keySwitch : Switch :=
  ⟨"--key", some .text, true, "Session key"⟩

def categories : List Text :=
  [Category.identifier, .className, .elementId, .textChunk, .link].map Category.name

def categorySlot : Slot := ⟨"CATEGORY", .oneOf categories⟩

def originalSlot : Slot := ⟨"ORIGINAL", .text⟩

def form : Form :=
  { name := "token", summary := "Print the token ORIGINAL maps to under a session key."
    slots := [categorySlot, originalSlot], switches := [keySwitch], mixed := true }

def run (given : Given) : Running Unit := do
  let part (name : Text) : Text := (given.text? name).getD []
  let tok := Token.ofParts (part categorySlot.name) (part originalSlot.name) (part keySwitch.name)
  writeLine (← orCrash .token tok)

end TokenCommand

namespace TransformCommand

def fileSlot : Slot := ⟨"FILE", .file⟩

def keySwitch : Switch := .valued "--key" .text "Session key (default: random)"

def typeSwitch : Switch := .valued "--content-type" .text "Override the guessed content type"

def baseSwitch : Switch := .valued "--base-path" .text "URL path the document is served at"

def seedSwitch : Switch := .valued "--seed" .whole "Seed for chunk layouts"

def tablesSwitch : Switch := .plain "--mappings" "Print the mappings to stderr"

def form : Form :=
  { name := "transform", summary := "Transform FILE as the gateway would for one session."
    slots := [fileSlot]
    switches := [keySwitch, typeSwitch, baseSwitch, seedSwitch, tablesSwitch], mixed := true }

/-- The name of the file that a path leads to. -/
def nameOf (path : Text) : Text :=
  (Disk.pathNames path).getLast?.getD []

/-- A text that was given and is not empty, or another one. -/
def orElse (t : Option Text) (other : Text) : Text :=
  match t with
  | some t => if t.isEmpty then other else t
  | none => other

/-- The media type that was given, or that of the name of the file. -/
def mediaType (given : Given) (name : Text) : Option Text :=
  match given.text? typeSwitch.name with
  | some t => if t.isEmpty then MediaType.ofName? name else some t
  | none => MediaType.ofName? name

/-- The text of a file with line feeds at all ends of lines. -/
def readText (disk : Disk) (path : Text) : Running Text := do
  let bytes ← orCrash (fun fault => .config (.disk fault)) (disk.read? (disk.placeOf path))
  let t ← orCrash .source (Utf8.decode (bytes.getD []))
  return Text.replace "\r" "\n" (Text.replace "\r\n" "\n" t)

/-- The key of the session: the one given, or a new one. -/
def sessionKey (given : Given) : Running Text :=
  match given.text? keySwitch.name with
  | some t => if t.isEmpty then draw (Secrets.hex · Record.keyBytes) else return t
  | none => draw (Secrets.hex · Record.keyBytes)

/-- The event of what was noted of a document. -/
def eventOf : Note → Log.Event
  | .script names edits =>
    .of "cloakgate.obfuscation.script" Log.Level.debug
      (("Script rewrite: " : Text) ++ Text.ofNat names ++ (" local names, " : Text)
        ++ Text.ofNat edits ++ (" edits" : Text))
  | .missingAsset reference =>
    .of "cloakgate.assets.resolver" Log.Level.debug
      (("Asset not found in any root: " : Text) ++ reference)

/-- The events of a failure: one that is not of the source is told to the log. -/
def failureEvents (base : Text) : Fault → List Log.Event
  | .failed mediaType _ =>
    [.of "cloakgate.obfuscation.pipeline" Log.Level.error
      (("Unexpected failure transforming " : Text) ++ mediaType ++ (" at " : Text) ++ base)]
  | _ => []

/-- The tables of a session, empty ones too. -/
def tablesText (m : Mappings) : Text :=
  Json.render true (.indented 2) 0
    (.object ((Record.tables m).map fun table =>
      (Text.ofString table.1, .object (table.2.map fun e => (e.1, .text e.2)))))

/-- The file is rewritten as for a session. -/
def run (w : Surroundings) (config : Config) (given : Given) : Running Unit := do
  let path := (given.text? fileSlot.name).getD []
  let name := nameOf path
  let mediaType := mediaType given name
  let assets : Assets := ⟨w.disk, ← assetPlaces w config⟩
  if !Pipeline.handles mediaType then
    refuse (("Not a transformable content type: " : Text) ++ shownOption mediaType) 1
  let key ← sessionKey given
  let seed := (given.whole? seedSwitch.name).getD w.seed
  let context := Context.ofMappings key Mappings.empty (Twister.ofSeed seed)
  let source ← readText w.disk path
  let base := orElse (given.text? baseSwitch.name) (("/" : Text) ++ name)
  let view : View := ⟨config.settings, some assets, base⟩
  let (result, context, notes) := Pipeline.run view mediaType source context
  tell w (notes.map eventOf)
  match result with
  | .error fault =>
    tell w (failureEvents base fault)
    refuse fault.message 1
  | .ok output =>
    write output
    if given.has tablesSwitch.name then noteLine (tablesText context.mappings)
    if (given.text? keySwitch.name).isNone then noteLine (("session key: " : Text) ++ key)

end TransformCommand

end VeiledGateway.Command
