/-
  Reading a command line by the form of its command.

  First the words are told apart into switches with their values and other words; then the values
  are looked at, those of switches in the order in which they came, and after them those of slots.
-/
import VeiledGateway.Asset.Disk
import VeiledGateway.Command.Spec
import VeiledGateway.Number.Integer
import VeiledGateway.Text.Entries
import VeiledGateway.Text.Similarity

set_option autoImplicit false

namespace VeiledGateway.Command

/-- A switch on a command line. -/
structure Sighting where
  switch : Switch
  /-- The word after it, or in it, if it takes one. -/
  value : Option Text

/-- The words of a command line, told apart. -/
structure Words where
  sightings : List Sighting
  /-- The words that belong to no switch. -/
  others : List Text

/-- A word that begins like a switch. -/
def isSwitch (word : Text) : Bool :=
  match word with
  | c :: _ :: _ => c == '-'
  | _ => false

/-- The word after which no switches come. -/
def terminator : Text := "--"

namespace Form

/-- The switch that a word names, and the value in the word. -/
def switchIn (form : Form) (word : Text) : Except UsageFault (Switch × Option Text) :=
  let (name, value) := Text.cutAtCode '=' word
  match form.switch? name with
  | some switch => .ok (switch, value)
  | none =>
    if Text.startsWith word terminator then
      .error (.noSwitch name (Text.similarTo name (form.allSwitches.map Switch.name)))
    else .error (.noSwitch (word.take 2) [])

/-- The words of a command line, told apart. -/
def tellApart (form : Form) : List Text → Except UsageFault Words
  | [] => .ok ⟨[], []⟩
  | word :: rest =>
    if word == terminator then .ok ⟨[], rest⟩
    else if isSwitch word then
      match form.switchIn word with
      | .error fault => .error fault
      | .ok (switch, value) =>
        match switch.kind, value with
        | none, some _ => .error (.valueUnwanted switch.name)
        | none, none => do
          let words ← tellApart form rest
          return { words with sightings := ⟨switch, none⟩ :: words.sightings }
        | some _, some value => do
          let words ← tellApart form rest
          return { words with sightings := ⟨switch, some value⟩ :: words.sightings }
        | some _, none =>
          match rest with
          | [] => .error (.valueMissing switch.name)
          | value :: rest => do
            let words ← tellApart form rest
            return { words with sightings := ⟨switch, some value⟩ :: words.sightings }
    else if form.mixed then do
      let words ← tellApart form rest
      return { words with others := word :: words.others }
    else .ok ⟨[], word :: rest⟩

end Form

/-! ## Values -/

/-- A value that fits its part. -/
inductive Value where
  | text (t : Text)
  | whole (i : Int)
deriving DecidableEq

/-- A path that can only lead to a directory. -/
def endsInFolder (path : Text) : Bool :=
  Text.endsWith path "/" || Text.endsWith path "/."

/-- The path of a file that is there. -/
def checkFile (disk : Disk) (part path : Text) : Except UsageFault Value :=
  if path.any fun c => c.val == 0 then .error .zeroInPath
  else if path.isEmpty then .error (.noFile part path)
  else
    match disk.look (disk.placeOf path) with
    | .found .directory => .error (.folder part path)
    | .found _ =>
      if endsInFolder path then .error (.noFile part path) else .ok (.text path)
    | _ => .error (.noFile part path)

/-- The value in a word for a part. -/
def ValueKind.read (disk : Disk) (part word : Text) : ValueKind → Except UsageFault Value
  | .text => .ok (.text word)
  | .whole =>
    match Text.readInt word with
    | .ok i => .ok (.whole i)
    | .error _ => .error (.noWhole part word)
  | .file => checkFile disk part word
  | .oneOf names => if names.contains word then .ok (.text word) else .error (.noneOf part word names)

/-- What a command line gives: values by the names of their parts. -/
structure Given where
  values : Entries Value
  /-- The switches without a value that are there. -/
  marks : List Text

namespace Given

def text? (given : Given) (name : Text) : Option Text :=
  match Entries.get? given.values name with
  | some (.text t) => some t
  | _ => none

def whole? (given : Given) (name : Text) : Option Int :=
  match Entries.get? given.values name with
  | some (.whole i) => some i
  | _ => none

def has (given : Given) (name : Text) : Bool :=
  given.marks.contains name

end Given

/-- What comes of a command line. -/
inductive Reading where
  | help
  /-- The parts, and the words that are left over. -/
  | given (given : Given) (rest : List Text)

namespace Words

def has (words : Words) (switch : Switch) : Bool :=
  words.sightings.any fun s => s.switch == switch

/-- The value of a switch, which is the last one that it was given. -/
def value? (words : Words) (switch : Switch) : Option Text :=
  (words.sightings.reverse.find? fun s => s.switch == switch).bind Sighting.value

/-- The switches in the order in which each came first. -/
def seen (words : Words) : List Switch :=
  (words.sightings.map Sighting.switch).eraseDups

end Words

namespace Form

/-- The values of switches. -/
def switchValues (disk : Disk) (words : Words) (switches : List Switch) :
    Except UsageFault (Entries Value) :=
  switches.foldlM (fun values switch =>
    match switch.kind, words.value? switch with
    | some kind, some word => do return values ++ [(switch.name, ← kind.read disk switch.name word)]
    | _, _ => .ok values) []

/-- The values of slots. -/
def slotValues (disk : Disk) : List Slot → List Text → Except UsageFault (Entries Value)
  | [], _ => .ok []
  | slot :: _, [] => .error (.slotMissing slot)
  | slot :: slots, word :: words => do
    let value ← slot.kind.read disk slot.shown word
    return (slot.name, value) :: (← slotValues disk slots words)

/-- The first switch that is needed and not there. -/
def missing? (form : Form) (words : Words) : Option Switch :=
  form.switches.find? fun s => s.needed && !words.has s

/-- The parts of a command line. -/
def read (form : Form) (disk : Disk) (line : List Text) : Except UsageFault Reading := do
  let words ← form.tellApart line
  if words.has Switch.help then return .help
  let switches ← switchValues disk words words.seen
  let slots ← slotValues disk form.slots words.others
  match form.missing? words with
  | some switch => throw (.switchMissing switch.name)
  | none =>
    let marks := (words.seen.filter fun s => s.kind.isNone).map Switch.name
    return .given ⟨switches ++ slots, marks⟩ (words.others.drop form.slots.length)

end Form

end VeiledGateway.Command
