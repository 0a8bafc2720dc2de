/-
  A disk: files, directories and symbolic links by their places.

  `resolve` gives the place that a path leads to when all links on the way are followed, as far as
  there is something; `look` tells what is there when one opens a path.
-/
import VeiledGateway.Fault
import VeiledGateway.Text.Search
import VeiledGateway.Text.Utf8

set_option autoImplicit false

namespace VeiledGateway

/-- A place on a disk: the names from its root down. -/
abbrev Place := List Text

inductive Entry where
  | file (bytes : List UInt8)
  | directory
  | link (target : Text)

/-- What is where, and the place from which relative paths go. -/
structure Disk where
  entries : List (Place × Entry)
  home : Place

namespace Disk

def empty (home : Place) : Disk :=
  ⟨[], home⟩

/-- What is at a place, links not followed. -/
def entry? (disk : Disk) (place : Place) : Option Entry :=
  match disk.entries.lookup place with
  | some entry => some entry
  | none =>
    let isAbove := place.isPrefixOf disk.home || disk.entries.any fun e => place.isPrefixOf e.1
    if isAbove then some .directory else none

def put (disk : Disk) (place : Place) (entry : Entry) : Disk :=
  { disk with entries := (place, entry) :: disk.entries }

/-- The names of a path as it is written. -/
def pathNames (path : Text) : List Text :=
  (Text.fields '/' path).filter fun name => !name.isEmpty && !Text.eqString name "."

def isAbsolute (path : Text) : Bool :=
  Text.startsWith path "/"

/-- A place as a path. -/
def written (place : Place) : Text :=
  (CodePoint.ofChar '/') :: Text.join "/" place

/-- The place without names for the directory above. -/
def tidy (place : Place) : Place :=
  (place.foldl (fun above name =>
    if Text.eqString name ".." then above.drop 1 else name :: above) []).reverse

/-- How many names there are in all links together. -/
def linkNames (disk : Disk) : Nat :=
  disk.entries.foldl (fun n e => match e.2 with
    | .link target => n + (pathNames target).length + 1
    | _ => n) 0

/-- Links met on the way: where each led, or nothing while that is being found out. -/
abbrev Seen := List (Place × Option Place)

/-- Follow names from a place; the flag tells that no link led back to itself. -/
def walk (disk : Disk) : Nat → Place → List Text → Seen → Place × Bool × Seen
  | 0, place, names, seen => (place ++ names, false, seen)
  | _, place, [], seen => (place, true, seen)
  | fuel + 1, place, name :: rest, seen =>
    if Text.eqString name ".." then walk disk fuel place.dropLast rest seen
    else
      let new := place ++ [name]
      match disk.entry? new with
      | some (.link target) =>
        match seen.lookup new with
        | some (some found) => walk disk fuel found rest seen
        | some none => (new ++ rest, false, seen)
        | none =>
          let start := if isAbsolute target then [] else place
          match walk disk fuel start (pathNames target) ((new, none) :: seen) with
          | (found, false, seen) => (found ++ rest, false, seen)
          | (found, true, seen) => walk disk fuel found rest ((new, some found) :: seen)
      | _ => walk disk fuel new rest seen

/-- What one finds when opening a path. -/
inductive Sight where
  | nothing
  /-- A file is where a directory would have to be. -/
  | noFolder
  | endless
  | tooLong
  | found (entry : Entry)

/-- How many links are followed before the way counts as endless. -/
def linkLimit : Nat := 40

def nameLimit : Nat := 255

/-- A surrogate half that stands for a single byte in the name of a file. -/
def isByteHalf (c : CodePoint) : Bool :=
  0xDC80 ≤ c.val && c.val ≤ 0xDCFF

/-- A code point that no name of a file can hold. -/
def isUnnamable (c : CodePoint) : Bool :=
  c.isSurrogate && !isByteHalf c

/-- The bytes of the name of a file. -/
def nameBytes (name : Text) : List UInt8 :=
  name.flatMap fun c =>
    if isByteHalf c then [UInt8.ofNat (c.val - 0xDC00)] else Utf8.encodeLossy [c]

/-- What is behind names from a place, all links followed, at most `links` of them. -/
def lookFrom (disk : Disk) : Nat → Nat → Place → List Text → Sight
  | 0, _, _, _ => .endless
  | _, _, place, [] =>
    match disk.entry? place with
    | some entry => .found entry
    | none => .nothing
  | fuel + 1, links, place, name :: rest =>
    match disk.entry? place with
    | some .directory =>
      if Text.eqString name ".." then lookFrom disk fuel links place.dropLast rest
      else if nameLimit < (nameBytes name).length then .tooLong
      else
        let new := place ++ [name]
        match disk.entry? new with
        | some (.link target) =>
          match links with
          | 0 => .endless
          | links + 1 =>
            let start := if isAbsolute target then [] else place
            lookFrom disk fuel links start (pathNames target ++ rest)
        | _ => lookFrom disk fuel links new rest
    | some (.file _) => .noFolder
    | _ => .nothing

/-- What one finds when opening a place. -/
def look (disk : Disk) (place : Place) : Sight :=
  lookFrom disk (place.length + (linkLimit + 1) * (disk.linkNames + 1) + 1) linkLimit [] place

/-- The first code points of a path that no name of a file can hold. -/
def unnamableIn (path : Text) : Utf8.EncodeFault :=
  let before := path.takeWhile (!isUnnamable ·)
  let rest := path.drop before.length
  ⟨before.length, rest.head?.getD default, (rest.takeWhile CodePoint.isSurrogate).length⟩

/-- Why names from a place are no names of files: the first that is none tells. -/
def nameFault? (start : Place) (names : List Text) : Option Fault :=
  match names.find? (·.any fun c => c.val == 0 || isUnnamable c) with
  | none => none
  | some name =>
    if name.any isUnnamable then some (.unencodable (unnamableIn (written (start ++ names))))
    else some .zeroInPath

/-- The place that names lead to from another place, links followed as far as there is something.
-/
def resolve (disk : Disk) (start : Place) (names : List Text) : Except Fault Place :=
  match nameFault? start names with
  | some fault => .error fault
  | none =>
    let (found, _, _) := walk disk (names.length + disk.linkNames + 1) start names []
    let place := tidy found
    match disk.look place with
    | .endless => .error (.linkLoop (written place))
    | _ => .ok place

/-- The place of a path, which may be relative. -/
def resolvePath (disk : Disk) (path : Text) : Except Fault Place :=
  disk.resolve (if isAbsolute path then [] else disk.home) (pathNames path)

def isDirectory (disk : Disk) (place : Place) : Except Fault Bool :=
  match disk.look place with
  | .tooLong => .error (.longName (written place))
  | .found .directory => .ok true
  | _ => .ok false

/-- The place of a path, links not followed. -/
def placeOf (disk : Disk) (path : Text) : Place :=
  (if isAbsolute path then [] else disk.home) ++ pathNames path

/-- The bytes of the file that a place leads to. -/
def read? (disk : Disk) (place : Place) : Except Fault (Option (List UInt8)) :=
  match disk.look place with
  | .tooLong => .error (.longName (written place))
  | .found (.file bytes) => .ok (some bytes)
  | _ => .ok none

def isFile (disk : Disk) (place : Place) : Except Fault Bool := do
  return (← disk.read? place).isSome

end Disk

end VeiledGateway
