/-
  Assets: the files behind references and paths.

  The roots of a site are searched in order.  A path is looked for under each root, and what it
  leads to must lie under that root too.
-/
import VeiledGateway.Asset.Disk
import VeiledGateway.Asset.Reference

set_option autoImplicit false

namespace VeiledGateway

/-- A disk, and the roots of a site on it. -/
structure Assets where
  disk : Disk
  roots : List Place

namespace Assets

/-- The assets under directories, whose links are followed first. -/
def ofRoots (disk : Disk) (roots : List Text) : Except Fault Assets := do
  return ⟨disk, ← roots.mapM disk.resolvePath⟩

/-- The file that a directory stands for. -/
def indexFile : Text := "index.html"

/-- Where a path leads under one root; the root itself is taken as it is. -/
def placeUnder (assets : Assets) (path : List Text) (root : Place) : Except Fault Place :=
  if path.isEmpty then .ok root else assets.disk.resolve [] (root ++ path)

/-- What a path leads to under one root, if that is a file there. -/
def findUnder (assets : Assets) (withIndex : Bool) (path : List Text) (root : Place) :
    Except Fault (Option Place) := do
  let place ← assets.placeUnder path root
  if !root.isPrefixOf place then return none
  let isFolder ← if withIndex then assets.disk.isDirectory place else pure false
  let place := if isFolder then place ++ [indexFile] else place
  return if ← assets.disk.isFile place then some place else none

/-- The file of a path under the first of some roots that has one. -/
def findFile (assets : Assets) (withIndex : Bool) (path : List Text) :
    List Place → Except Fault (Option Place)
  | [] => return none
  | root :: rest => do
    match ← assets.findUnder withIndex path root with
    | some place => return some place
    | none => findFile assets withIndex path rest

/-- The path from the root of the site that a reference of a document names, where `base` is the
path of the document. -/
def targetPath (reference base : Text) : Except Fault Text := do
  let path ← Reference.pathOf (Text.trim reference)
  let folder := Reference.directory (if base.isEmpty then "/" else base)
  return Reference.normal (Reference.joinPath folder path)

/-- The path of the file that a reference names, if it names one. -/
def canonical (assets : Assets) (reference base : Text) : Except Fault (Option Text) := do
  match ← Reference.kindOf reference with
  | .static =>
    let path ← targetPath reference base
    match ← assets.findFile false (Reference.names path) assets.roots with
    | some _ => return some path
    | none => return none
  | _ => return none

/-- The path of the file that a reference names, or the reference as it is. -/
def resolve (assets : Assets) (reference base : Text) : Except Fault Text := do
  return (← assets.canonical reference base).getD reference

/-- The file that a path of the site stands for; a directory stands for its index. -/
def locate (assets : Assets) (path : Text) : Except Fault (Option Place) :=
  assets.findFile true (Reference.names (Reference.unescape path)) assets.roots

end Assets

end VeiledGateway
