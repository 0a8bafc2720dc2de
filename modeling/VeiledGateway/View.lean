/-
  What the documents of a site are rewritten with, and the files that their references name.
-/
import VeiledGateway.Asset.Resolver
import VeiledGateway.Rewriting

set_option autoImplicit false

namespace VeiledGateway

/-- The settings, the files and the place of one document. -/
structure View where
  settings : Settings
  /-- The files that references may name; without them references stay. -/
  assets : Option Assets
  /-- The path of the document. -/
  base : Text

namespace View

/-- The path of the file that a reference names, if it names one; a reference of the kind that does
but should not is noted. -/
def pathOf? (v : View) (reference : Text) : Rewriting (Option Text) :=
  match v.assets with
  | none => return none
  | some assets => do
    match ← .ofExcept (assets.canonical reference v.base) with
    | some path => return some path
    | none =>
      if (← .ofExcept (Reference.kindOf reference)) = .static then
        Rewriting.noting (.missingAsset reference)
      return none

end View

end VeiledGateway
