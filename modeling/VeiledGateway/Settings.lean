/-
  The settings that all rewriting of documents shares.
-/
import VeiledGateway.Defaults
import VeiledGateway.Text.Search

set_option autoImplicit false

namespace VeiledGateway

structure Settings where
  /-- Classes that stay as they are. -/
  excludedClasses : List Text
  /-- How classes begin that stay as they are. -/
  excludedClassPrefixes : List Text
  /-- Names in scripts that stay as they are. -/
  reservedIdentifiers : List Text
  /-- The least length of a string in a script that is rewritten. -/
  minLiteralLength : Int
  /-- The first segment of the paths that stand for links. -/
  linkPrefix : Text
deriving DecidableEq

namespace Settings

def default : Settings :=
  { excludedClasses := Defaults.excludedClasses
    excludedClassPrefixes := Defaults.excludedClassPrefixes
    reservedIdentifiers := Defaults.reservedIdentifiers
    minLiteralLength := Defaults.minLiteralLength
    linkPrefix := Defaults.linkPrefix }

instance : Inhabited Settings := ⟨default⟩

/-- A class that stays as it is. -/
def isExcludedClass (settings : Settings) (name : Text) : Bool :=
  settings.excludedClasses.contains name
    || settings.excludedClassPrefixes.any fun lead => Text.startsWith name lead

end Settings

end VeiledGateway
