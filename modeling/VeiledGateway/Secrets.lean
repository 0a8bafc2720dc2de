/-
  Secrets: keys, nonces and names of sessions.

  They come from a source that never gives the same one twice.  Each is written from the number of
  those drawn so far, so a run can be repeated.
-/
import VeiledGateway.Text.CodePoint

set_option autoImplicit false

namespace VeiledGateway

/-- A source of secrets, by how many have been drawn. -/
structure Secrets where
  drawn : Nat
deriving DecidableEq

namespace Secrets

def start : Secrets := ⟨0⟩

/-- A secret of so many bytes, in hexadecimal. -/
def hex (secrets : Secrets) (bytes : Nat) : Text × Secrets :=
  (Text.hex (secrets.drawn + 1) (2 * bytes), ⟨secrets.drawn + 1⟩)

/-- The name of a session. -/
def sessionName (secrets : Secrets) : Text × Secrets :=
  (("sid-" : Text) ++ Text.ofNat (secrets.drawn + 1), ⟨secrets.drawn + 1⟩)

end Secrets

end VeiledGateway
