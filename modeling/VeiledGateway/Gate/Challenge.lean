/-
  Challenges: a text is sought whose digest, behind a nonce, begins with so many zeros.
-/
import VeiledGateway.Hash.Sha256
import VeiledGateway.Secrets
import VeiledGateway.Text.Search
import VeiledGateway.Text.Utf8

set_option autoImplicit false

namespace VeiledGateway

structure Challenge where
  nonce : Text
  /-- How many hexadecimal zeros the digest must begin with; a negative number demands none. -/
  difficulty : Int
  solved : Bool
deriving DecidableEq

/-- Why a solution could not be checked. -/
inductive CheckFault where
  /-- The nonce or the solution has no encoding. -/
  | unencodable (fault : Utf8.EncodeFault)
  /-- The difficulty is no length that a text can have. -/
  | tooDifficult
deriving DecidableEq

def CheckFault.message : CheckFault → Text
  | .unencodable fault => fault.message
  | .tooDifficult => "cannot fit 'int' into an index-sized integer"

namespace Challenge

def nonceBytes : Nat := 16

/-- One more than the greatest length of a text. -/
def maxDifficulty : Nat := 0x8000000000000000

/-- A new challenge. -/
def draw (difficulty : Int) (secrets : Secrets) : Challenge × Secrets :=
  let (nonce, secrets) := secrets.hex nonceBytes
  (⟨nonce, difficulty, false⟩, secrets)

/-- The digest of `bytes` begins with so many zeros. -/
def meets (bytes : List UInt8) (difficulty : Int) : Bool :=
  let zero := CodePoint.ofChar '0'
  difficulty.toNat ≤ ((Sha256.hexDigest bytes).takeWhile (· = zero)).length

/-- A text solves the challenge with this nonce and difficulty. -/
def check (nonce solution : Text) (difficulty : Int) : Except CheckFault Bool :=
  match Utf8.encode (nonce ++ solution) with
  | .error fault => .error (.unencodable fault)
  | .ok bytes =>
    if maxDifficulty ≤ difficulty then .error .tooDifficult else .ok (meets bytes difficulty)

end Challenge

end VeiledGateway
