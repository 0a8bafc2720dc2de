/-
  Tokens: the opaque names that stand for original ones in what a session is sent.

  A token is two letters that the session key gives, followed by the first ten digits of the
  digest of `category:original:key`.  The same three parts always give the same token.
-/
import VeiledGateway.Hash.Sha256
import VeiledGateway.Text.Utf8

set_option autoImplicit false

namespace VeiledGateway

/-- What kind of name a token stands for. -/
inductive Category where
  | identifier
  | className
  | elementId
  | textChunk
  | link
deriving DecidableEq

/-- The name that a category has in the digest. -/
def Category.name : Category → Text
  | .identifier => "identifier"
  | .className => "classname"
  | .elementId => "id"
  | .textChunk => "textchunk"
  | .link => "link"

namespace Token

def digestLength : Nat := 10

def prefixLength : Nat := 2

/-- The letter at a code point's value, counted round the alphabet. -/
def letter (c : CodePoint) : CodePoint :=
  CodePoint.ofNat (0x61 + c.val % 26)

/-- The letters with which every token of a session begins; a short key is filled up with `a`. -/
def lead (key : Text) : Text :=
  let head := key.take prefixLength
  (head ++ List.replicate (prefixLength - head.length) (CodePoint.ofChar 'a')).map letter

/-- What is digested for a token. -/
def material (category original key : Text) : Text :=
  category ++ (":" : Text) ++ original ++ (":" : Text) ++ key

/-- The token of an original in a category of that name. -/
def ofParts (category original key : Text) : Except Utf8.EncodeFault Text :=
  match Utf8.encode (material category original key) with
  | .ok bytes => .ok (lead key ++ (Sha256.hexDigest bytes).take digestLength)
  | .error fault => .error fault

end Token

/-- The token of `original` for the session with this key. -/
def token (category : Category) (original key : Text) : Except Utf8.EncodeFault Text :=
  Token.ofParts category.name original key

end VeiledGateway
