/-
  What can make the rewriting of a document fail.
-/
import VeiledGateway.Text.Quoted
import VeiledGateway.Text.Utf8

set_option autoImplicit false

namespace VeiledGateway

/-- The kinds of source that can be refused as a whole. -/
inductive SourceKind where
  | script
  | markup
deriving DecidableEq

def SourceKind.name : SourceKind → Text
  | .script => "script"
  | .markup => "markup"

/-- A reason for which a document is not rewritten. -/
inductive Fault where
  /-- A name has no encoding, so it has no token. -/
  | unencodable (fault : Utf8.EncodeFault)
  /-- A stored layout holds something that is no digit. -/
  | badLayout (c : CodePoint)
  /-- The source cannot be read. -/
  | unreadable (kind : SourceKind) (detail : Text)
  /-- A rule that every source keeps was broken while it was read. -/
  | broken (detail : Text)
  /-- Two edits overlap; the later one begins at `start`. -/
  | overlap (start : Int)
  /-- A node of a syntax tree lacks a field that it must have. -/
  | missingField (name : String)
  /-- There is nothing that could have the part asked for. -/
  | nothingThere (part : String)
  /-- Brackets in the host of an address do not match. -/
  | badHost
  /-- What is in brackets is no address of a host. -/
  | noHostAddress (host : Text)
  /-- What is in brackets is an address that needs none. -/
  | bracketedFour
  /-- What is in brackets announces an address of a later version and is none. -/
  | badLaterHost
  /-- The host of an address holds a code point that would end it in another form. -/
  | hostCharacters (host : Text)
  /-- A path holds the code point zero. -/
  | zeroInPath
  /-- Links lead back to themselves on the way to a path. -/
  | linkLoop (path : Text)
  /-- A path has a name that is too long for any file. -/
  | longName (path : Text)
  /-- A document of a media type could not be rewritten. -/
  | failed (mediaType : Text) (cause : Text)
deriving DecidableEq

/-- The words for a fault. -/
def Fault.message : Fault → Text
  | .unencodable fault => fault.message
  | .badLayout c => ("invalid literal for int() with base 10: " : Text) ++ Text.quoted [c]
  | .unreadable kind detail => kind.name ++ (" parse failed: " : Text) ++ detail
  | .broken detail => detail
  | .overlap start => ("overlapping edit at " : Text) ++ Text.ofInt start
  | .missingField name => Text.quoted name
  | .nothingThere part =>
    ("'NoneType' object has no attribute " : Text) ++ Text.quoted part
  | .badHost => "Invalid IPv6 URL"
  | .noHostAddress host =>
    Text.quoted host ++ (" does not appear to be an IPv4 or IPv6 address" : Text)
  | .bracketedFour => "An IPv4 address cannot be in brackets"
  | .badLaterHost => "IPvFuture address is invalid"
  | .hostCharacters host =>
    ("netloc " : Text) ++ host ++ (" contains invalid characters under NFKC normalization" : Text)
  | .zeroInPath => "embedded null byte"
  | .linkLoop path => ("Symlink loop from " : Text) ++ Text.quoted path
  | .longName path => ("[Errno 36] File name too long: " : Text) ++ Text.quoted path
  | .failed mediaType cause => mediaType ++ (" transform failed: " : Text) ++ cause

end VeiledGateway
