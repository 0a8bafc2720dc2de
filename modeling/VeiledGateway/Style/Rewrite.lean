/-
  Rewriting a style sheet: selectors of classes and identities become those of their tokens,
  strings in declarations are cut into pieces, and references become links.

  The pieces of a style sheet are gone through in order.  What a token means depends on the blocks
  that are open, and on the text since the last brace or semicolon, which is the prelude of what
  comes next.
-/
import VeiledGateway.Style.Escape
import VeiledGateway.Style.Token
import VeiledGateway.Unicode.Case
import VeiledGateway.View

set_option autoImplicit false

namespace VeiledGateway.Style

/-- What a block holds. -/
inductive Block where
  /-- Further rules. -/
  | group
  | declarations
  | other
deriving DecidableEq

/-- Rules with a name whose blocks hold further rules. -/
def groupRules : List String :=
  ["@media", "@supports", "@layer", "@container", "@document"]

/-- How far a style sheet has been rewritten. -/
structure Reached where
  /-- The open blocks, the innermost first. -/
  blocks : List Block
  /-- The text since the last brace or semicolon, backwards. -/
  since : Text

namespace Reached

/-- What precedes, without the blanks at its beginning. -/
def prelude (r : Reached) : Text :=
  Text.trimLeft r.since.reverse

/-- Rules may stand here, not declarations. -/
def holdsRules (r : Reached) : Bool :=
  match r.blocks with
  | [] => true
  | block :: _ => block == .group

end Reached

/-- What a block holds that opens after a prelude. -/
def blockAfter (r : Reached) : Block :=
  let lead := r.prelude
  if Text.startsWith lead "@" then
    let name := (Text.cutAtCode '(' (lead.takeWhile (!·.isBlank))).1
    if groupRules.any (Text.eqString (Text.lower name)) then .group else .other
  else if r.holdsRules then .declarations
  else .other

/-! ## References -/

/-- What stands for a reference. -/
def rewriteReference (v : View) (reference : Text) : Rewriting Text :=
  match v.assets with
  | none => return reference
  | some _ =>
    if reference.isEmpty || List.contains reference (CodePoint.ofChar '\\') then return reference
    else do
      match ← .ofExcept (Reference.kindOf reference) with
      | .fragment =>
        if 1 < reference.length then
          return (CodePoint.ofChar '#') :: (← Rewriting.elementId (reference.drop 1))
        else return reference
      | .static =>
        match ← v.pathOf? reference with
        | some path => Rewriting.link v.settings path
        | none => return reference
      | _ => return reference

/-- The quotes and the reference of an address. -/
def addressParts (text : Text) : Text × Text :=
  let inside := Text.trim ((text.drop 4).dropLast)
  match inside with
  | c :: d :: rest =>
    if (c == '"' || c == '\'') && (d :: rest).getLast? == some c then
      ([c], Text.trim (d :: rest).dropLast)
    else ([], inside)
  | _ => ([], inside)

def rewriteAddress (v : View) (text : Text) : Rewriting Text := do
  let (quote, reference) := addressParts text
  let new ← rewriteReference v reference
  return if new = reference then text
    else ("url(" : Text) ++ quote ++ new ++ quote ++ (")" : Text)

/-- The quote of a string, and what is inside. -/
def stringParts (text : Text) : Text × Text :=
  (text.take 1, (text.drop 1).dropLast)

def rewriteImport (v : View) (text : Text) : Rewriting Text := do
  let (quote, reference) := stringParts text
  let new ← rewriteReference v reference
  return if new = reference then text else quote ++ new ++ quote

/-- The end of a line that a string may be broken at. -/
def lineContinuation : Text := "\\\n"

/-- A string in pieces.  One with escapes, or with no more than one code point between blanks,
stays. -/
def chunkString (text : Text) : Rewriting Text :=
  let (quote, inside) := stringParts text
  if List.contains inside (CodePoint.ofChar '\\') || (Text.trim inside).length ≤ 1 then return text
  else do
    return quote ++ Text.join lineContinuation (← Rewriting.textPieces inside) ++ quote

/-! ## The whole style sheet -/

/-- What a token becomes where so much has been reached. -/
def rewriteToken (v : View) (r : Reached) (kind : TokenKind) (text : Text) : Rewriting Text :=
  let inSelector := r.holdsRules && !Text.startsWith r.prelude "@"
  match kind with
  | .classSelector =>
    if inSelector then do
      return (CodePoint.ofChar '.') :: (← Rewriting.className v.settings (unescape (text.drop 1)))
    else return text
  | .identitySelector =>
    if inSelector then do
      return (CodePoint.ofChar '#') :: (← Rewriting.elementId (unescape (text.drop 1)))
    else return text
  | .address => rewriteAddress v text
  | .string =>
    if Text.startsWith (Text.lower r.prelude) "@import" then rewriteImport v text
    else if !r.holdsRules then chunkString text
    else return text
  | _ => return text

/-- What has been reached after a piece. -/
def Reached.after (r : Reached) : Piece → Reached
  | .token .opening _ => ⟨blockAfter r :: r.blocks, []⟩
  | .token .closing _ => ⟨r.blocks.drop 1, []⟩
  | .token .semicolon _ => ⟨r.blocks, []⟩
  | piece => ⟨r.blocks, piece.text.reverse ++ r.since⟩

/-- The pieces from a place on, rewritten. -/
def rewritePieces (v : View) (r : Reached) : List Piece → Rewriting (List Text)
  | [] => return []
  | piece :: rest => do
    let new ← match piece with
      | .token kind text => rewriteToken v r kind text
      | .other c => pure [c]
    return new :: (← rewritePieces v (r.after piece) rest)

/-- A style sheet, rewritten. -/
def rewrite (v : View) (source : Text) : Rewriting Text := do
  return (← rewritePieces v ⟨[], []⟩ (scan source)).flatten

end VeiledGateway.Style
