/-
  Rewriting as a program.

  To rewrite a document is to ask, one after the other, for the tokens of names and for the pieces
  of texts, and to build the new document from the answers.  A `Rewriting` is such a program.  It
  does not see the tables that answer it, so what it does depends on the answers alone.
-/
import VeiledGateway.Fault
import VeiledGateway.Settings

set_option autoImplicit false

namespace VeiledGateway

/-- The names that have tokens, by the table that holds them. -/
inductive Naming where
  | identifier
  | className
  | elementId
  | link
deriving DecidableEq

/-- What is worth noting while a document is rewritten. -/
inductive Note where
  /-- A script has been rewritten: how many names were local, and how many edits were made. -/
  | script (names edits : Nat)
  /-- A reference names no file. -/
  | missingAsset (reference : Text)
deriving DecidableEq

inductive Rewriting (α : Type) where
  | done (a : α)
  | fail (fault : Fault)
  /-- Ask for the token of a name. -/
  | name (naming : Naming) (original : Text) (next : Text → Rewriting α)
  /-- Ask for the pieces of a text. -/
  | pieces (text : Text) (next : List Text → Rewriting α)
  | note (note : Note) (next : Rewriting α)

namespace Rewriting

variable {α β : Type}

def bind : Rewriting α → (α → Rewriting β) → Rewriting β
  | .done a, f => f a
  | .fail fault, _ => .fail fault
  | .name naming original next, f => .name naming original fun t => bind (next t) f
  | .pieces text next, f => .pieces text fun ts => bind (next ts) f
  | .note n next, f => .note n (bind next f)

instance : Monad Rewriting where
  pure := .done
  bind := bind

/-- The outcome of a calculation that asks for nothing. -/
def ofExcept : Except Fault α → Rewriting α
  | .ok a => .done a
  | .error fault => .fail fault

/-- The token of an identifier of a script. -/
def identifier (original : Text) : Rewriting Text :=
  .name .identifier original .done

/-- What stands for a class: its token, or the class itself when it is excluded. -/
def className (settings : Settings) (original : Text) : Rewriting Text :=
  if settings.isExcludedClass original then .done original else .name .className original .done

/-- The token of the identity of an element. -/
def elementId (original : Text) : Rewriting Text :=
  .name .elementId original .done

/-- The path under which a token of a link is asked for. -/
def linkPath (settings : Settings) (tok : Text) : Text :=
  ("/" : Text) ++ settings.linkPrefix ++ ("/" : Text) ++ tok

/-- The path that stands for the path of an asset. -/
def link (settings : Settings) (path : Text) : Rewriting Text :=
  .name .link path fun tok => .done (linkPath settings tok)

/-- The pieces of a text. -/
def textPieces (text : Text) : Rewriting (List Text) :=
  .pieces text .done

def noting (n : Note) : Rewriting Unit :=
  .note n (.done ())

end Rewriting

end VeiledGateway
