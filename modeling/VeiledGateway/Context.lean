/-
  The context of a session: the tables of its tokens and layouts, and how a rewriting program is
  answered from them.

  A name is given its token once and keeps it, and a text its layout.  `Context.run` answers each
  request of a program in turn; when the program fails, what the requests before have put into the
  tables stays there.
-/
import VeiledGateway.Layout
import VeiledGateway.Rewriting
import VeiledGateway.Token
import VeiledGateway.TokenTable

set_option autoImplicit false

namespace VeiledGateway

/-- The entries of the five tables. -/
structure Mappings where
  identifiers : Entries Text
  classNames : Entries Text
  elementIds : Entries Text
  textChunks : Entries Text
  links : Entries Text
deriving DecidableEq

namespace Mappings

def empty : Mappings :=
  ⟨[], [], [], [], []⟩

instance : Inhabited Mappings := ⟨empty⟩

/-- How many entries there are. -/
def total (m : Mappings) : Nat :=
  m.identifiers.length + m.classNames.length + m.elementIds.length + m.textChunks.length
    + m.links.length

end Mappings

/-- The state of a session that rewriting reads and extends. -/
structure Context where
  key : Text
  identifiers : TokenTable
  classNames : TokenTable
  elementIds : TokenTable
  textChunks : TokenTable
  links : TokenTable
  twister : Twister
  /-- How many entries have been asked for that were not there. -/
  inserted : Nat

namespace Context

def ofMappings (key : Text) (m : Mappings) (twister : Twister) : Context :=
  { key
    identifiers := TokenTable.ofForward m.identifiers
    classNames := TokenTable.ofForward m.classNames
    elementIds := TokenTable.ofForward m.elementIds
    textChunks := TokenTable.ofForward m.textChunks
    links := TokenTable.ofForward m.links
    twister
    inserted := 0 }

def mappings (c : Context) : Mappings :=
  { identifiers := c.identifiers.forward
    classNames := c.classNames.forward
    elementIds := c.elementIds.forward
    textChunks := c.textChunks.forward
    links := c.links.forward }

/-- The table of a naming. -/
def table (c : Context) : Naming → TokenTable
  | .identifier => c.identifiers
  | .className => c.classNames
  | .elementId => c.elementIds
  | .link => c.links

def setTable (c : Context) (naming : Naming) (table : TokenTable) : Context :=
  match naming with
  | .identifier => { c with identifiers := table }
  | .className => { c with classNames := table }
  | .elementId => { c with elementIds := table }
  | .link => { c with links := table }

end Context

/-- The category whose tokens a table holds. -/
def Naming.category : Naming → Category
  | .identifier => .identifier
  | .className => .className
  | .elementId => .elementId
  | .link => .link

namespace Context

/-- The token of a name: the one in its table, or a new one, which goes there. -/
def answerName (c : Context) (naming : Naming) (original : Text) : Except Fault Text × Context :=
  match (c.table naming).value? original with
  | some tok => (.ok tok, c)
  | none =>
    let c := { c with inserted := c.inserted + 1 }
    match token naming.category original c.key with
    | .error fault => (.error (.unencodable fault), c)
    | .ok tok => (.ok tok, c.setTable naming ((c.table naming).insert original tok))

/-- The layout of a text: the one in the table, or a new one, which goes there. -/
def layout (c : Context) (text : Text) : Text × Context :=
  match c.textChunks.value? text with
  | some layout => (layout, c)
  | none =>
    let (layout, twister) := Layout.choose Twister.belowThree text.length c.twister
    (layout, { c with
      twister
      inserted := c.inserted + 1
      textChunks := c.textChunks.insert text layout })

def answerPieces (c : Context) (text : Text) : Except Fault (List Text) × Context :=
  let (layout, c) := c.layout text
  match Layout.split text layout with
  | .ok pieces => (.ok pieces, c)
  | .error digit => (.error (.badLayout digit), c)

/-- The outcome of a program, the context after it, and what it noted. -/
def run {α : Type} : Rewriting α → Context → Except Fault α × Context × List Note
  | .done a, c => (.ok a, c, [])
  | .fail fault, c => (.error fault, c, [])
  | .name naming original next, c =>
    match c.answerName naming original with
    | (.ok tok, c) => run (next tok) c
    | (.error fault, c) => (.error fault, c, [])
  | .pieces text next, c =>
    match c.answerPieces text with
    | (.ok parts, c) => run (next parts) c
    | (.error fault, c) => (.error fault, c, [])
  | .note n next, c =>
    let (outcome, c, notes) := run next c
    (outcome, c, n :: notes)

/-- The original that a token of a link stands for. -/
def originalLink (c : Context) (tok : Text) : Option Text :=
  c.links.original? tok

end Context

end VeiledGateway
