/-
  Token tables: for one category, the originals met in a session and what stands for each, with
  an index from tokens back to originals.
-/
import VeiledGateway.Text.Entries

set_option autoImplicit false

namespace VeiledGateway

/-- The entries in the order of their insertion, and the index of their values. -/
structure TokenTable where
  forward : Entries Text
  reverse : Entries Text

namespace TokenTable

/-- The index of the values of entries: of two entries with one value, the later counts. -/
def index (forward : Entries Text) : Entries Text :=
  forward.foldl (fun reverse entry => Entries.put reverse entry.2 entry.1) []

/-- The table with these entries. -/
def ofForward (forward : Entries Text) : TokenTable :=
  ⟨forward, index forward⟩

def empty : TokenTable :=
  ofForward []

instance : Inhabited TokenTable := ⟨empty⟩

/-- What stands for `original`. -/
def value? (table : TokenTable) (original : Text) : Option Text :=
  Entries.get? table.forward original

/-- The original that `value` stands for. -/
def original? (table : TokenTable) (value : Text) : Option Text :=
  Entries.get? table.reverse value

def contains (table : TokenTable) (original : Text) : Bool :=
  (table.value? original).isSome

def size (table : TokenTable) : Nat :=
  table.forward.length

/-- The table with `value` for an original that has no entry yet. -/
def insert (table : TokenTable) (original value : Text) : TokenTable :=
  ⟨Entries.put table.forward original value, Entries.put table.reverse value original⟩

end TokenTable

end VeiledGateway
