/-
  Entries under names, in the order in which the names were first put there.

  `lookup` reads the value of a name and `put` writes it: a name that is there already keeps its
  place.
-/
import VeiledGateway.Text.CodePoint

set_option autoImplicit false

namespace VeiledGateway

/-- Entries in order; no operation of this namespace lets a name stand twice. -/
abbrev Entries (α : Type) := List (Text × α)

namespace Entries

variable {α : Type}

/-- The entries with `value` under `name`: in the place of the entry of that name, else last. -/
def put (entries : Entries α) (name : Text) (value : α) : Entries α :=
  match entries with
  | [] => [(name, value)]
  | entry :: rest =>
    if entry.1 = name then (name, value) :: rest else entry :: put rest name value

/-- The value under a name. -/
def get? (entries : Entries α) (name : Text) : Option α :=
  match entries with
  | [] => none
  | entry :: rest => if entry.1 = name then some entry.2 else get? rest name

def has (entries : Entries α) (name : Text) : Bool :=
  (get? entries name).isSome

/-- The entries without the one under `name`. -/
def erase (entries : Entries α) (name : Text) : Entries α :=
  entries.filter fun entry => entry.1 ≠ name

/-- The entries that pairs give, a later pair of the same name replacing the value. -/
def ofPairs (pairs : List (Text × α)) : Entries α :=
  pairs.foldl (fun entries pair => put entries pair.1 pair.2) []

theorem get?_put_self (entries : Entries α) (name : Text) (value : α) :
    get? (put entries name value) name = some value := by
  induction entries with
  | nil => simp [put, get?]
  | cons entry rest ih =>
    by_cases h : entry.1 = name
    · simp [put, get?, h]
    · simp [put, get?, h, ih]

theorem get?_put_of_ne (entries : Entries α) {name other : Text} (value : α)
    (h : other ≠ name) : get? (put entries name value) other = get? entries other := by
  induction entries with
  | nil => simp [put, get?, h.symm]
  | cons entry rest ih =>
    by_cases hn : entry.1 = name
    · have ho : ¬ entry.1 = other := fun e => h (e.symm.trans hn)
      simp [put, get?, hn, h.symm]
    · by_cases ho : entry.1 = other
      · simp [put, get?, ho, h]
      · simp [put, get?, hn, ho, ih]

end Entries

end VeiledGateway
