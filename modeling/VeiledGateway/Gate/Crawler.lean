/-
  Crawlers: user agents that need not solve a challenge.
-/
import VeiledGateway.Pattern.Reader
import VeiledGateway.Pattern.Search

set_option autoImplicit false

namespace VeiledGateway.Crawler

/-- The mode in which the patterns of user agents are read: case does not count. -/
def mode : Pattern.Mode :=
  { Pattern.Mode.plain with ignoreCase := true }

/-- A pattern that cannot be read, and what is wrong with it. -/
structure BadPattern where
  text : Text
  fault : Pattern.Fault

def readAll : List Text → Except BadPattern (List Pattern)
  | [] => .ok []
  | t :: rest => do
    match Pattern.read mode t with
    | .error fault => .error ⟨t, fault⟩
    | .ok p => return p :: (← readAll rest)

/-- A user agent that some pattern is found in; without one, no pattern is read. -/
def isAllowed (agent : Option Text) (patterns : List Text) : Except BadPattern Bool :=
  match agent with
  | none => .ok false
  | some [] => .ok false
  | some agent => return (← readAll patterns).any (·.isFoundIn agent)

end VeiledGateway.Crawler
