/-
  Lower-case and upper-case forms of texts, and the one-to-one lower-case form by which
  patterns compare code points when case does not count.
-/
import VeiledGateway.Unicode.Property
import VeiledGateway.Unicode.CaseTable

set_option autoImplicit false

namespace VeiledGateway.Unicode

def CaseRun.contains (run : CaseRun) (n : Nat) : Bool :=
  run.first ≤ n && n ≤ run.last && (n - run.first) % run.step == 0

/-- The code point that the run holding `c` maps it to, or `c` itself. -/
def mapCase (runs : List CaseRun) (c : CodePoint) : CodePoint :=
  match runs.find? (·.contains c.val) with
  | some run => CodePoint.ofNat (Int.toNat (c.val + run.shift))
  | none => c

/-- A cased letter is met first when code points passed over are left out. -/
def meetsCased : Text → Bool
  | [] => false
  | c :: rest =>
    if inRuns passedRuns c.val then meetsCased rest else inRuns casedRuns c.val

end VeiledGateway.Unicode

namespace VeiledGateway

open Unicode

/-- The lower-case form in one code point. -/
def CodePoint.simpleLower (c : CodePoint) : CodePoint :=
  if c.val < 0x80 then c.asciiLower
  else if c.val == 0x130 then 'i'
  else mapCase lowerRuns c

/-- The lower-case form of `c` where `before` precedes it, nearest first, and `after` follows:
a capital sigma at the end of a word takes its final form, and a dotted capital I keeps its dot. -/
def CodePoint.lowerIn (before : Text) (c : CodePoint) (after : Text) : Text :=
  if c.val == 0x3A3 then
    if meetsCased before && !meetsCased after then [CodePoint.ofNat 0x3C2] else [CodePoint.ofNat 0x3C3]
  else if c.val == 0x130 then [(CodePoint.ofChar 'i'), CodePoint.ofNat 0x307]
  else [c.simpleLower]

def Text.lowerFrom (before : Text) : Text → Text
  | [] => []
  | c :: rest => c.lowerIn before rest ++ Text.lowerFrom (c :: before) rest

/-- The lower-case form of a text. -/
def Text.lower (t : Text) : Text :=
  Text.lowerFrom [] t

def CodePoint.upper (c : CodePoint) : Text :=
  if c.val < 0x80 then
    [c.asciiUpper]
  else
    match upperSequences.lookup c.val with
    | some codes => codes.map CodePoint.ofNat
    | none => [mapCase upperRuns c]

/-- The upper-case form of a text. -/
def Text.upper (t : Text) : Text :=
  t.flatMap CodePoint.upper

end VeiledGateway
