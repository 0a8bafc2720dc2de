/-
  Search patterns: what a text is looked through for.

  A pattern is a tree.  Its leaves test one code point or a place between two, and each leaf holds
  the mode in which it was written, so that nothing else decides what it accepts.
-/
import VeiledGateway.Unicode.Case
import VeiledGateway.Unicode.CaseTable

set_option autoImplicit false

namespace VeiledGateway

/-- How the leaves of a pattern are read. -/
structure Pattern.Mode where
  /-- Letters that differ only in case are the same. -/
  ignoreCase : Bool
  /-- Lines begin and end inside the text. -/
  byLine : Bool
  /-- A dot stands for the end of a line too. -/
  dotAll : Bool
  /-- Named classes and cases are those of ASCII. -/
  ascii : Bool
  /-- Blanks in the pattern are no part of it. -/
  spaced : Bool
deriving DecidableEq

namespace Pattern

def Mode.plain : Mode :=
  ⟨false, false, false, false, false⟩

/-- A class of code points that has a name. -/
inductive Named where
  | digit
  | blank
  | word
deriving DecidableEq

def Named.holds (ascii : Bool) : Named → CodePoint → Bool
  | .digit, c => if ascii then c.isAsciiDigit else c.digitValue?.isSome
  | .blank, c => if ascii then (0x09 ≤ c.val && c.val ≤ 0x0D) || c.val == 0x20 else c.isBlank
  | .word, c =>
    if ascii then c.isAsciiLetter || c.isAsciiDigit || c.val == 0x5F else c.isWord

/-- A part of a set of code points. -/
inductive Item where
  | range (first last : Nat)
  | named (cls : Named) (complement : Bool)
deriving DecidableEq

/-- The lower-case letters that `c` is the same as when case does not count. -/
def folds (ascii : Bool) (c : CodePoint) : List Nat :=
  if ascii then [c.asciiLower.val]
  else
    let low := c.simpleLower.val
    (Unicode.foldClasses.find? (·.contains low)).getD [low]

/-- The code points with the lower-case form `n`, other than `n`. -/
def capitals (ascii : Bool) (n : Nat) : List Nat :=
  if ascii then (if 0x61 ≤ n && n ≤ 0x7A then [n - 0x20] else [])
  else
    let ofRuns := Unicode.lowerRuns.filterMap fun run =>
      let source := Int.toNat ((n : Int) - run.shift)
      if run.contains source then some source else none
    if n == 0x69 then 0x130 :: ofRuns else ofRuns

def Item.holds (mode : Mode) (item : Item) (c : CodePoint) : Bool :=
  match item with
  | .named cls complement => cls.holds mode.ascii c != complement
  | .range first last =>
    let lies (n : Nat) : Bool := first ≤ n && n ≤ last
    if mode.ignoreCase then
      (folds mode.ascii c).any fun n => lies n || (capitals mode.ascii n).any lies
    else lies c.val

/-- A test of one code point. -/
structure Test where
  mode : Mode
  complement : Bool
  items : List Item

def Test.holds (test : Test) (c : CodePoint) : Bool :=
  test.items.any (·.holds test.mode c) != test.complement

/-- A place in a text. -/
inductive Place where
  | lineStart
  | lineEnd
  | start
  | finish
  | boundary
  | inside
deriving DecidableEq

/-- How often a repeated pattern is tried. -/
inductive Greed where
  | most
  | least
  | all
deriving DecidableEq

end Pattern

inductive Pattern where
  | empty
  | code (test : Pattern.Test)
  | anything (dotAll : Bool)
  | place (mode : Pattern.Mode) (p : Pattern.Place)
  | seq (first second : Pattern)
  | either (first second : Pattern)
  | repeated (greed : Pattern.Greed) (least : Nat) (most : Option Nat) (body : Pattern)
  | group (number : Nat) (body : Pattern)
  /-- The text that a group has found, again. -/
  | again (mode : Pattern.Mode) (number : Nat)
  /-- What follows here, or what precedes by so many code points, matches or does not. -/
  | look (back : Option Nat) (wanted : Bool) (body : Pattern)
  /-- The first way in which the body matches, and no other. -/
  | atomic (body : Pattern)
  | ifGroup (number : Nat) (yes no : Pattern)

end VeiledGateway
