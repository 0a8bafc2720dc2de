/-
  What can be wrong with the text of a pattern.
-/
import VeiledGateway.Text.Quoted
import VeiledGateway.Text.Search

set_option autoImplicit false

namespace VeiledGateway.Pattern

/-- A reason for which the text of a pattern is refused. -/
inductive Problem where
  | loneBackslash
  | incompleteEscape (escape : Text)
  | badEscape (escape : Text)
  | largeOctal (escape : Text)
  | missing (what : String)
  | unterminatedName (closing : String)
  | unknownCharacter (name : Text)
  | openGroup
  | lookBehindGroup
  | unknownNumber (n : Nat)
  | unterminatedSet
  | badRange (first last : Text)
  | nothingToRepeat
  | repeatedTwice
  | leastAboveMost
  | largeCount
  | unexpectedEnd
  | badGroupName (name : Text)
  | unknownGroupName (name : Text)
  | groupRedefined (name : Text) (now before : Nat)
  | badGroupNumber
  | unknownExtension (lead : Text)
  | unterminatedComment
  | unterminatedGroup
  | threeBranches
  | lateFlags
  | flag (text : String)
  | unbalanced
  | variableLookBehind

open Problem in
def Problem.message : Problem → Text
  | loneBackslash => "bad escape (end of pattern)"
  | incompleteEscape escape => ("incomplete escape " : Text) ++ escape
  | badEscape escape => ("bad escape " : Text) ++ escape
  | largeOctal escape =>
    ("octal escape value " : Text) ++ escape ++ (" outside of range 0-0o377" : Text)
  | missing what => ("missing " : Text) ++ Text.ofString what
  | unterminatedName closing =>
    ("missing " : Text) ++ Text.ofString closing ++ (", unterminated name" : Text)
  | unknownCharacter name => ("undefined character name " : Text) ++ Text.quoted name
  | openGroup => "cannot refer to an open group"
  | lookBehindGroup => "cannot refer to group defined in the same lookbehind subpattern"
  | unknownNumber n => ("invalid group reference " : Text) ++ Text.ofNat n
  | unterminatedSet => "unterminated character set"
  | badRange first last =>
    ("bad character range " : Text) ++ first ++ ("-" : Text) ++ last
  | nothingToRepeat => "nothing to repeat"
  | repeatedTwice => "multiple repeat"
  | leastAboveMost => "min repeat greater than max repeat"
  | largeCount => "the repetition number is too large"
  | unexpectedEnd => "unexpected end of pattern"
  | badGroupName name => ("bad character in group name " : Text) ++ Text.quoted name
  | unknownGroupName name => ("unknown group name " : Text) ++ Text.quoted name
  | groupRedefined name now before =>
    ("redefinition of group name " : Text) ++ Text.quoted name ++ (" as group " : Text)
      ++ Text.ofNat now ++ ("; was group " : Text) ++ Text.ofNat before
  | badGroupNumber => "bad group number"
  | unknownExtension lead => ("unknown extension ?" : Text) ++ lead
  | unterminatedComment => "missing ), unterminated comment"
  | unterminatedGroup => "missing ), unterminated subpattern"
  | threeBranches => "conditional backref with more than two branches"
  | lateFlags => "global flags not at the start of the expression"
  | flag text => Text.ofString text
  | unbalanced => "unbalanced parenthesis"
  | variableLookBehind => "look-behind requires fixed-width pattern"

/-- A refused pattern: the problem, and where it was met if that is one place. -/
structure Fault where
  problem : Problem
  place : Option Nat

/-- The words for a fault of a pattern. -/
def Fault.message (fault : Fault) (pattern : Text) : Text :=
  match fault.place with
  | none => fault.problem.message
  | some n =>
    let newline := CodePoint.ofChar '\n'
    let before := pattern.take n
    let text := fault.problem.message ++ (" at position " : Text) ++ Text.ofNat n
    if List.contains pattern newline then
      let column := (before.reverse.takeWhile (· != newline)).length + 1
      text ++ (" (line " : Text) ++ Text.ofNat (before.count newline + 1) ++ (", column " : Text)
        ++ Text.ofNat column ++ (")" : Text)
    else text

end VeiledGateway.Pattern
