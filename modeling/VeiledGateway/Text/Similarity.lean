/-
  How much two texts are alike.

  The longest piece that both hold is found, then the longest pieces before it and after it, and so
  on.  Texts are alike by the share of these pieces in both of them together.
-/
import VeiledGateway.Text.Search

set_option autoImplicit false

namespace VeiledGateway.Text

/-- How many code points two texts begin with in common. -/
def commonLead : Text → Text → Nat
  | c :: s, d :: t => if c == d then commonLead s t + 1 else 0
  | _, _ => 0

/-- A piece that two texts have in common: where it begins in each, and how long it is. -/
structure CommonPiece where
  left : Nat
  right : Nat
  size : Nat
deriving DecidableEq

/-- The longer of two pieces, or the first one. -/
def CommonPiece.longer (p q : CommonPiece) : CommonPiece :=
  if p.size < q.size then q else p

/-- The longest common piece: of several the first in `s`, and of those the first in `t`. -/
def longestPiece (s t : Text) : CommonPiece :=
  let pieces := (List.range s.length).flatMap fun i =>
    (List.range t.length).map fun j => CommonPiece.mk i j (commonLead (s.drop i) (t.drop j))
  pieces.foldl CommonPiece.longer ⟨0, 0, 0⟩

/-- How long the common pieces are in all; `depth` bounds how many lie between each other. -/
def commonWithin : Nat → Text → Text → Nat
  | 0, _, _ => 0
  | depth + 1, s, t =>
    let p := longestPiece s t
    if p.size = 0 then 0
    else
      commonWithin depth (s.take p.left) (t.take p.right) + p.size
        + commonWithin depth (s.drop (p.left + p.size)) (t.drop (p.right + p.size))

/-- How long the common pieces of two texts are in all. -/
def common (s t : Text) : Nat :=
  commonWithin s.length s t

/-- The share of what two texts have in common, of both together. -/
def likeness (s t : Text) : Rat :=
  if s.length + t.length = 0 then 1
  else mkRat (2 * common s t) (s.length + t.length)

/-- The least likeness of texts that are alike. -/
def leastLikeness : Rat := mkRat 3 5

/-- How many similar texts are named at most. -/
def mostAlike : Nat := 3

/-- The texts of a list that are most like a text, in their own order. -/
def similarTo (t : Text) (known : List Text) : List Text :=
  let alike := (known.map fun s => (likeness s t, s)).filter fun p => leastLikeness ≤ p.1
  let before (p q : Rat × Text) : Bool := q.1 < p.1 || (p.1 = q.1 && Text.le q.2 p.2)
  (((alike.mergeSort before).take mostAlike).map Prod.snd).mergeSort Text.le

end VeiledGateway.Text
