/-
  Layouts: how a text is cut into pieces.

  A layout is a text of decimal digits, one for the length of each piece.  `choose` draws lengths
  from one to three until the text is covered; `split` cuts a text by a layout, and takes one that
  is too short or too long: what is left over is the last piece.
-/
import VeiledGateway.Random.Twister
import VeiledGateway.Unicode.Property

set_option autoImplicit false

namespace VeiledGateway.Layout

/-- A source of piece lengths: from a state, a number below three, which is one less than the
length, and the state after the draw. -/
abbrev Draw (σ : Type) := σ → Fin 3 × σ

/-- The digit of a number below ten. -/
def digit (n : Nat) : CodePoint :=
  CodePoint.ofNat (0x30 + n)

/-- The layout drawn for a text of `size` code points. -/
def choose {σ : Type} (draw : Draw σ) (size : Nat) (state : σ) : Text × σ :=
  if _h : size = 0 then ([], state)
  else
    let (n, state) := draw state
    let length := min (n.val + 1) size
    let (rest, state) := choose draw (size - length) state
    (digit length :: rest, state)
termination_by size
decreasing_by omega

/-- The pieces of a text by a layout; a code point of the layout that is no digit is refused when
its turn comes before the text is used up. -/
def split (t layout : Text) : Except CodePoint (List Text) :=
  match layout with
  | [] => .ok (if t.isEmpty then [] else [t])
  | c :: rest =>
    if t.isEmpty then .ok []
    else
      match c.digitValue? with
      | none => .error c
      | some n => (split (t.drop n) rest).map (t.take n :: ·)

end VeiledGateway.Layout
