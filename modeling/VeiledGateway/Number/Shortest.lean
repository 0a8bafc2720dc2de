/-
  The shortest decimal numeral that reads back as a given floating-point number, the spelling of
  floating-point numbers in records, logs and settings, and their exact values.
-/
import VeiledGateway.Text.CodePoint

set_option autoImplicit false

namespace VeiledGateway.Shortest

/-- A positive number `mantissa · 2 ^ exponent` and the interval of reals that round to it, the
bounds in quarters of the last place of the mantissa. -/
structure Target where
  mantissa : Nat
  exponent : Int
  below : Nat
  above : Nat

/-- The magnitude of a finite floating-point number, from its bits. -/
def Target.ofBits (bits : Nat) : Target :=
  let fraction : Nat := bits % 0x10000000000000
  let scale : Nat := bits / 0x10000000000000 % 0x800
  if scale = 0 then ⟨fraction, -1074, 2, 2⟩
  else
    let mantissa : Nat := fraction + 0x10000000000000
    ⟨mantissa, (scale : Int) - 1075, if fraction = 0 ∧ 1 < scale then 1 else 2, 2⟩

/-- `n · 2 ^ twos · 10 ^ tens` as a quotient of natural numbers. -/
def scaled (n : Nat) (twos tens : Int) : Nat × Nat :=
  (n * Nat.pow 2 twos.toNat * Nat.pow 10 tens.toNat,
    Nat.pow 2 (-twos).toNat * Nat.pow 10 (-tens).toNat)

/-- `c` times the power of ten lies in the interval of `target`. -/
def Target.admits (target : Target) (c : Nat) (tens : Int) : Bool :=
  let quarter := 4 * target.mantissa
  let low := scaled (quarter - target.below) (target.exponent - 2) (-tens)
  let high := scaled (quarter + target.above) (target.exponent - 2) (-tens)
  if target.mantissa % 2 = 0 then low.1 ≤ c * low.2 && c * high.2 ≤ high.1
  else low.1 < c * low.2 && c * high.2 < high.1

/-- The multiple of the power of ten that is in the interval and nearest to the number. -/
def Target.onGrid? (target : Target) (tens : Int) : Option Nat :=
  let exact := scaled target.mantissa target.exponent (-tens)
  let floor := exact.1 / exact.2
  let lowFits := 0 < floor && target.admits floor tens
  let highFits := target.admits (floor + 1) tens
  if lowFits && highFits then
    let rest := exact.1 % exact.2
    if 2 * rest < exact.2 ∨ (2 * rest = exact.2 ∧ floor % 2 = 0) then some floor
    else some (floor + 1)
  else if lowFits then some floor
  else if highFits then some (floor + 1)
  else none

/-- The first grid, from coarse to fine, with a point in the interval. -/
def Target.search (target : Target) : Nat → Int → Nat × Int
  | 0, tens => (target.mantissa, tens)
  | fuel + 1, tens =>
    match target.onGrid? tens with
    | some c => (c, tens)
    | none => target.search fuel (tens - 1)

/-- The digits and the power of ten of the shortest numeral of a positive finite number. -/
def digits (x : Float) : Nat × Int :=
  (Target.ofBits x.abs.toBits.toNat).search 640 309

/-- The spelling of a floating-point number: positional from `0.0001` up to below ten to the
sixteenth, with a point in it, and otherwise with an exponent of at least two digits. -/
def spell (x : Float) : Text :=
  if x.isNaN then "nan"
  else
    let sign : Text := if x.toBits.toNat < 0x8000000000000000 then "" else "-"
    if x.isInf then sign ++ ("inf" : Text)
    else if x == 0 then sign ++ ("0.0" : Text)
    else
      let (c, tens) := digits x
      let ds := Text.ofNat c
      let point : Int := ds.length + tens
      if -4 < point ∧ point ≤ 16 then
        if point ≤ 0 then
          sign ++ ("0." : Text) ++ List.replicate (-point).toNat (CodePoint.ofChar '0') ++ ds
        else if ds.length ≤ point.toNat then
          sign ++ ds ++ List.replicate (point.toNat - ds.length) (CodePoint.ofChar '0') ++ (".0" : Text)
        else
          sign ++ ds.take point.toNat ++ ("." : Text) ++ ds.drop point.toNat
      else
        let mark : Text := if point - 1 < 0 then "e-" else "e+"
        let size := Text.ofNat (point - 1).natAbs
        let exponent := if size.length < 2 then ("0" : Text) ++ size else size
        let lead := ds.take 1
        let tail := ds.drop 1
        sign ++ lead ++ (if tail.isEmpty then [] else ("." : Text) ++ tail) ++ mark ++ exponent

end VeiledGateway.Shortest

namespace VeiledGateway.Exact

/-- The value of a finite floating-point number. -/
def ofFloat? (x : Float) : Option Rat :=
  if x.isNaN || x.isInf then none
  else
    let target := Shortest.Target.ofBits (x.toBits.toNat % 0x8000000000000000)
    let size := mkRat (target.mantissa * Nat.pow 2 target.exponent.toNat)
      (Nat.pow 2 (-target.exponent).toNat)
    some (if x.toBits.toNat < 0x8000000000000000 then size else -size)

/-- A value without a fraction. -/
def whole? (r : Rat) : Option Int :=
  if r.den = 1 then some r.num else none

end VeiledGateway.Exact
