/-
  Code points and text.

  A text is a list of code points, and a code point may be a lone half of a surrogate pair:
  string escapes of documents and records can name such halves, so the scalar values of
  `Char` are not enough.  `Text.ofString` embeds ordinary strings.
-/

set_option autoImplicit false

namespace VeiledGateway

/-- A code point, surrogate halves included. -/
structure CodePoint where
  val : Nat
  isLt : val < 0x110000
deriving DecidableEq

namespace CodePoint

def ofChar (c : Char) : CodePoint :=
  ⟨c.toNat, by
    have h := c.valid
    unfold Char.toNat
    rcases h with h | h
    · exact Nat.lt_trans h (by decide)
    · exact h.2⟩

instance : Coe Char CodePoint := ⟨ofChar⟩

instance : Inhabited CodePoint := ⟨ofChar ' '⟩

/-- What stands for a code that names no code point. -/
def replacement : CodePoint := ofChar '\uFFFD'

def ofNat? (n : Nat) : Option CodePoint :=
  if h : n < 0x110000 then some ⟨n, h⟩ else none

/-- The code point of a number; numbers beyond the last code point give the replacement. -/
def ofNat (n : Nat) : CodePoint :=
  (ofNat? n).getD replacement

theorem ofNat_val (c : CodePoint) : ofNat c.val = c := by
  simp [ofNat, ofNat?, c.isLt]

theorem eq_of_val {c d : CodePoint} (h : c.val = d.val) : c = d := by
  rw [← ofNat_val c, h, ofNat_val]

/-- A half of a surrogate pair. -/
def isSurrogate (c : CodePoint) : Bool :=
  0xD800 ≤ c.val && c.val ≤ 0xDFFF

def isHighSurrogate (c : CodePoint) : Bool :=
  0xD800 ≤ c.val && c.val ≤ 0xDBFF

def isLowSurrogate (c : CodePoint) : Bool :=
  0xDC00 ≤ c.val && c.val ≤ 0xDFFF

/-- A scalar value: a code point that is no surrogate half. -/
def isScalar (c : CodePoint) : Bool :=
  !c.isSurrogate

def toChar (c : CodePoint) : Char :=
  if c.isSurrogate then '\uFFFD' else Char.ofNat c.val

def isAscii (c : CodePoint) : Bool :=
  c.val < 0x80

/-- A digit `0` to `9`. -/
def isAsciiDigit (c : CodePoint) : Bool :=
  0x30 ≤ c.val && c.val ≤ 0x39

def isAsciiLower (c : CodePoint) : Bool :=
  0x61 ≤ c.val && c.val ≤ 0x7A

def isAsciiUpper (c : CodePoint) : Bool :=
  0x41 ≤ c.val && c.val ≤ 0x5A

def isAsciiLetter (c : CodePoint) : Bool :=
  c.isAsciiLower || c.isAsciiUpper

/-- The value of a hexadecimal digit. -/
def hexValue? (c : CodePoint) : Option Nat :=
  if c.isAsciiDigit then some (c.val - 0x30)
  else if 0x61 ≤ c.val && c.val ≤ 0x66 then some (c.val - 0x57)
  else if 0x41 ≤ c.val && c.val ≤ 0x46 then some (c.val - 0x37)
  else none

def isHexDigit (c : CodePoint) : Bool :=
  c.hexValue?.isSome

/-- The lower-case form of an ASCII letter; every other code point is left as it is. -/
def asciiLower (c : CodePoint) : CodePoint :=
  if c.isAsciiUpper then ofNat (c.val + 0x20) else c

/-- The upper-case form of an ASCII letter; every other code point is left as it is. -/
def asciiUpper (c : CodePoint) : CodePoint :=
  if c.isAsciiLower then ofNat (c.val - 0x20) else c

end CodePoint

/-- A text: a list of code points. -/
abbrev Text := List CodePoint

namespace Text

def ofString (s : String) : Text :=
  s.toList.map CodePoint.ofChar

instance : Coe String Text := ⟨ofString⟩

/-- The string of a text; a surrogate half becomes U+FFFD. -/
def toString (t : Text) : String :=
  String.ofList (t.map CodePoint.toChar)

/-- Equality with a string, by code points. -/
def eqString (t : Text) (s : String) : Bool :=
  t == ofString s

/-- Every code point is a scalar value, so the text has an encoding. -/
def IsScalar (t : Text) : Prop :=
  ∀ c ∈ t, c.isScalar = true

instance (t : Text) : Decidable t.IsScalar :=
  inferInstanceAs (Decidable (∀ c ∈ t, c.isScalar = true))

/-- Code-point order, by which names are sorted. -/
def le : Text → Text → Bool
  | [], _ => true
  | _ :: _, [] => false
  | a :: s, b :: t => a.val < b.val || (a.val == b.val && le s t)

/-- The lower-case hexadecimal digit of a number below 16. -/
def hexDigit (n : Nat) : CodePoint :=
  if n < 10 then CodePoint.ofNat (0x30 + n) else CodePoint.ofNat (0x57 + n)

/-- A number in hexadecimal, in at least `width` digits. -/
def hex (n : Nat) (width : Nat) : Text :=
  let digits := (Nat.toDigits 16 n).map CodePoint.ofChar
  List.replicate (width - digits.length) (CodePoint.ofChar '0') ++ digits

/-- A number in decimal. -/
def ofNat (n : Nat) : Text :=
  (Nat.toDigits 10 n).map CodePoint.ofChar

def ofInt (i : Int) : Text :=
  match i with
  | .ofNat n => ofNat n
  | .negSucc n => (CodePoint.ofChar '-') :: ofNat (n + 1)

end Text

end VeiledGateway
