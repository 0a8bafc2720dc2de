/-
  The MT19937 generator, seeded from an integer of any size, and the draws from it.
-/

set_option autoImplicit false

namespace VeiledGateway

/-- The generator: its words and the position of the next one. -/
structure Twister where
  words : Array UInt32
  next : Nat

namespace Twister

/-- Words that fill the state from one word. -/
def fill (seed : UInt32) : Array UInt32 :=
  (List.range 623).foldl
    (fun (words : Array UInt32) (i : Nat) =>
      let last : UInt32 := words.back?.getD 0
      words.push ((1812433253 : UInt32) * (last ^^^ (last >>> 30)) + UInt32.ofNat (i + 1)))
    #[seed]

/-- The state between steps of seeding: the words, a place among them, and a place in the key. -/
structure Seeding where
  words : Array UInt32
  place : Nat
  keyPlace : Nat

def Seeding.at (s : Seeding) (i : Nat) : UInt32 :=
  s.words[i]?.getD 0

/-- The place moves on; past the last word, the first takes its value and the second is next. -/
def Seeding.advance (s : Seeding) : Seeding :=
  if s.place + 1 < 624 then { s with place := s.place + 1 }
  else { s with words := s.words.set! 0 (s.at 623), place := 1 }

def Seeding.mixKey (key : Array UInt32) (s : Seeding) : Seeding :=
  let before := s.at (s.place - 1)
  let word := (s.at s.place ^^^ ((before ^^^ (before >>> 30)) * (1664525 : UInt32)))
    + (key[s.keyPlace]?.getD 0) + UInt32.ofNat s.keyPlace
  let s := { s with words := s.words.set! s.place word }
  let s := s.advance
  { s with keyPlace := if s.keyPlace + 1 < key.size then s.keyPlace + 1 else 0 }

def Seeding.mixPlace (s : Seeding) : Seeding :=
  let before := s.at (s.place - 1)
  let word := (s.at s.place ^^^ ((before ^^^ (before >>> 30)) * (1566083941 : UInt32))) - UInt32.ofNat s.place
  let s := { s with words := s.words.set! s.place word }
  s.advance

def repeatStep {α : Type} (step : α → α) : Nat → α → α
  | 0, a => a
  | n + 1, a => repeatStep step n (step a)

/-- The 32-bit words of a number, least significant first; zero has one word. -/
def keyWords (n : Nat) : List UInt32 :=
  go (n.log2 / 32 + 1) n
where
  go : Nat → Nat → List UInt32
    | 0, _ => []
    | fuel + 1, n => UInt32.ofNat (n % 0x100000000) :: go fuel (n / 0x100000000)

/-- The generator that the magnitude of an integer seeds. -/
def ofSeed (seed : Int) : Twister :=
  let key := (keyWords seed.natAbs).toArray
  let s : Seeding := ⟨fill 19650218, 1, 0⟩
  let s := repeatStep (Seeding.mixKey key) (max 624 key.size) s
  let s := repeatStep Seeding.mixPlace 623 s
  ⟨s.words.set! 0 0x80000000, 624⟩

/-- The next 624 words from the last ones. -/
def refill (words : Array UInt32) : Array UInt32 :=
  (List.range 624).foldl
    (fun (words : Array UInt32) (i : Nat) =>
      let high := words[i]?.getD 0
      let low := words[(i + 1) % 624]?.getD 0
      let far := words[(i + 397) % 624]?.getD 0
      let y := (high &&& 0x80000000) ||| (low &&& 0x7fffffff)
      let odd : UInt32 := if y &&& 1 = 1 then 0x9908b0df else 0
      words.set! i (far ^^^ (y >>> 1) ^^^ odd))
    words

def temper (y : UInt32) : UInt32 :=
  let y := y ^^^ (y >>> 11)
  let y := y ^^^ ((y <<< 7) &&& 0x9d2c5680)
  let y := y ^^^ ((y <<< 15) &&& 0xefc60000)
  y ^^^ (y >>> 18)

/-- A word of 32 random bits. -/
def word (t : Twister) : UInt32 × Twister :=
  if h : t.next < t.words.size then (temper t.words[t.next], { t with next := t.next + 1 })
  else
    let words := refill t.words
    (temper (words[0]?.getD 0), ⟨words, 1⟩)

/-- A number below three, from the two top bits of words; the fourth value is drawn again.  The
bound on the draws is beyond every run of rejections that the generator holds. -/
def belowThree (t : Twister) : Fin 3 × Twister :=
  go 20000 t
where
  go : Nat → Twister → Fin 3 × Twister
    | 0, t => (0, t)
    | fuel + 1, t =>
      let (y, t) := t.word
      let n := (y >>> 30).toNat
      if h : n < 3 then (⟨n, h⟩, t) else go fuel t

end Twister

end VeiledGateway
