/-
  Looking through a text for a pattern.

  `run` tries the ways in which a pattern matches at a spot, in order of preference, and gives the
  first one after which the rest of the work succeeds.
-/
import VeiledGateway.Pattern.Basic

set_option autoImplicit false

namespace VeiledGateway.Pattern

/-- A place in a text, and what the groups have found so far. -/
structure Spot where
  /-- What precedes, nearest first. -/
  before : Text
  after : Text
  found : List (Nat × Text)

namespace Spot

def position (s : Spot) : Nat :=
  s.before.length

def step (s : Spot) : Option (CodePoint × Spot) :=
  match s.after with
  | [] => none
  | c :: rest => some (c, { s with before := c :: s.before, after := rest })

/-- The spot `n` code points earlier. -/
def back (s : Spot) : Nat → Option Spot
  | 0 => some s
  | n + 1 =>
    match s.before with
    | [] => none
    | c :: rest => back { s with before := rest, after := c :: s.after } n

def wordBefore (ascii : Bool) (s : Spot) : Bool :=
  match s.before with
  | c :: _ => Named.word.holds ascii c
  | [] => false

def wordAfter (ascii : Bool) (s : Spot) : Bool :=
  match s.after with
  | c :: _ => Named.word.holds ascii c
  | [] => false

def isEmptyText (s : Spot) : Bool :=
  s.before.isEmpty && s.after.isEmpty

end Spot

def Place.holds (mode : Mode) (place : Place) (s : Spot) : Bool :=
  match place with
  | .start => s.before.isEmpty
  | .lineStart => s.before.isEmpty || (mode.byLine && s.before.head? == some (CodePoint.ofChar '\n'))
  | .finish => s.after.isEmpty
  | .lineEnd =>
    s.after.isEmpty
      || (s.after.head? == some (CodePoint.ofChar '\n') && (mode.byLine || s.after.length == 1))
  | .boundary => s.wordBefore mode.ascii != s.wordAfter mode.ascii
  | .inside => !s.isEmptyText && s.wordBefore mode.ascii == s.wordAfter mode.ascii

/-- What is tried after a pattern has matched. -/
abbrev Next := Spot → Option Spot

/-- The spot behind `t`, if `t` stands here. -/
def again? (mode : Mode) : Text → Spot → Option Spot
  | [], s => some s
  | c :: t, s =>
    match s.step with
    | none => none
    | some (d, s) =>
      let same :=
        if mode.ignoreCase then
          if mode.ascii then c.asciiLower == d.asciiLower else c.simpleLower == d.simpleLower
        else c == d
      if same then again? mode t s else none

/-- The repetitions of `body`, where `done` are behind and the last of them that was free to stop
began at `mark`. -/
def repeatFrom (greed : Greed) (least : Nat) (most : Option Nat) (body : Spot → Next → Option Spot) :
    Nat → Nat → Option Nat → Spot → Next → Option Spot
  | 0, _, _, s, next => next s
  | fuel + 1, done, mark, s, next =>
    if done < least then
      match greed with
      | .all =>
        match body s some with
        | some s => repeatFrom greed least most body fuel (done + 1) mark s next
        | none => none
      | _ => body s fun s => repeatFrom greed least most body fuel (done + 1) mark s next
    else
      let open? := (match most with | some m => done < m | none => true) && mark != some s.position
      let more (_ : Unit) : Option Spot :=
        if open? then
          match greed with
          | .all => none
          | _ =>
            body s fun s' => repeatFrom greed least most body fuel (done + 1) (some s.position) s' next
        else none
      match greed with
      | .most =>
        match more () with
        | some s => some s
        | none => next s
      | .least =>
        match next s with
        | some s => some s
        | none => more ()
      | .all =>
        if open? then
          match body s some with
          | some s' =>
            repeatFrom greed least most body fuel (done + 1) (some s.position) s' next
          | none => next s
        else next s

/-- The spot at which `next` ends after a match of the pattern here. -/
def run : Pattern → Spot → Next → Option Spot
  | .empty, s, next => next s
  | .code test, s, next =>
    match s.step with
    | some (c, s) => if test.holds c then next s else none
    | none => none
  | .anything dotAll, s, next =>
    match s.step with
    | some (c, s) => if dotAll || c != '\n' then next s else none
    | none => none
  | .place mode p, s, next => if p.holds mode s then next s else none
  | .seq a b, s, next => run a s fun s => run b s next
  | .either a b, s, next =>
    match run a s next with
    | some s => some s
    | none => run b s next
  | .repeated greed least most body, s, next =>
    repeatFrom greed least most (run body) (least + s.after.length + 2) 0 none s next
  | .group number body, s, next =>
    run body s fun s' =>
      let found := (s'.before.take (s'.position - s.position)).reverse
      next { s' with found := (number, found) :: s'.found }
  | .again mode number, s, next =>
    match s.found.lookup number with
    | none => none
    | some t =>
      match again? mode t s with
      | some s => next s
      | none => none
  | .look back wanted body, s, next =>
    let result := match s.back (back.getD 0) with
      | some earlier => run body earlier some
      | none => none
    match result with
    | some inner => if wanted then next { s with found := inner.found } else none
    | none => if wanted then none else next s
  | .atomic body, s, next =>
    match run body s some with
    | some s => next s
    | none => none
  | .ifGroup number yes no, s, next =>
    if (s.found.lookup number).isSome then run yes s next else run no s next

/-- The first spot from here on at which the pattern matches. -/
def firstMatch (p : Pattern) (found : List (Nat × Text)) : Text → Text → Option Spot
  | before, [] => run p ⟨before, [], found⟩ some
  | before, c :: rest =>
    match run p ⟨before, c :: rest, found⟩ some with
    | some s => some s
    | none => firstMatch p found (c :: before) rest

/-- The pattern matches somewhere in the text. -/
def isFoundIn (p : Pattern) (t : Text) : Bool :=
  (firstMatch p [] [] t).isSome

end VeiledGateway.Pattern
