/-
  Cutting and searching texts: prefixes, trimming, splitting and joining.
-/
import VeiledGateway.Unicode.Property

set_option autoImplicit false

namespace VeiledGateway.Text

/-- What follows `lead` in `t`, if `t` begins with it. -/
def dropPrefix? : Text → Text → Option Text
  | t, [] => some t
  | [], _ :: _ => none
  | c :: t, d :: lead => if c = d then dropPrefix? t lead else none

def startsWith (t lead : Text) : Bool :=
  (dropPrefix? t lead).isSome

def endsWith (t tail : Text) : Bool :=
  startsWith t.reverse tail.reverse

/-- What precedes `tail` in `t`, if `t` ends with it. -/
def dropSuffix? (t tail : Text) : Option Text :=
  (dropPrefix? t.reverse tail.reverse).map List.reverse

def trimLeft (t : Text) : Text :=
  t.dropWhile CodePoint.isBlank

def trimRight (t : Text) : Text :=
  (t.reverse.dropWhile CodePoint.isBlank).reverse

/-- The text without the blanks at its ends. -/
def trim (t : Text) : Text :=
  trimRight (trimLeft t)

/-- The text without the code points of a class at its ends. -/
def trimWhere (p : CodePoint → Bool) (t : Text) : Text :=
  ((t.dropWhile p).reverse.dropWhile p).reverse

/-- The parts before and after the first place where `sep` stands. -/
def cutAt? (sep : Text) : Text → Option (Text × Text)
  | [] => if sep.isEmpty then some ([], []) else none
  | c :: rest =>
    match dropPrefix? (c :: rest) sep with
    | some after => some ([], after)
    | none => (cutAt? sep rest).map fun parts => (c :: parts.1, parts.2)

def contains (t sought : Text) : Bool :=
  (cutAt? sought t).isSome

/-- The part before the first `c`, and the part after it if there is one. -/
def cutAtCode (c : CodePoint) : Text → Text × Option Text
  | [] => ([], none)
  | d :: rest =>
    if d = c then ([], some rest)
    else
      let parts := cutAtCode c rest
      (d :: parts.1, parts.2)

/-- The parts before and after the last `c`. -/
def cutAtLast? (c : CodePoint) (t : Text) : Option (Text × Text) :=
  match cutAtCode c t.reverse with
  | (tail, some lead) => some (lead.reverse, tail.reverse)
  | (_, none) => none

/-- The fields between the separators `c`; a text without one is one field. -/
def fields (c : CodePoint) : Text → List Text
  | [] => [[]]
  | d :: rest =>
    if d = c then [] :: fields c rest
    else
      match fields c rest with
      | [] => [[d]]
      | first :: others => (d :: first) :: others

/-- The words between code points of a class, none of them empty. -/
def wordsWhere (p : CodePoint → Bool) : Text → List Text
  | [] => []
  | c :: rest =>
    if p c then wordsWhere p rest
    else
      match rest with
      | [] => [[c]]
      | d :: _ =>
        if p d then [c] :: wordsWhere p rest
        else
          match wordsWhere p rest with
          | [] => [[c]]
          | first :: others => (c :: first) :: others

/-- The words between blanks. -/
def words (t : Text) : List Text :=
  wordsWhere CodePoint.isBlank t

/-- The parts, with `sep` between each two. -/
def join (sep : Text) : List Text → Text
  | [] => []
  | [t] => t
  | t :: rest => t ++ sep ++ join sep rest

/-- Every place where `sought` stands is given `new`; `sought` is not empty. -/
def replace (sought new : Text) (t : Text) : Text :=
  go (t.length + 1) t
where
  go : Nat → Text → Text
    | 0, t => t
    | fuel + 1, t =>
      match cutAt? sought t with
      | none => t
      | some (before, after) => before ++ new ++ go fuel after

/-- The text filled up with `c` on the right to at least `width` code points. -/
def padRight (t : Text) (width : Nat) (c : CodePoint) : Text :=
  t ++ List.replicate (width - t.length) c

def padLeft (t : Text) (width : Nat) (c : CodePoint) : Text :=
  List.replicate (width - t.length) c ++ t

/-- How far from the beginning a position is; a negative one counts from the end. -/
def place (t : Text) (i : Int) : Nat :=
  if i < 0 then (t.length + i).toNat else i.toNat

/-- The part of `t` from position `start` up to position `stop`, either of which may lie beyond the
end. -/
def slice (t : Text) (start stop : Int) : Text :=
  let first := place t start
  (t.drop first).take (place t stop - first)

end VeiledGateway.Text
