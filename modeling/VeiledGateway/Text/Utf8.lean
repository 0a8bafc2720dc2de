/-
  The UTF-8 encoding of texts.

  A surrogate half has no encoding, so `encode` may fail, and then names the position of the
  first one.  Decoding is read one sequence at a time: `decode` refuses the first bad one, and
  `decodeLossy` puts the replacement in its place.
-/
import VeiledGateway.Text.CodePoint

set_option autoImplicit false

namespace VeiledGateway.Utf8

/-- The bytes of one scalar value. -/
def encodeCode (c : CodePoint) : List UInt8 :=
  let n := c.val
  if n < 0x80 then [UInt8.ofNat n]
  else if n < 0x800 then [UInt8.ofNat (0xC0 + n / 0x40), UInt8.ofNat (0x80 + n % 0x40)]
  else if n < 0x10000 then
    [UInt8.ofNat (0xE0 + n / 0x1000), UInt8.ofNat (0x80 + n / 0x40 % 0x40),
      UInt8.ofNat (0x80 + n % 0x40)]
  else
    [UInt8.ofNat (0xF0 + n / 0x40000), UInt8.ofNat (0x80 + n / 0x1000 % 0x40),
      UInt8.ofNat (0x80 + n / 0x40 % 0x40), UInt8.ofNat (0x80 + n % 0x40)]

/-- A text that has no encoding: its first run of surrogate halves, as `first`, begins at
`position` and has `length` of them. -/
structure EncodeFault where
  position : Nat
  first : CodePoint
  length : Nat
deriving DecidableEq

def EncodeFault.message (fault : EncodeFault) : Text :=
  if fault.length = 1 then
    ("'utf-8' codec can't encode character '\\u" : Text) ++ Text.hex fault.first.val 4
      ++ ("' in position " : Text) ++ Text.ofNat fault.position
      ++ (": surrogates not allowed" : Text)
  else
    ("'utf-8' codec can't encode characters in position " : Text) ++ Text.ofNat fault.position
      ++ ("-" : Text) ++ Text.ofNat (fault.position + fault.length - 1)
      ++ (": surrogates not allowed" : Text)

def encodeFrom (position : Nat) : Text → Except EncodeFault (List UInt8)
  | [] => .ok []
  | c :: rest =>
    if c.isSurrogate then
      .error ⟨position, c, ((c :: rest).takeWhile CodePoint.isSurrogate).length⟩
    else
      match encodeFrom (position + 1) rest with
      | .ok bytes => .ok (encodeCode c ++ bytes)
      | .error fault => .error fault

/-- The encoding of a text without surrogate halves. -/
def encode (t : Text) : Except EncodeFault (List UInt8) :=
  encodeFrom 0 t

/-- The encoding of a text, each surrogate half as the replacement. -/
def encodeLossy (t : Text) : List UInt8 :=
  t.flatMap fun c => encodeCode (if c.isSurrogate then CodePoint.replacement else c)

/-- Why bytes are no encoding. -/
inductive Reason where
  | start
  | continuation
  | truncated
deriving DecidableEq

def Reason.message : Reason → String
  | .start => "invalid start byte"
  | .continuation => "invalid continuation byte"
  | .truncated => "unexpected end of data"

/-- Bytes that are no encoding: `length` bytes, the first of them `byte`. -/
structure DecodeFault where
  position : Nat
  byte : UInt8
  length : Nat
  reason : Reason
deriving DecidableEq

def DecodeFault.message (fault : DecodeFault) : Text :=
  if fault.length = 1 then
    ("'utf-8' codec can't decode byte 0x" : Text) ++ Text.hex fault.byte.toNat 2
      ++ (" in position " : Text) ++ Text.ofNat fault.position ++ (": " : Text)
      ++ (fault.reason.message : Text)
  else
    ("'utf-8' codec can't decode bytes in position " : Text) ++ Text.ofNat fault.position
      ++ ("-" : Text) ++ Text.ofNat (fault.position + fault.length - 1) ++ (": " : Text)
      ++ (fault.reason.message : Text)

/-- One decoded sequence, as the code and the bytes used, or what is wrong with so many bytes. -/
inductive Step where
  | code (c : CodePoint) (used : Nat)
  | bad (reason : Reason) (used : Nat)

def isContinuation (b : UInt8) : Bool :=
  0x80 ≤ b && b ≤ 0xBF

/-- The least and the greatest second byte after a first byte of three or four. -/
def secondRange (b : UInt8) : UInt8 × UInt8 :=
  if b = 0xE0 then (0xA0, 0xBF)
  else if b = 0xED then (0x80, 0x9F)
  else if b = 0xF0 then (0x90, 0xBF)
  else if b = 0xF4 then (0x80, 0x8F)
  else (0x80, 0xBF)

/-- The value of a byte without its leading marker bits. -/
def payload (b : UInt8) (modulus : Nat) : Nat :=
  b.toNat % modulus

def step (b : UInt8) (rest : List UInt8) : Step :=
  if b < 0x80 then .code (CodePoint.ofNat b.toNat) 1
  else if b < 0xC2 || 0xF4 < b then .bad .start 1
  else if b < 0xE0 then
    match rest with
    | [] => .bad .truncated 1
    | b1 :: _ =>
      if isContinuation b1 then .code (CodePoint.ofNat (payload b 0x20 * 0x40 + payload b1 0x40)) 2
      else .bad .continuation 1
  else
    let range := secondRange b
    match rest with
    | [] => .bad .truncated 1
    | b1 :: rest1 =>
      if b1 < range.1 || range.2 < b1 then .bad .continuation 1
      else
        match rest1 with
        | [] => .bad .truncated 2
        | b2 :: rest2 =>
          if !isContinuation b2 then .bad .continuation 2
          else if b < 0xF0 then
            .code (CodePoint.ofNat
              (payload b 0x10 * 0x1000 + payload b1 0x40 * 0x40 + payload b2 0x40)) 3
          else
            match rest2 with
            | [] => .bad .truncated 3
            | b3 :: _ =>
              if isContinuation b3 then
                .code (CodePoint.ofNat
                  (payload b 0x08 * 0x40000 + payload b1 0x40 * 0x1000 + payload b2 0x40 * 0x40
                    + payload b3 0x40)) 4
              else .bad .continuation 3

def decodeFrom (position : Nat) : Nat → List UInt8 → Except DecodeFault Text
  | 0, _ => .ok []
  | _, [] => .ok []
  | fuel + 1, b :: rest =>
    match step b rest with
    | .code c used => (decodeFrom (position + used) fuel (rest.drop (used - 1))).map (c :: ·)
    | .bad reason used => .error ⟨position, b, used, reason⟩

/-- The text that the bytes encode; the first bad sequence is refused. -/
def decode (bytes : List UInt8) : Except DecodeFault Text :=
  decodeFrom 0 bytes.length bytes

def decodeLossyFrom : Nat → List UInt8 → Text
  | 0, _ => []
  | _, [] => []
  | fuel + 1, b :: rest =>
    match step b rest with
    | .code c used => c :: decodeLossyFrom fuel (rest.drop (used - 1))
    | .bad _ used => CodePoint.replacement :: decodeLossyFrom fuel (rest.drop (used - 1))

/-- The text that the bytes encode, with the replacement for each bad sequence. -/
def decodeLossy (bytes : List UInt8) : Text :=
  decodeLossyFrom bytes.length bytes

end VeiledGateway.Utf8
