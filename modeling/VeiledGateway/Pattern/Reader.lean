/-
  Reading a pattern from its text.

  The text is taken in tokens: a code point, or a backslash and the code point after it.
-/
import VeiledGateway.Number.Integer
import VeiledGateway.Pattern.Basic
import VeiledGateway.Pattern.Fault

set_option autoImplicit false

namespace VeiledGateway.Pattern

/-- The least and the greatest number of code points that a pattern matches. -/
abbrev Width := Nat × Nat

/-- A width that stands for every greater one. -/
def unboundedWidth : Nat := 0x10000000000000000

/-- The largest count of repetitions that can be written, and one more. -/
def countLimit : Nat := 0xFFFFFFFF

def width (closed : List (Nat × Width)) : Pattern → Width
  | .empty => (0, 0)
  | .code _ => (1, 1)
  | .anything _ => (1, 1)
  | .place _ _ => (0, 0)
  | .seq a b =>
    let (la, ha) := width closed a
    let (lb, hb) := width closed b
    (min (la + lb) unboundedWidth, min (ha + hb) unboundedWidth)
  | .either a b =>
    let (la, ha) := width closed a
    let (lb, hb) := width closed b
    (min la lb, max ha hb)
  | .repeated _ least most body =>
    let (l, h) := width closed body
    let high := match most with
      | some m => h * m
      | none => if h = 0 then 0 else unboundedWidth
    (min (l * least) unboundedWidth, min high unboundedWidth)
  | .group _ body => width closed body
  | .again _ number => (closed.lookup number).getD (0, 0)
  | .look _ _ _ => (0, 0)
  | .atomic body => width closed body
  | .ifGroup _ yes no =>
    let (ly, hy) := width closed yes
    let (ln, hn) := width closed no
    (min ly ln, max hy hn)

/-- How far a pattern has been read. -/
structure Reading where
  rest : Text
  size : Nat
  /-- The number of the next group. -/
  groups : Nat
  names : List (Text × Nat)
  closed : List (Nat × Width)
  /-- The number of the first group inside the outermost look behind. -/
  behind : Option Nat
  /-- Groups asked for by number in conditions, and where. -/
  asked : List (Nat × Nat)
  /-- The mode of the whole pattern. -/
  mode : Mode
  variableBehind : Bool

abbrev Read := StateT Reading (Except Fault)

namespace Read

/-- The token at the beginning of a text; nothing at its end. -/
def tokenOf : Text → Text
  | [] => []
  | c :: rest => if c == '\\' then c :: rest.take 1 else [c]

/-- The next token. -/
def peek : Read Text :=
  return tokenOf (← get).rest

/-- How many code points precede the next token. -/
def position : Read Nat := do
  let s ← get
  return s.size - s.rest.length

def failAt {α : Type} (place : Nat) (problem : Problem) : Read α :=
  throw ⟨problem, some place⟩

/-- Refuse the pattern `offset` code points before the next token. -/
def fail {α : Type} (problem : Problem) (offset : Nat) : Read α := do
  failAt ((← position) - offset) problem

/-- A backslash that nothing follows is refused as soon as it is the next token. -/
def check : Read Unit := do
  let s ← get
  if (tokenOf s.rest).length == 1 && s.rest.head? == some (CodePoint.ofChar '\\') then
    failAt (s.size - 1) .loneBackslash

/-- Take the next token. -/
def take : Read Text := do
  let s ← get
  let token := tokenOf s.rest
  set { s with rest := s.rest.drop token.length }
  check
  return token

def nextIs (s : String) : Read Bool :=
  return Text.eqString (← peek) s

/-- Take the next token if it is `s`. -/
def accept (s : String) : Read Bool := do
  if ← nextIs s then
    let _ ← take
    return true
  else return false

/-- A token of one code point of a class. -/
def isOne (p : CodePoint → Bool) : Text → Bool
  | [c] => p c
  | _ => false

def isOctal (c : CodePoint) : Bool :=
  0x30 ≤ c.val && c.val ≤ 0x37

/-- At most `n` tokens of a class. -/
def takeWhere (p : CodePoint → Bool) : Nat → Read Text
  | 0 => return []
  | n + 1 => do
    if isOne p (← peek) then
      let token ← take
      return token ++ (← takeWhere p n)
    else return []

/-- What precedes the closing token of a name. -/
def takeName (closing what : String) : Read Text := do
  go ((← get).rest.length + 1) []
where
  go : Nat → Text → Read Text
    | 0, _ => fail (.missing what) 0
    | fuel + 1, name => do
      let token ← take
      if token.isEmpty then
        if name.isEmpty then fail (.missing what) 0
        else fail (.unterminatedName closing) name.length
      else if Text.eqString token closing then
        if name.isEmpty then fail (.missing what) 1 else return name
      else go fuel (name ++ token)

def isName (name : Text) : Bool :=
  match name with
  | [] => false
  | c :: rest =>
    (c.isLetter || c == '_')
      && rest.all fun d => d.isLetter || d.isMark || d.isConnector || d.digitValue?.isSome

def checkName (name : Text) : Read Unit := do
  unless isName name do fail (.badGroupName name) (name.length + 1)

def checkOpen (number offset : Nat) : Read Unit := do
  let s ← get
  unless (s.closed.lookup number).isSome do fail .openGroup offset

/-- Inside a look behind only groups from before it can be asked for. -/
def checkBehind (number : Nat) : Read Unit := do
  let s ← get
  match s.behind with
  | none => pure ()
  | some first =>
    checkOpen number 0
    if first ≤ number then fail .lookBehindGroup 0

def hexNumber (digits : Text) : Nat :=
  digits.foldl (fun n d => n * 16 + d.hexValue?.getD 0) 0

def octalNumber (digits : Text) : Nat :=
  digits.foldl (fun n d => n * 8 + d.digitValue?.getD 0) 0

def decimalNumber (digits : Text) : Nat :=
  digits.foldl (fun n d => n * 10 + d.digitValue?.getD 0) 0

/-- What an escape stands for. -/
inductive Escape where
  | code (n : Nat)
  | named (cls : Named) (complement : Bool)
  | place (p : Place)
  | again (number : Nat)

def controlEscape? (c : CodePoint) : Option Nat :=
  if c == 'a' then some 7
  else if c == 'b' then some 8
  else if c == 'f' then some 12
  else if c == 'n' then some 10
  else if c == 'r' then some 13
  else if c == 't' then some 9
  else if c == 'v' then some 11
  else if c == '\\' then some 0x5C
  else none

def namedEscape? (c : CodePoint) : Option Escape :=
  if c == 'd' then some (.named .digit false)
  else if c == 'D' then some (.named .digit true)
  else if c == 's' then some (.named .blank false)
  else if c == 'S' then some (.named .blank true)
  else if c == 'w' then some (.named .word false)
  else if c == 'W' then some (.named .word true)
  else none

def placeEscape? (c : CodePoint) : Option Escape :=
  if c == 'A' then some (.place .start)
  else if c == 'Z' then some (.place .finish)
  else if c == 'b' then some (.place .boundary)
  else if c == 'B' then some (.place .inside)
  else none

/-- The number of exactly `count` hexadecimal digits that follow an escape. -/
def hexEscape (token : Text) (count : Nat) : Read Nat := do
  let digits ← takeWhere CodePoint.isHexDigit count
  if digits.length != count then
    fail (.incompleteEscape (token ++ digits)) (token.length + digits.length)
  return hexNumber digits

/-- The escapes by a number in hexadecimal or by a name, and letters and others that stand for
themselves or for nothing. -/
def commonEscape (token : Text) (c : CodePoint) : Read Escape := do
  if c == 'x' then return .code (← hexEscape token 2)
  else if c == 'u' then return .code (← hexEscape token 4)
  else if c == 'U' then
    let n ← hexEscape token 8
    if 0x10FFFF < n then fail (.badEscape (token ++ Text.hex n 8)) 10
    return .code n
  else if c == 'N' then
    unless ← accept "\x7b" do fail (.missing "\x7b") 0
    let name ← takeName "\x7d" "character name"
    fail (.unknownCharacter name) (name.length + 4)
  else if c.isAsciiLetter || c.isAsciiDigit then fail (.badEscape token) token.length
  else return .code c.val

/-- An escape in a set. -/
def setEscape (token : Text) : Read Escape := do
  let c := token.getLastD (CodePoint.ofChar '\\')
  match controlEscape? c, namedEscape? c with
  | some n, _ => return .code n
  | none, some escape => return escape
  | none, none =>
    if isOctal c then
      let digits ← takeWhere isOctal 2
      let n := octalNumber (c :: digits)
      if 0o377 < n then fail (.largeOctal (token ++ digits)) (token.length + digits.length)
      return .code n
    else commonEscape token c

/-- An escape that begins with a digit other than zero: a group, or a code in three octal
digits. -/
def numberEscape (token : Text) (c : CodePoint) : Read Escape := do
  let mut digits : Text := [c]
  if isOne CodePoint.isAsciiDigit (← peek) then
    digits := digits ++ (← take)
    if digits.all isOctal && isOne isOctal (← peek) then
      digits := digits ++ (← take)
      let n := octalNumber digits
      if 0o377 < n then fail (.largeOctal (token.take 1 ++ digits)) (digits.length + 1)
      return .code n
  let number := decimalNumber digits
  let s ← get
  if s.groups ≤ number then fail (.unknownNumber number) digits.length
  checkOpen number (digits.length + 1)
  checkBehind number
  return .again number

/-- An escape outside sets. -/
def escape (token : Text) : Read Escape := do
  let c := token.getLastD (CodePoint.ofChar '\\')
  match namedEscape? c, placeEscape? c, controlEscape? c with
  | some escape, _, _ => return escape
  | none, some escape, _ => return escape
  | none, none, some n => return .code n
  | none, none, none =>
    if c == '0' then return .code (octalNumber (← takeWhere isOctal 2))
    else if c.isAsciiDigit then numberEscape token c
    else commonEscape token c

def itemOf : Escape → Item
  | .named cls complement => .named cls complement
  | .code n => .range n n
  | .place _ => .range 0 0
  | .again _ => .range 0 0

/-- A member of a set. -/
def member (token : Text) : Read Escape :=
  match token with
  | [c] => return .code c.val
  | _ => setEscape token

/-- The items of a set, whose bracket is at `start`. -/
def setItems (start : Nat) : Nat → List Item → Read (List Item)
  | 0, _ => failAt start .unterminatedSet
  | fuel + 1, items => do
    let token ← take
    if token.isEmpty then failAt start .unterminatedSet
    if Text.eqString token "]" && !items.isEmpty then return items.reverse
    let first ← member token
    if ← accept "-" then
      let other ← take
      if other.isEmpty then failAt start .unterminatedSet
      if Text.eqString other "]" then
        return (Item.range 0x2D 0x2D :: itemOf first :: items).reverse
      let last ← member other
      match first, last with
      | .code low, .code high =>
        if high < low then fail (.badRange token other) (token.length + 1 + other.length)
        setItems start fuel (.range low high :: items)
      | _, _ => fail (.badRange token other) (token.length + 1 + other.length)
    else setItems start fuel (itemOf first :: items)

def set (mode : Mode) : Read Pattern := do
  let start := (← position) - 1
  let complement ← accept "^"
  let items ← setItems start ((← get).rest.length + 1) []
  return .code ⟨mode, complement, items⟩

/-- A change of mode that a flag makes. -/
structure Flags where
  on : List Char
  off : List Char

def isFlag (token : Text) : Bool :=
  isOne (fun c => "iLmsxatu".toList.any (c == ·)) token

def flagOf (token : Text) : Char :=
  ((token.map CodePoint.toChar).head?).getD ' '

def isTypeFlag (c : Char) : Bool :=
  c == 'a' || c == 'u' || c == 'L'

def isAlphabetic (token : Text) : Bool :=
  !token.isEmpty && token.all CodePoint.isLetter

/-- The flags that are turned off, to the colon after them. -/
def flagsOff : Nat → List Char → Text → Read (List Char)
  | 0, off, _ => return off
  | fuel + 1, off, token => do
    let flag := flagOf token
    if isTypeFlag flag then
      fail (.flag "bad inline flags: cannot turn off flags 'a', 'u' and 'L'") 0
    let off := flag :: off
    let token ← take
    if token.isEmpty then fail (.missing ":") 0
    if Text.eqString token ":" then return off
    unless isFlag token do
      fail (if isAlphabetic token then .flag "unknown flag" else .missing ":") token.length
    flagsOff fuel off token

/-- The flags that are turned on, and the token after them. -/
def flagsOn : Nat → List Char → Text → Read (List Char × Text)
  | 0, on, token => return (on, token)
  | fuel + 1, on, token => do
    let flag := flagOf token
    if flag == 'L' then
      fail (.flag "bad inline flags: cannot use 'L' flag with a str pattern") 0
    let on := flag :: on
    if isTypeFlag flag && on.any (fun c => isTypeFlag c && c != flag) then
      fail (.flag "bad inline flags: flags 'a', 'u' and 'L' are incompatible") 0
    let token ← take
    if token.isEmpty then fail (.missing "-, : or )") 0
    if Text.eqString token ")" || Text.eqString token "-" || Text.eqString token ":" then
      return (on, token)
    unless isFlag token do
      fail (if isAlphabetic token then .flag "unknown flag" else .missing "-, : or )") token.length
    flagsOn fuel on token

/-- The flags of a group from `token` on; `none` in place of what is turned off if they are those
of the whole pattern. -/
def flags (token : Text) : Read (List Char × Option (List Char)) := do
  let fuel := (← get).rest.length + 1
  let (on, token) ←
    if Text.eqString token "-" then pure ([], token) else flagsOn fuel [] token
  if Text.eqString token ")" then return (on, none)
  if on.contains 't' then fail (.flag "bad inline flags: cannot turn on global flag") 1
  if Text.eqString token "-" then
    let token ← take
    if token.isEmpty then fail (.missing "flag") 0
    unless isFlag token do
      fail (if isAlphabetic token then .flag "unknown flag" else .missing "flag") token.length
    let off ← flagsOff fuel [] token
    if off.contains 't' then fail (.flag "bad inline flags: cannot turn off global flag") 1
    if on.any off.contains then fail (.flag "bad inline flags: flag turned on and off") 1
    return (on, some off)
  else return (on, some [])

/-- The mode after flags have been turned on and off. -/
def changed (mode : Mode) (on off : List Char) : Mode :=
  let choose (flag : Char) (now : Bool) : Bool :=
    (now || on.contains flag) && !off.contains flag
  { ignoreCase := choose 'i' mode.ignoreCase
    byLine := choose 'm' mode.byLine
    dotAll := choose 's' mode.dotAll
    ascii := if on.contains 'u' then false else mode.ascii || on.contains 'a'
    spaced := choose 'x' mode.spaced }

/-- What an item of a sequence is to a sign of repetition after it. -/
inductive Role where
  | place
  | repeated
  | other
deriving DecidableEq

def sequence (items : List (Role × Pattern)) : Pattern :=
  items.foldl (fun after item => match after with
    | .empty => item.2
    | _ => .seq item.2 after) .empty

/-- The counts of a repetition in braces, if it is one. -/
def counts? : Read (Option (Nat × Option Nat)) := do
  let before ← get
  if ← nextIs "\x7d" then return none
  let fuel := before.rest.length
  let low ← takeWhere CodePoint.isAsciiDigit fuel
  let high ← if ← accept "," then takeWhere CodePoint.isAsciiDigit fuel else pure low
  if ← accept "\x7d" then
    let least := decimalNumber low
    let most := decimalNumber high
    if !low.isEmpty && countLimit ≤ least then throw ⟨.largeCount, none⟩
    if !high.isEmpty then
      if countLimit ≤ most then throw ⟨.largeCount, none⟩
      if most < least then
        failAt (before.size - before.rest.length) .leastAboveMost
    return some (least, if high.isEmpty then none else some most)
  else
    StateT.set before
    return none

/-- Give the last item of a sequence a sign of repetition, which stands `offset` code points
before the next token. -/
def repeatLast (signAt : Nat) (counts : Nat × Option Nat) (items : List (Role × Pattern)) :
    Read (List (Role × Pattern)) := do
  match items with
  | [] => failAt signAt .nothingToRepeat
  | (role, body) :: before =>
    if role = .place then failAt signAt .nothingToRepeat
    if role = .repeated then failAt signAt .repeatedTwice
    let greed ←
      if ← accept "?" then pure Greed.least
      else do
        if ← accept "+" then pure Greed.all else pure Greed.most
    return (.repeated, .repeated greed counts.1 counts.2 body) :: before

/-- To the end of a comment in a spaced pattern. -/
def skipLine : Nat → Read Unit
  | 0 => return ()
  | fuel + 1 => do
    let token ← take
    if token.isEmpty || Text.eqString token "\n" then return () else skipLine fuel

/-- To the end of a comment in parentheses, which open at `start`. -/
def skipComment (start : Nat) : Nat → Read Unit
  | 0 => return ()
  | fuel + 1 => do
    if (← peek).isEmpty then failAt start .unterminatedComment
    if Text.eqString (← take) ")" then return () else skipComment start fuel

def openGroup (name : Option Text) : Read Nat := do
  let s ← get
  let number := s.groups
  StateT.set { s with groups := number + 1 }
  match name with
  | none => return number
  | some name =>
    match s.names.lookup name with
    | some before => fail (.groupRedefined name number before) (name.length + 1)
    | none =>
      modify fun s => { s with names := (name, number) :: s.names }
      return number

def closeGroup (number : Nat) (body : Pattern) : Read Unit :=
  modify fun s => { s with closed := (number, width s.closed body) :: s.closed }

def closing (start : Nat) : Read Unit := do
  unless ← accept ")" do failAt start .unterminatedGroup

/-- The number of the group that a condition asks for. -/
def condition : Read Nat := do
  let name ← takeName ")" "group name"
  let number ←
    if isName name then do
      match (← get).names.lookup name with
      | some number => pure number
      | none => fail (.unknownGroupName name) (name.length + 1)
    else
      match Text.toInt? name with
      | some (.ofNat 0) => fail .badGroupNumber (name.length + 1)
      | some (.ofNat number) => do
        let place := (← position) - name.length - 1
        modify fun s =>
          if (s.asked.lookup number).isSome then s else { s with asked := (number, place) :: s.asked }
        pure number
      | _ => fail (.badGroupName name) (name.length + 1)
  checkBehind number
  return number

/-- A group that the text names, again. -/
def namedAgain (mode : Mode) : Read Pattern := do
  let name ← takeName ")" "group name"
  checkName name
  match (← get).names.lookup name with
  | none => fail (.unknownGroupName name) (name.length + 1)
  | some number =>
    checkOpen number (name.length + 1)
    checkBehind number
    return .again mode number

/-- How a group begins. -/
inductive Opening where
  /-- It is already complete, and stands for an item or for nothing. -/
  | done (item : Option (Role × Pattern))
  /-- The mode of the whole pattern has been changed. -/
  | globally (mode : Mode)
  | capture (name : Option Text)
  | plain (mode : Mode)
  | atomic
  | look (back wanted : Bool)
  | condition (number : Nat)

/-- What follows the question mark of a group that opens at `start`. -/
def extension (mode : Mode) (start : Nat) (first : Bool) : Read Opening := do
  let token ← take
  if token.isEmpty then fail .unexpectedEnd 0
  let is (s : String) : Bool := Text.eqString token s
  if is "P" then
    if ← accept "<" then
      let name ← takeName ">" "group name"
      checkName name
      return .capture (some name)
    else if ← accept "=" then return .done (some (.other, ← namedAgain mode))
    else
      let token ← take
      if token.isEmpty then fail .unexpectedEnd 0
      fail (.unknownExtension (("P" : Text) ++ token)) (token.length + 2)
  else if is ":" then return .plain mode
  else if is "#" then
    skipComment start ((← get).rest.length + 1)
    return .done none
  else if is "=" then return .look false true
  else if is "!" then return .look false false
  else if is "<" then
    let token ← take
    if token.isEmpty then fail .unexpectedEnd 0
    if Text.eqString token "=" then return .look true true
    if Text.eqString token "!" then return .look true false
    fail (.unknownExtension (("<" : Text) ++ token)) (token.length + 2)
  else if is "(" then return .condition (← condition)
  else if is ">" then return .atomic
  else if isFlag token || is "-" then
    match ← flags token with
    | (on, none) =>
      unless first do failAt start .lateFlags
      let mode := changed mode on []
      modify fun s => { s with mode }
      return .globally mode
    | (on, some off) => return .plain (changed mode on off)
  else fail (.unknownExtension token) (token.length + 1)

def isPatternBlank (c : CodePoint) : Bool :=
  c == ' ' || (0x09 ≤ c.val && c.val ≤ 0x0D)

/-- The item that an escape outside sets writes. -/
def escapeItem (mode : Mode) : Escape → Role × Pattern
  | .code n => (.other, .code ⟨mode, false, [.range n n]⟩)
  | .named cls complement => (.other, .code ⟨mode, false, [.named cls complement]⟩)
  | .place p => (.place, .place mode p)
  | .again number => (.other, .again mode number)

mutual

/-- Alternatives, to the end or to a closing parenthesis. -/
def alternatives : Nat → Mode → Bool → Bool → Read Pattern
  | 0, _, _, _ => fail .unexpectedEnd 0
  | fuel + 1, mode, outermost, first => do
    let items ← items fuel mode (outermost && first) []
    if ← accept "|" then
      let s ← get
      let others ← alternatives fuel (if outermost then s.mode else mode) outermost false
      return .either (sequence items) others
    else return sequence items

/-- The items of a sequence, the last one first. -/
def items : Nat → Mode → Bool → List (Role × Pattern) → Read (List (Role × Pattern))
  | 0, _, _, _ => fail .unexpectedEnd 0
  | fuel + 1, mode, first, before => do
    let token ← peek
    if token.isEmpty || Text.eqString token "|" || Text.eqString token ")" then return before
    let start ← position
    let _ ← take
    match token with
    | [c] =>
      if mode.spaced && isPatternBlank c then items fuel mode first before
      else if mode.spaced && c == '#' then
        skipLine ((← get).rest.length + 1)
        items fuel mode first before
      else if c == '[' then items fuel mode first ((.other, ← set mode) :: before)
      else if c == '?' then items fuel mode first (← repeatLast start (0, some 1) before)
      else if c == '*' then items fuel mode first (← repeatLast start (0, none) before)
      else if c == '+' then items fuel mode first (← repeatLast start (1, none) before)
      else if c == '{' then
        match ← counts? with
        | some counts => items fuel mode first (← repeatLast start counts before)
        | none => items fuel mode first ((.other, .code ⟨mode, false, [.range c.val c.val]⟩) :: before)
      else if c == '.' then items fuel mode first ((.other, .anything mode.dotAll) :: before)
      else if c == '^' then items fuel mode first ((.place, .place mode .lineStart) :: before)
      else if c == '$' then items fuel mode first ((.place, .place mode .lineEnd) :: before)
      else if c == '(' then
        let opening ←
          if ← accept "?" then extension mode start (first && before.isEmpty)
          else pure (.capture none)
        match opening with
        | .globally mode => items fuel mode first before
        | .done none => items fuel mode first before
        | .done (some item) => items fuel mode first (item :: before)
        | .capture name =>
          let number ← openGroup name
          let body ← alternatives fuel mode false false
          closing start
          closeGroup number body
          items fuel mode first ((.other, .group number body) :: before)
        | .plain inner =>
          let body ← alternatives fuel inner false false
          closing start
          items fuel mode first ((.other, body) :: before)
        | .atomic =>
          let body ← alternatives fuel mode false false
          closing start
          items fuel mode first ((.other, .atomic body) :: before)
        | .look back wanted =>
          let s ← get
          let outer := s.behind
          if back && outer.isNone then StateT.set { s with behind := some s.groups }
          let body ← alternatives fuel mode false false
          if back && outer.isNone then modify fun s => { s with behind := none }
          closing start
          if back then
            let (low, high) := width (← get).closed body
            if low != high then modify fun s => { s with variableBehind := true }
            items fuel mode first ((.other, .look (some low) wanted body) :: before)
          else items fuel mode first ((.other, .look none wanted body) :: before)
        | .condition number =>
          let yes := sequence (← items fuel mode false [])
          if ← accept "|" then
            let no := sequence (← items fuel mode false [])
            if ← nextIs "|" then fail .threeBranches 0
            closing start
            items fuel mode first ((.other, .ifGroup number yes no) :: before)
          else
            closing start
            items fuel mode first ((.other, .ifGroup number yes .empty) :: before)
      else items fuel mode first ((.other, .code ⟨mode, false, [.range c.val c.val]⟩) :: before)
    | _ => items fuel mode first (escapeItem mode (← escape token) :: before)

end

/-- The whole pattern. -/
def whole : Read Pattern := do
  check
  let s ← get
  let p ← alternatives (2 * s.size + 4) s.mode true true
  unless (← peek).isEmpty do fail .unbalanced 0
  let s ← get
  match s.asked.reverse.find? fun entry => s.groups ≤ entry.1 with
  | some entry => failAt entry.2 (.unknownNumber entry.1)
  | none => pure ()
  if s.variableBehind then throw ⟨.variableLookBehind, none⟩
  return p

end Read

/-- The pattern that a text writes, read in a mode. -/
def read (mode : Mode) (t : Text) : Except Fault Pattern :=
  let reading : Reading :=
    { rest := t, size := t.length, groups := 1, names := [], closed := [], behind := none
      asked := [], mode, variableBehind := false }
  (Read.whole reading).map (·.1)

/-- A text that can be read as a pattern. -/
def isWritten (t : Text) : Bool :=
  match read .plain t with
  | .ok _ => true
  | .error _ => false

end VeiledGateway.Pattern
