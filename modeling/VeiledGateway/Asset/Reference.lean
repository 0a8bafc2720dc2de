/-
  References of documents: their kinds, and the paths that they name.

  A reference may be an address with a scheme, a fragment of the page, a route of the application,
  or the path of a file; `kindOf` tells which.  `pathOf` takes the path out of a reference, with its
  escapes decoded, and `normal` brings a path into normal form.  A text may stand where a host does if
  no delimiter is hidden in it; one in brackets must be an address of the sixth version of the protocol,
  or announce a later one.
-/
import VeiledGateway.Fault
import VeiledGateway.Text.Search
import VeiledGateway.Text.Utf8

set_option autoImplicit false

namespace VeiledGateway.Host

/-- A number up to 255 in decimal, with no zero before it. -/
def isOctet (t : Text) : Bool :=
  !t.isEmpty && t.all CodePoint.isAsciiDigit && t.length ≤ 3
    && (t.length == 1 || t.head? != some (CodePoint.ofChar '0'))
    && t.foldl (fun n d => n * 10 + (d.val - 0x30)) 0 ≤ 255

def isFour (t : Text) : Bool :=
  let parts := Text.fields '.' t
  parts.length == 4 && parts.all isOctet

def isGroup (t : Text) : Bool :=
  !t.isEmpty && t.length ≤ 4 && t.all CodePoint.isHexDigit

/-- Eight groups, of which some may be left out at one place between two colons. -/
def areGroups (parts : List Text) : Bool :=
  let size := parts.length
  let inner := (parts.drop 1).dropLast
  let firstEmpty := (parts.head?.getD []).isEmpty
  let lastEmpty := (parts.getLast?.getD []).isEmpty
  match (inner.filter List.isEmpty).length with
  | 0 => size == 8 && parts.all isGroup
  | 1 =>
    let before := (inner.takeWhile (!List.isEmpty ·)).length + 1
    let high := parts.take before
    let low := parts.drop (before + 1)
    let highOk := if firstEmpty then before == 1 else high.all isGroup
    let lowOk := if lastEmpty then low.length == 1 else low.all isGroup
    let count := (if firstEmpty then 0 else before) + (if lastEmpty then 0 else low.length)
    highOk && lowOk && count ≤ 7
  | _ => false

/-- An address of the sixth version, with a zone after a percent sign perhaps. -/
def isSix (t : Text) : Bool :=
  let (address, zone) := Text.cutAtCode '%' t
  let zoneOk := match zone with
    | none => true
    | some zone => !zone.isEmpty && !List.contains zone (CodePoint.ofChar '%')
  let parts := Text.fields ':' address
  let last := parts.getLast?.getD []
  let withFour := List.contains last (CodePoint.ofChar '.')
  let parts := if withFour then parts.dropLast ++ [Text.ofString "0", Text.ofString "0"] else parts
  zoneOk && (!withFour || isFour last) && 3 ≤ (Text.fields ':' address).length
    && parts.length ≤ 9 && areGroups parts

/-- An address of a later version: its number in hexadecimal after a letter, a dot, and more. -/
def isLater (t : Text) : Bool :=
  match Text.cutAtCode '.' t with
  | (_ :: version, some rest) =>
    !version.isEmpty && version.all CodePoint.isHexDigit && !rest.isEmpty
  | _ => false

def checkBracketed (t : Text) : Except Fault Unit :=
  if Text.startsWith t "v" then (if isLater t then .ok () else .error .badLaterHost)
  else if isFour t then .error .bracketedFour
  else if isSix t then .ok ()
  else .error (.noHostAddress t)

/-- What is between brackets, where nothing stands before them, and nothing but a port after. -/
def checkBrackets (host : Text) : Except Fault Unit :=
  let named := match Text.cutAtLast? '@' host with
    | some (_, rest) => rest
    | none => host
  match Text.cutAtCode '[' named with
  | (before, some inside) =>
    let (inside, port) := Text.cutAtCode ']' inside
    let port := port.getD []
    if !before.isEmpty || !(port.isEmpty || Text.startsWith port ":") then .error .badHost
    else checkBracketed inside
  | (_, none) => checkBracketed (Text.cutAtCode ':' named).1

/-- Code points that have another form with a delimiter of addresses in it. -/
def hiddenDelimiters : List Nat :=
  [0x2047, 0x2048, 0x2049, 0x2100, 0x2101, 0x2105, 0x2106, 0x2A74, 0xFE13, 0xFE16, 0xFE55, 0xFE56,
    0xFE5F, 0xFE6B, 0xFF03, 0xFF0F, 0xFF1A, 0xFF1F, 0xFF20]

/-- The host has its brackets in order and hides no delimiter. -/
def check (host : Text) : Except Fault Unit := do
  let opens := List.contains host (CodePoint.ofChar '[')
  let closes := List.contains host (CodePoint.ofChar ']')
  if opens != closes then throw .badHost
  if opens then checkBrackets host
  if host.any fun c => hiddenDelimiters.contains c.val then throw (.hostCharacters host)

end VeiledGateway.Host

namespace VeiledGateway

inductive ReferenceKind where
  /-- It has a scheme, or a host. -/
  | external
  /-- A place on the page itself. -/
  | fragment
  /-- A path with no extension, taken for a route of the application. -/
  | dynamic
  /-- A path with an extension, taken for one of a file. -/
  | static
deriving DecidableEq

def ReferenceKind.name : ReferenceKind → Text
  | .external => "external"
  | .fragment => "fragment"
  | .dynamic => "dynamic"
  | .static => "static"

namespace Reference

/-! ## Percent escapes -/

/-- The bytes of an ASCII text whose escapes `%XX` are decoded; a sign that begins no escape stands
for itself. -/
def unescapeAscii : Text → List UInt8
  | [] => []
  | [c] => [UInt8.ofNat c.val]
  | [c, d] => [UInt8.ofNat c.val, UInt8.ofNat d.val]
  | c :: d :: e :: rest =>
    if c == '%' then
      match d.hexValue?, e.hexValue? with
      | some high, some low => UInt8.ofNat (high * 16 + low) :: unescapeAscii rest
      | _, _ => UInt8.ofNat c.val :: unescapeAscii (d :: e :: rest)
    else UInt8.ofNat c.val :: unescapeAscii (d :: e :: rest)

/-- A text in runs of ASCII, which are decoded, and single other code points, which are kept. -/
def unescapeRuns : Text → Text → Text
  | run, [] => Utf8.decodeLossy (unescapeAscii run.reverse)
  | run, c :: rest =>
    if c.isAscii then unescapeRuns (c :: run) rest
    else Utf8.decodeLossy (unescapeAscii run.reverse) ++ c :: unescapeRuns [] rest

/-- The text with its percent escapes decoded; bytes that encode nothing give the replacement. -/
def unescape (t : Text) : Text :=
  unescapeRuns [] t

/-- A text with all bytes of its encoding escaped. -/
def escape (t : Text) : Text :=
  (Utf8.encodeLossy t).flatMap fun b => (CodePoint.ofChar '%') :: Text.hex b.toNat 2

/-- A name or a value of a form or a query, decoded: a plus sign stands for a space. -/
def unescapeField (t : Text) : Text :=
  unescape (t.map fun (c : CodePoint) => if c == '+' then CodePoint.ofChar ' ' else c)

/-! ## Parts of addresses -/

/-- The parts of an address that matter here. -/
structure Parts where
  scheme : Text
  host : Text
  path : Text
  query : Text
deriving DecidableEq

def isSchemeCode (c : CodePoint) : Bool :=
  c.isAsciiLetter || c.isAsciiDigit || c == '+' || c == '-' || c == '.'

/-- The scheme before a colon, and what follows it. -/
def cutScheme (t : Text) : Text × Text :=
  match Text.cutAtCode ':' t with
  | (c :: scheme, some rest) =>
    if c.isAsciiLetter && scheme.all isSchemeCode then
      ((c :: scheme).map CodePoint.asciiLower, rest)
    else ([], t)
  | _ => ([], t)

/-- The host after two slashes, and what follows it. -/
def cutHost (t : Text) : Text × Text :=
  match Text.dropPrefix? t "//" with
  | none => ([], t)
  | some rest =>
    let stops (c : CodePoint) : Bool := c == '/' || c == '?' || c == '#'
    (rest.takeWhile (!stops ·), rest.dropWhile (!stops ·))

/-- A code point that is no part of an address wherever it stands. -/
def isDropped (c : CodePoint) : Bool :=
  c == '\t' || c == '\r' || c == '\n'

/-- The parts of an address.  Control codes and spaces before it, and tabs and ends of lines
anywhere, are no part of it. -/
def split (reference : Text) : Except Fault Parts := do
  let t := (reference.dropWhile fun (c : CodePoint) => c.val ≤ 0x20).filter (!isDropped ·)
  let (scheme, rest) := cutScheme t
  let (host, rest) := cutHost rest
  Host.check host
  let (path, query) := Text.cutAtCode '?' (Text.cutAtCode '#' rest).1
  return ⟨scheme, host, path, query.getD []⟩

/-- The path of a reference, with its escapes decoded. -/
def pathOf (reference : Text) : Except Fault Text := do
  return unescape (← split reference).path

/-! ## Paths -/

/-- What follows the last slash. -/
def fileName (path : Text) : Text :=
  match Text.cutAtLast? '/' path with
  | some (_, name) => name
  | none => path

/-- What precedes the last slash, without the slashes at its end unless it is made of slashes. -/
def directory (path : Text) : Text :=
  match Text.cutAtLast? '/' path with
  | some (lead, _) =>
    let head := lead ++ [CodePoint.ofChar '/']
    if head.all (· == '/') then head
    else (head.reverse.dropWhile fun (c : CodePoint) => c == '/').reverse
  | none => []

/-- The extension of a name: from its last dot on, if more than dots precede that. -/
def extension (name : Text) : Text :=
  match Text.cutAtLast? '.' name with
  | some (stem, rest) => if stem.any (· != '.') then (CodePoint.ofChar '.') :: rest else []
  | none => []

/-- A path put after a directory; one that begins with a slash needs none. -/
def joinPath (folder path : Text) : Text :=
  if Text.startsWith path "/" then path
  else if folder.isEmpty || Text.endsWith folder "/" then folder ++ path
  else folder ++ (CodePoint.ofChar '/') :: path

/-- The names of a path that begins at the root: those that name nothing are left out, and one that
names the directory above takes back the name before it. -/
def names (path : Text) : List Text :=
  ((Text.fields '/' path).foldl (fun above name =>
    if name.isEmpty || Text.eqString name "." then above
    else if Text.eqString name ".." then above.drop 1
    else name :: above) []).reverse

/-- A path from the root in normal form. -/
def normal (path : Text) : Text :=
  (CodePoint.ofChar '/') :: Text.join "/" (names path)

/-- The names of a path that begins in some folder, if it never leads out of that folder. -/
def namesWithin? (path : Text) : Option (List Text) :=
  let step (above : List Text) (name : Text) : Option (List Text) :=
    if name.isEmpty || Text.eqString name "." then some above
    else if Text.eqString name ".." then
      match above with
      | [] => none
      | _ :: above => some above
    else some (name :: above)
  ((Text.fields '/' path).foldlM step []).map List.reverse

/-! ## Kinds -/

def hasScheme (reference : Text) : Bool :=
  match Text.cutAtCode ':' reference with
  | (c :: rest, some _) => c.isAsciiLetter && rest.all isSchemeCode
  | _ => false

/-- The kind of a reference. -/
def kindOf (reference : Text) : Except Fault ReferenceKind := do
  let ref := Text.trim reference
  if Text.startsWith ref "//" || hasScheme ref then return .external
  if Text.startsWith ref "#" then return .fragment
  let path ← pathOf ref
  return if (extension (fileName path)).isEmpty then .dynamic else .static

end Reference

end VeiledGateway
