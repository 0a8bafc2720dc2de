/-
  The configuration of a gateway: its settings, how a value is made fit for one, and what can be
  wrong with them.

  `Config.set` takes over one value; it brings the value into the form of the value that was there, or
  tells why it cannot be taken over.  `Config.problems` lists what stands against running with a
  configuration.
-/
import VeiledGateway.Asset.Resolver
import VeiledGateway.Datum.Basic
import VeiledGateway.Fault
import VeiledGateway.Number.Integer
import VeiledGateway.Settings
import VeiledGateway.Yaml.Fault

set_option autoImplicit false

namespace VeiledGateway.Config

/-- Why settings cannot be taken over. -/
inductive Fault where
  /-- A text is no whole number; its written form is given. -/
  | badNumber (written : Text)
  | longNumber (digits : Nat)
  /-- A whole number is needed and the kind of the value is another one. -/
  | noNumber (kind : Text)
  | infinite
  | notANumber
  /-- A list is needed and the kind of the value has no items. -/
  | noItems (kind : Text)
  /-- A path is needed and the kind of the value is another one. -/
  | noPath (kind : Text)
  | bytesPath
  /-- The document of a file is no table. -/
  | noTable (path : Text)
  | missingFile (path : Text)
  | folder (path : Text)
  | noFolder (path : Text)
  | endless (path : Text)
  | longName (path : Text)
  | zeroInPath
  | undecodable (fault : Utf8.DecodeFault)
  | yaml (fault : Yaml.Fault)
  /-- A setting that has no value lacks a part. -/
  | nothingThere (part : String)
  | disk (fault : VeiledGateway.Fault)

/-- The words for a fault. -/
def Fault.message : Fault → Text
  | .badNumber written =>
    ("invalid literal for int() with base 10: " : Text) ++ written.take 200
  | .longNumber digits => (Yaml.Fault.longWhole digits).message
  | .noNumber kind =>
    ("int() argument must be a string, a bytes-like object or a real number, not '" : Text) ++ kind
      ++ ("'" : Text)
  | .infinite => "cannot convert float infinity to integer"
  | .notANumber => "cannot convert float NaN to integer"
  | .noItems kind => ("'" : Text) ++ kind ++ ("' object is not iterable" : Text)
  | .noPath kind => ("expected str, bytes or os.PathLike object, not " : Text) ++ kind
  | .bytesPath =>
    "argument should be a str object or an os.PathLike object returning str, not <class 'bytes'>"
  | .noTable path => path ++ (": top level must be a mapping" : Text)
  | .missingFile path => ("[Errno 2] No such file or directory: " : Text) ++ Text.quoted path
  | .folder path => ("[Errno 21] Is a directory: " : Text) ++ Text.quoted path
  | .noFolder path => ("[Errno 20] Not a directory: " : Text) ++ Text.quoted path
  | .endless path => ("[Errno 40] Too many levels of symbolic links: " : Text) ++ Text.quoted path
  | .longName path => ("[Errno 36] File name too long: " : Text) ++ Text.quoted path
  | .zeroInPath => "embedded null byte"
  | .undecodable fault => fault.message
  | .yaml fault => fault.message
  | .nothingThere part => (VeiledGateway.Fault.nothingThere part).message
  | .disk fault => fault.message

end VeiledGateway.Config

namespace VeiledGateway

/-- The settings, each of which has a name. -/
inductive Setting where
  | secretKey
  | siteRoot
  | assetRoots
  | linkPrefix
  | tunnelPrefix
  | difficulty
  | allowedCrawlers
  | excludedClasses
  | excludedClassPrefixes
  | reservedIdentifiers
  | minLiteralLength
  | transformFailure
  | sessionBackend
  | redisUrl
  | sessionSeconds
deriving DecidableEq

namespace Setting

/-- All settings, in the order in which they are listed. -/
def all : List Setting :=
  [.secretKey, .siteRoot, .assetRoots, .linkPrefix, .tunnelPrefix, .difficulty, .allowedCrawlers,
    .excludedClasses, .excludedClassPrefixes, .reservedIdentifiers, .minLiteralLength,
    .transformFailure, .sessionBackend, .redisUrl, .sessionSeconds]

def name : Setting → Text
  | .secretKey => "secret_key"
  | .siteRoot => "site_root"
  | .assetRoots => "asset_roots"
  | .linkPrefix => "link_prefix"
  | .tunnelPrefix => "tunnel_prefix"
  | .difficulty => "difficulty"
  | .allowedCrawlers => "allowed_crawlers"
  | .excludedClasses => "excluded_classes"
  | .excludedClassPrefixes => "excluded_class_prefixes"
  | .reservedIdentifiers => "reserved_identifiers"
  | .minLiteralLength => "min_literal_length"
  | .transformFailure => "transform_failure"
  | .sessionBackend => "session_backend"
  | .redisUrl => "redis_url"
  | .sessionSeconds => "session_ttl_seconds"

def ofName? (t : Text) : Option Setting :=
  all.find? fun s => s.name == t

end Setting

/-- The settings of a gateway.  A text may be missing where a source says so. -/
structure Config where
  /-- What the names of sessions are signed with. -/
  secretKey : Option Text
  siteRoot : Text
  /-- The directories of assets, relative to the root of the site. -/
  assetRoots : List Text
  linkPrefix : Option Text
  tunnelPrefix : Option Text
  difficulty : Int
  allowedCrawlers : List Text
  excludedClasses : List Text
  excludedClassPrefixes : List Text
  reservedIdentifiers : List Text
  minLiteralLength : Int
  /-- What happens to a document that cannot be rewritten. -/
  transformFailure : Option Text
  sessionBackend : Option Text
  redisUrl : Option Text
  sessionSeconds : Int
deriving DecidableEq

/-- The value of a setting, as it is listed. -/
inductive SettingValue where
  | text (t : Option Text)
  | whole (i : Int)
  | list (ts : List Text)
deriving DecidableEq

/-- What stands against running with a configuration. -/
inductive Problem where
  | sessionBackend (t : Option Text)
  | transformFailure (t : Option Text)
  | difficulty (i : Int)
  | minLiteralLength
  | linkPrefix
  | tunnelPrefix
  | assetRoots (count : Nat)
  | siteRoot (path : Text)
  | secretKey
deriving DecidableEq

/-- A text, or the word for a missing one. -/
def shownOption (t : Option Text) : Text :=
  t.getD "None"

namespace Config

def default : Config :=
  { secretKey := none
    siteRoot := "site"
    assetRoots := ["dist", "."]
    linkPrefix := some Defaults.linkPrefix
    tunnelPrefix := some Defaults.tunnelPrefix
    difficulty := Defaults.difficulty
    allowedCrawlers := Defaults.allowedCrawlers
    excludedClasses := Defaults.excludedClasses
    excludedClassPrefixes := Defaults.excludedClassPrefixes
    reservedIdentifiers := Defaults.reservedIdentifiers
    minLiteralLength := Defaults.minLiteralLength
    transformFailure := some "error"
    sessionBackend := some "memory"
    redisUrl := some "redis://localhost:6379/0"
    sessionSeconds := Defaults.sessionSeconds }

instance : Inhabited Config := ⟨default⟩

/-! ## Taking over values -/

def wholeOfText (t written : Text) : Except Fault Int :=
  match Text.readInt t with
  | .ok i => .ok i
  | .error (.tooLong digits) => .error (.longNumber digits)
  | .error .noNumber => .error (.badNumber written)

/-- A value as a whole number; a fraction is cut off. -/
def wholeOf (d : Datum) : Except Fault Int :=
  match d with
  | .whole i => .ok i
  | .truth b => .ok (if b then 1 else 0)
  | .real x =>
    match Exact.ofFloat? x with
    | some r => .ok (Int.tdiv r.num r.den)
    | none => .error (if x.isNaN then .notANumber else .infinite)
  | .text t => wholeOfText t d.written
  | .bytes bs => wholeOfText (bs.map fun b => CodePoint.ofNat b.toNat) d.written
  | d => .error (.noNumber d.kindName)

/-- A value as a list of texts; a text is cut at its commas. -/
def listOf (d : Datum) : Except Fault (List Text) :=
  match d with
  | .text t => .ok (((Text.fields ',' t).map Text.trim).filter fun item => !item.isEmpty)
  | .list items | .set items => .ok (items.map Datum.shown)
  | .table entries => .ok (entries.map fun e => e.1.shown)
  | .bytes bs => .ok (bs.map fun b => Text.ofNat b.toNat)
  | .pair key value => .ok [key.shown, value.shown]
  | .listAgain | .tableAgain | .setAgain => .ok []
  | d => .error (.noItems d.kindName)

/-- A path without empty names and names for the same directory. -/
def tidyPath (path : Text) : Text :=
  let names := Text.join "/" (Disk.pathNames path)
  let slashes := (path.takeWhile fun (c : CodePoint) => c == '/').length
  if slashes = 2 then ("//" : Text) ++ names
  else if 0 < slashes then ("/" : Text) ++ names
  else if names.isEmpty then "."
  else names

def pathOf (d : Datum) : Except Fault Text :=
  match d with
  | .text t => .ok (tidyPath t)
  | .bytes _ => .error .bytesPath
  | d => .error (.noPath d.shortKindName)

def textOf (d : Datum) : Option Text :=
  match d with
  | .nothing => none
  | d => some d.shown

/-- The value that a configuration holds for a setting. -/
inductive Held where
  | text (t : Option Text)
  | whole (i : Int)
  | list (ts : List Text)
  | path (t : Text)
deriving DecidableEq

/-- A value, brought into the form of the one that is held. -/
def Held.refit (held : Held) (d : Datum) : Except Fault Held :=
  match held with
  | .whole _ => return .whole (← wholeOf d)
  | .list _ => return .list (← listOf d)
  | .path _ => return .path (← pathOf d)
  | .text _ => .ok (.text (textOf d))

def held (config : Config) : Setting → Held
  | .secretKey => .text config.secretKey
  | .siteRoot => .path config.siteRoot
  | .assetRoots => .list config.assetRoots
  | .linkPrefix => .text config.linkPrefix
  | .tunnelPrefix => .text config.tunnelPrefix
  | .difficulty => .whole config.difficulty
  | .allowedCrawlers => .list config.allowedCrawlers
  | .excludedClasses => .list config.excludedClasses
  | .excludedClassPrefixes => .list config.excludedClassPrefixes
  | .reservedIdentifiers => .list config.reservedIdentifiers
  | .minLiteralLength => .whole config.minLiteralLength
  | .transformFailure => .text config.transformFailure
  | .sessionBackend => .text config.sessionBackend
  | .redisUrl => .text config.redisUrl
  | .sessionSeconds => .whole config.sessionSeconds

/-- The configuration that holds another value for a setting.  A value that has not the form of the
setting is not taken. -/
def hold (config : Config) : Setting → Held → Config
  | .secretKey, .text t => { config with secretKey := t }
  | .siteRoot, .path t => { config with siteRoot := t }
  | .assetRoots, .list ts => { config with assetRoots := ts }
  | .linkPrefix, .text t => { config with linkPrefix := t }
  | .tunnelPrefix, .text t => { config with tunnelPrefix := t }
  | .difficulty, .whole i => { config with difficulty := i }
  | .allowedCrawlers, .list ts => { config with allowedCrawlers := ts }
  | .excludedClasses, .list ts => { config with excludedClasses := ts }
  | .excludedClassPrefixes, .list ts => { config with excludedClassPrefixes := ts }
  | .reservedIdentifiers, .list ts => { config with reservedIdentifiers := ts }
  | .minLiteralLength, .whole i => { config with minLiteralLength := i }
  | .transformFailure, .text t => { config with transformFailure := t }
  | .sessionBackend, .text t => { config with sessionBackend := t }
  | .redisUrl, .text t => { config with redisUrl := t }
  | .sessionSeconds, .whole i => { config with sessionSeconds := i }
  | _, _ => config

/-- The configuration with a value taken over, in the form of the one that it held. -/
def set (config : Config) (setting : Setting) (d : Datum) : Except Fault Config :=
  return config.hold setting (← (config.held setting).refit d)

/-! ## Listing -/

/-- What stands for a secret that is not shown. -/
def mask : Text := "***"

def Held.listed : Held → SettingValue
  | .text t => .text t
  | .whole i => .whole i
  | .list ts => .list ts
  | .path t => .text (some t)

/-- The value of a setting; a secret is masked. -/
def get (config : Config) : Setting → SettingValue
  | .secretKey => .text (config.secretKey.map fun t => if t.isEmpty then t else mask)
  | setting => (config.held setting).listed

/-- All settings with their values. -/
def listing (config : Config) : List (Setting × SettingValue) :=
  Setting.all.map fun s => (s, config.get s)

/-- The settings that differ from those of another configuration. -/
def changes (config before : Config) : List (Setting × SettingValue) :=
  config.listing.filter fun p => p.2 ≠ before.get p.1

/-- The settings that the rewriting of documents needs. -/
def settings (config : Config) : Settings :=
  { excludedClasses := config.excludedClasses
    excludedClassPrefixes := config.excludedClassPrefixes
    reservedIdentifiers := config.reservedIdentifiers
    minLiteralLength := config.minLiteralLength
    linkPrefix := shownOption config.linkPrefix }

/-! ## The directories -/

/-- Where a directory of assets lies, links followed. -/
def rootPlace (config : Config) (disk : Disk) (root : Text) : Except Fault Place :=
  let found :=
    if Disk.isAbsolute root then disk.resolve [] (Disk.pathNames root)
    else
      let start := if Disk.isAbsolute config.siteRoot then [] else disk.home
      disk.resolve start (Disk.pathNames config.siteRoot ++ Disk.pathNames root)
  found.mapError .disk

/-- Where the directories of assets lie, in the order in which they are searched. -/
def rootPlaces (config : Config) (disk : Disk) : Except Fault (List Place) :=
  config.assetRoots.mapM (config.rootPlace disk)

/-- The root of the site is a directory. -/
def hasSite (config : Config) (disk : Disk) : Except Fault Bool :=
  if config.siteRoot.any fun c => c.val == 0 then .ok false
  else
    match disk.look (disk.placeOf config.siteRoot) with
    | .found .directory => .ok true
    | .tooLong => .error (.longName config.siteRoot)
    | _ => .ok false

/-! ## Problems -/

def backends : List Text := ["memory", "redis"]

def failurePolicies : List Text := ["error", "passthrough"]

def isOneOf (names : List Text) (t : Option Text) : Bool :=
  match t with
  | some t => names.contains t
  | none => false

/-- A text that is one segment of a path. -/
def isSegment (t : Option Text) : Bool :=
  match t with
  | some t => !t.isEmpty && !List.contains t (CodePoint.ofChar '/')
  | none => false

/-- What stands against running with a configuration, in the order in which it is told. -/
def problems (config : Config) (disk : Disk) : Except Fault (List Problem) := do
  let when (b : Bool) (p : Problem) : List Problem := if b then [p] else []
  let early :=
    when (!isOneOf backends config.sessionBackend) (.sessionBackend config.sessionBackend)
      ++ when (!isOneOf failurePolicies config.transformFailure)
        (.transformFailure config.transformFailure)
      ++ when (config.difficulty < 1 || 8 < config.difficulty) (.difficulty config.difficulty)
      ++ when (config.minLiteralLength < 1) .minLiteralLength
      ++ when (!isSegment config.linkPrefix) .linkPrefix
  let tunnel ← match config.tunnelPrefix with
    | some t => pure t
    | none => throw (Fault.nothingThere "startswith")
  let site ← config.hasSite disk
  return early
    ++ when (!Text.startsWith tunnel "/" || !Text.endsWith tunnel "/") .tunnelPrefix
    ++ when (config.assetRoots.length ≠ 2) (.assetRoots config.assetRoots.length)
    ++ when (!site) (.siteRoot config.siteRoot)
    ++ when ((config.secretKey.getD []).isEmpty) .secretKey

end Config

/-- A text in quotes, or the word for a missing one. -/
def writtenOption (t : Option Text) : Text :=
  match t with
  | some t => Text.quoted t
  | none => "None"

/-- The words for a problem. -/
def Problem.message : Problem → Text
  | .sessionBackend t =>
    ("session_backend must be one of " : Text) ++ Text.join ", " Config.backends
      ++ (", got " : Text) ++ writtenOption t
  | .transformFailure t =>
    ("transform_failure must be one of " : Text) ++ Text.join ", " Config.failurePolicies
      ++ (", got " : Text) ++ writtenOption t
  | .difficulty i => ("difficulty must be between 1 and 8, got " : Text) ++ Text.ofInt i
  | .minLiteralLength => "min_literal_length must be at least 1"
  | .linkPrefix => "link_prefix must be a single non-empty path segment"
  | .tunnelPrefix => "tunnel_prefix must start and end with '/'"
  | .assetRoots count =>
    ("asset_roots must list exactly two directories, got " : Text) ++ Text.ofNat count
  | .siteRoot path => ("site_root " : Text) ++ path ++ (" is not a directory" : Text)
  | .secretKey => "secret_key is not set; sessions will not survive a restart"

end VeiledGateway
