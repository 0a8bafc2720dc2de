/-
  Commands that tell of the configuration: whether one can run with it, and what it is.
-/
import VeiledGateway.Command.Reading
import VeiledGateway.Command.Running
import VeiledGateway.Json.Printer
import VeiledGateway.Yaml.Printer

set_option autoImplicit false

namespace VeiledGateway.Command

open Running

namespace CheckConfig

def form : Form :=
  { name := "check-config", summary := "Validate the gateway configuration.", slots := []
    switches := [], mixed := true }

/-- A setting and its value in two columns. -/
def row (label value : Text) : Text :=
  ("  " : Text) ++ Text.padRight label 16 ' ' ++ value

/-- A directory of assets, with a mark that tells whether it is there. -/
def rootRow (w : Surroundings) (place : Place) : Running Unit := do
  let there ← orCrash (fun fault => .config (.disk fault)) (w.disk.isDirectory place)
  let mark : Text := if there then "✓ " else "✗ "
  writeLine (row "Asset root:" (mark ++ Disk.written place))

/-- The configuration is shown, and what stands against running with it. -/
def run (w : Surroundings) (config : Config) : Running Unit := do
  let problems ← orCrash .config (config.problems w.disk)
  writeLine "\n📋 Gateway Configuration\n"
  writeLine (row "Site root:" config.siteRoot)
  (← assetPlaces w config).forM (rootRow w)
  writeLine (row "Session store:" (shownOption config.sessionBackend))
  writeLine (row "Difficulty:" (Text.ofInt config.difficulty))
  writeLine (row "Link prefix:"
    (("/" : Text) ++ shownOption config.linkPrefix ++ ("/" : Text)))
  writeLine (row "Tunnel prefix:" (shownOption config.tunnelPrefix))
  writeLine []
  if problems.isEmpty then writeLine "✓ Configuration OK"
  else
    problems.forM fun p => writeLine (("  ✗ " : Text) ++ p.message)
    writeLine []
    writeLine (Text.ofNat problems.length ++ (" problem(s) found" : Text))
    exit 1

end CheckConfig

namespace ShowConfig

def jsonSwitch : Switch :=
  .plain "--json" "Output as JSON"

def form : Form :=
  { name := "show-config", summary := "Print the effective configuration (secrets masked)."
    slots := [], switches := [jsonSwitch], mixed := true }

def jsonValue : SettingValue → Json
  | .text (some t) => .text t
  | .text none => .null
  | .whole i => .int i
  | .list ts => .list (ts.map Json.text)

def yamlValue : SettingValue → Yaml.Value
  | .text (some t) => .text t
  | .text none => .nothing
  | .whole i => .whole i
  | .list ts => .list ts

/-- The configuration as JSON. -/
def jsonText (config : Config) : Text :=
  Json.render true (.indented 2) 0
    (.object (config.listing.map fun p => (p.1.name, jsonValue p.2)))

/-- The configuration as YAML. -/
def yamlText (config : Config) : Text :=
  Yaml.tableText (config.listing.map fun p => (p.1.name, yamlValue p.2))

def run (config : Config) (given : Given) : Running Unit :=
  if given.has jsonSwitch.name then writeLine (jsonText config) else write (yamlText config)

end ShowConfig

end VeiledGateway.Command
