/-
  Running the server: what is checked and told before it listens.
-/
import VeiledGateway.Command.Reading
import VeiledGateway.Command.Running

set_option autoImplicit false

namespace VeiledGateway.Command

open Running

namespace Serving

/-- The part of the program that tells of the server. -/
def source : Text := "cloakgate.gateway.server"

/-- The part of the program that tells of the store. -/
def storeSource : Text := "cloakgate.persistence.session_store"

def standardHost : Text := "127.0.0.1"

def standardPort : Int := 8080

/-- The problems with a configuration are told, but for the missing secret. -/
def tellProblems (w : Surroundings) (config : Config) : Running Unit := do
  let problems ← orCrash .config (config.problems w.disk)
  let told := (problems.map Problem.message).filter fun t => !Text.contains t "secret_key"
  tell w (told.map fun t => .of source Log.Level.warning (("Config: " : Text) ++ t))

/-- The store that a configuration names is made ready. -/
def prepareStore (w : Surroundings) (config : Config) : Running Unit := do
  let event (t : Text) : Log.Event := .of storeSource Log.Level.info t
  if config.sessionBackend == some "redis" then
    tell w [event (("Using Redis session store at " : Text) ++ shownOption config.redisUrl)]
    orCrash .address (Address.check config.redisUrl)
  else tell w [event "Using in-memory session store"]

/-- The gateway is made ready. -/
def prepare (w : Surroundings) (config : Config) : Running Unit := do
  let _ ← assetPlaces w config
  prepareStore w config
  if config.linkPrefix.isNone then crash (.config (.nothingThere "strip"))
  let message := ("Gateway initialized (site_root=" : Text) ++ config.siteRoot
    ++ (", backend=" : Text) ++ shownOption config.sessionBackend
    ++ (", difficulty=" : Text) ++ Text.ofInt config.difficulty ++ (")" : Text)
  tell w [.of source Log.Level.info message]

/-- How wide the banner is within its frame. -/
def bannerWidth : Nat := 62

/-- A line of the banner. -/
def bannerLine (t : Text) : Text :=
  ("║" : Text) ++ Text.padRight t bannerWidth ' ' ++ ("║\n" : Text)

/-- An upper, middle or lower edge of the banner. -/
def bannerEdge (left right : Text) : Text :=
  left ++ List.replicate bannerWidth (CodePoint.ofChar '═') ++ right ++ ("\n" : Text)

/-- How much of the path of the site the banner shows. -/
def shownPath : Nat := 48

/-- What is shown when the server starts. -/
def banner (listening : Listening) (siteRoot backend : Text) : Text :=
  let address := ("http://" : Text) ++ listening.host ++ (":" : Text) ++ Text.ofInt listening.port
  let mark : Text := if listening.debug then " [DEBUG]" else []
  ("\n" : Text) ++ bannerEdge "╔" "╗"
    ++ bannerLine (("              CLOAKGATE" : Text) ++ mark)
    ++ bannerEdge "╠" "╣" ++ bannerLine []
    ++ bannerLine "  Gateway running at:"
    ++ bannerLine (("  → " : Text) ++ address) ++ bannerLine []
    ++ bannerLine (("  Site root: " : Text) ++ siteRoot.take shownPath)
    ++ bannerLine (("  Sessions:  " : Text) ++ backend) ++ bannerLine []
    ++ bannerLine "  Press Ctrl+C to stop" ++ bannerLine []
    ++ bannerEdge "╚" "╝" ++ ("\n" : Text)

/-- The server runs; the configuration is loaded if none is given. -/
def run (w : Surroundings) (listening : Listening) (config : Option Config) : Running Unit := do
  chooseLog w (if listening.debug then some "DEBUG" else none)
  let config ← match config with
    | some config => pure config
    | none => loadConfig w none
  tellProblems w config
  prepare w config
  match config.sessionBackend with
  | none => crash .noBackend
  | some backend => write (banner listening config.siteRoot backend)
  modify fun c => { c with started := c.started ++ [listening] }

end Serving

namespace ServeCommand

def hostSwitch : Switch := .valued "--host" .text "Bind address"

def portSwitch : Switch := .valued "--port" .whole "Port"

def debugSwitch : Switch := .plain "--debug" "Enable debug mode"

def form : Form :=
  { name := "serve", summary := "Run the gateway server.", slots := []
    switches := [hostSwitch, portSwitch, debugSwitch], mixed := true }

def run (w : Surroundings) (config : Config) (given : Given) : Running Unit :=
  let host := (given.text? hostSwitch.name).getD Serving.standardHost
  let port := (given.whole? portSwitch.name).getD Serving.standardPort
  Serving.run w ⟨host, port, given.has debugSwitch.name⟩ (some config)

end ServeCommand

end VeiledGateway.Command
