/-
  What holds where nothing else has been set.
-/
import VeiledGateway.Text.CodePoint

set_option autoImplicit false

namespace VeiledGateway.Defaults

/-- Patterns of the user agents that need not solve a challenge. -/
def allowedCrawlers : List Text :=
  List.map Text.ofString [
    "googlebot", "bingbot", "slurp", "duckduckbot", "baiduspider", "yandexbot",
    "facebookexternalhit", "twitterbot", "linkedinbot", "pinterest", "applebot", "whatsapp",
    "discordbot", "telegrambot", "embedly", "quora link preview", "redditbot", "slackbot",
    "vkshare", "screaming frog", "semrushbot", "ahrefsbot"]

/-- Classes of icon fonts, which foreign style sheets name. -/
def excludedClasses : List Text :=
  List.map Text.ofString [
    "fa", "fas", "far", "fab", "fa-solid", "fa-regular", "fa-brands", "material-icons",
    "material-symbols-outlined"]

/-- How the classes of icon fonts may begin. -/
def excludedClassPrefixes : List Text :=
  List.map Text.ofString [
    "fa-"]

/-- Names that a browser or a module system provides. -/
def reservedIdentifiers : List Text :=
  List.map Text.ofString [
    "arguments", "undefined", "NaN", "Infinity", "eval", "globalThis", "Object", "Function",
    "Array", "String", "Number", "Boolean", "Symbol", "BigInt", "Math", "JSON", "Date", "RegExp",
    "Error", "TypeError", "RangeError", "SyntaxError", "Promise", "Proxy", "Reflect", "Map", "Set",
    "WeakMap", "WeakSet", "ArrayBuffer", "DataView", "Uint8Array", "Int8Array", "Uint16Array",
    "Int16Array", "Uint32Array", "Int32Array", "Float32Array", "Float64Array", "Intl", "parseInt",
    "parseFloat", "isNaN", "isFinite", "encodeURI", "decodeURI", "encodeURIComponent",
    "decodeURIComponent", "window", "self", "document", "console", "navigator", "location",
    "history", "screen", "performance", "crypto", "localStorage", "sessionStorage", "fetch",
    "alert", "confirm", "prompt", "setTimeout", "clearTimeout", "setInterval", "clearInterval",
    "requestAnimationFrame", "cancelAnimationFrame", "atob", "btoa", "XMLHttpRequest", "WebSocket",
    "Worker", "URL", "URLSearchParams", "FormData", "Headers", "Request", "Response", "Blob",
    "File", "FileReader", "Event", "CustomEvent", "EventTarget", "Node", "Element", "HTMLElement",
    "Image", "Audio", "TextEncoder", "TextDecoder", "MutationObserver", "IntersectionObserver",
    "ResizeObserver", "require", "module", "exports", "define"]

/-- The least length of a string in a script that is cut into pieces. -/
def minLiteralLength : Int := 3

def difficulty : Int := 4

/-- The first segment of the paths that links are replaced with. -/
def linkPrefix : Text := "o"

/-- How the paths begin that go to the tunnel. -/
def tunnelPrefix : Text := "/b/"

def sessionSeconds : Int := 3600

def sweepSeconds : Int := 60

end VeiledGateway.Defaults
