import VoiceHub.Address
import VoiceHub.Environment
import VoiceHub.Files
import VoiceHub.Hub
import VoiceHub.Toml.Reader

/-!
The configuration of the hub.

It is read from a TOML file, where each field has a default and unknown keys do
not count, and then changed by settings from the environment.  The settings apply
one after the other, and the first one with a value that cannot be read is an
error; those before it have been applied then.

The hub of a configuration speaks on the default output at the backend's root, or on
one of the other speakers in order of their names once that one is selected; it
publishes to and listens at the backend's root.  All built-in handlers are registered.
-/

namespace VoiceHub

structure Config where
  listenAddress : Address := ⟨.octets ⟨0, 0, 0, 0⟩, 8081⟩
  /-- The root of the speech backend. -/
  apiUrl : String := "http://localhost:12101/api"
  publishOnStartup : Bool := true
  /-- In milliseconds. -/
  followUpDelay : Nat := 1000
  /-- The name of the output at `apiUrl`. -/
  defaultSpeaker : String := "Raspberry"
  /-- The roots of more outputs. -/
  speakers : Dict String := Dict.empty
  deriving DecidableEq

inductive ConfigError where
  | unreadable (path : String) (fault : FileError)
  /-- The text is no TOML document, or a field has a value of another kind. -/
  | malformed
  | invalidValue (key value : String)
  deriving DecidableEq, Repr

def ConfigError.message : ConfigError → String
  | .unreadable path fault => "Failed to read config file " ++ path ++ ": " ++ fault.message
  | .malformed => "Failed to parse config"
  | .invalidValue key value => "Invalid value '" ++ value ++ "' for " ++ key

namespace Toml.Value

def text? : Value → Option String
  | .text s => some s
  | _ => none

def boolean? : Value → Option Bool
  | .boolean b => some b
  | _ => none

def natural? : Value → Option Nat
  | .integer (.ofNat n) => some n
  | _ => none

/-- The key under which the text of a moment stands where a table is asked for. -/
def momentKey : String := "$__toml_private_datetime"

/-- A table with texts only. -/
def texts? : Value → Option (Dict String)
  | .table _ entries =>
      entries.foldlM (fun texts (key, value) => value.text?.map fun s => texts.insert key s)
        Dict.empty
  | .moment m => some (Dict.empty.insert momentKey m.text)
  | _ => none

end Toml.Value

namespace Config

section Documents

/-- The field with a key, or its default; refuses a value that cannot be read. -/
def field? {α : Type} (entries : Toml.Entries) (key : String) (read? : Toml.Value → Option α)
    (default : α) : Option α :=
  match entries.find? key with
  | none => some default
  | some value => read? value

def ofEntries? (entries : Toml.Entries) : Option Config := do
  let c : Config := {}
  return {
    listenAddress := ← field? entries "listen_addr" (·.text?.bind Address.parse?) c.listenAddress
    apiUrl := ← field? entries "rhasspy_api_url" (·.text?) c.apiUrl
    publishOnStartup := ← field? entries "publish_on_startup" (·.boolean?) c.publishOnStartup
    followUpDelay := ← field? entries "conversation_delay_ms" (·.natural?) c.followUpDelay
    defaultSpeaker := ← field? entries "default_speaker" (·.text?) c.defaultSpeaker
    speakers := ← field? entries "speakers" (·.texts?) c.speakers }

def ofText (text : String) : Except ConfigError Config :=
  match (Toml.read? text).bind ofEntries? with
  | some c => .ok c
  | none => .error .malformed

end Documents

section Settings

/-- A variable and what its value does to a configuration, if it can be read. -/
structure Setting where
  key : String
  set? : Config → String → Option Config

def trimmed (value : String) : List Char := Text.trim value.toList

def flag? (value : String) : Option Bool :=
  if trimmed value = "true".toList then some true
  else if trimmed value = "false".toList then some false
  else none

def settings : List Setting :=
  [{ key := "INTENT_HUB_LISTEN_ADDR"
     set? := fun c value =>
       (Address.ofChars? (trimmed value)).map fun a => { c with listenAddress := a } },
   { key := "RHASSPY_API_URL", set? := fun c value => some { c with apiUrl := value } },
   { key := "INTENT_HUB_PUBLISH_ON_STARTUP"
     set? := fun c value => (flag? value).map fun b => { c with publishOnStartup := b } },
   { key := "INTENT_HUB_CONVERSATION_DELAY_MS"
     set? := fun c value =>
       (Decimal.word64? (trimmed value)).map fun n => { c with followUpDelay := n } }]

/-- A configuration with the settings before the first fault, and the fault. -/
structure Overridden where
  config : Config
  fault : Option ConfigError := none
  deriving DecidableEq

def applySettings (lookup : String → Option String) : List Setting → Config → Overridden
  | [], c => { config := c }
  | setting :: rest, c =>
      match lookup setting.key with
      | none => applySettings lookup rest c
      | some value =>
          match setting.set? c value with
          | some c => applySettings lookup rest c
          | none => { config := c, fault := some (.invalidValue setting.key value) }

def override (lookup : String → Option String) (c : Config) : Overridden :=
  applySettings lookup settings c

end Settings

section Loading

def pathKey : String := "INTENT_HUB_CONFIG"

def defaultPath : String := "intent-hub.toml"

/-- The file to be read: the one that is named, or the default one if it is there. -/
def path? (env : Environment) (files : Files) : Option String :=
  match env.find? pathKey with
  | some path => some path
  | none => if files.contains defaultPath then some defaultPath else none

def ofFile (files : Files) (path : String) : Except ConfigError Config :=
  match files.readText path with
  | .error fault => .error (.unreadable path fault)
  | .ok text => ofText text

def load (env : Environment) (files : Files) : Except ConfigError Config := do
  let c ← match path? env files with
    | some path => ofFile files path
    | none => .ok {}
  match (c.override env.find?).fault with
  | some fault => .error fault
  | none => .ok (c.override env.find?).config

end Loading

end Config

/-! ## The hub of a configuration -/

namespace Config

def backend (c : Config) : Backend := .ofUrl c.apiUrl

def selector (c : Config) : Selector :=
  c.speakers.sortedEntries.foldl (fun s (name, url) => s.withOutput name (.backend (.ofUrl url)))
    (.ofOutput c.defaultSpeaker (.backend c.backend))

/-- Before any handler is registered. -/
def bareHub (c : Config) (world : World) (clock : TimeOfDay) : Hub :=
  { world, clock, selector := c.selector, answerVoice := some .selected, triggerVoice := .selected
    followUpDelay := c.followUpDelay
    publisher := .backend c.backend, listener := .backend c.backend }

end Config

namespace Hub

def registerBuiltins : HubM Unit := do
  let selector := (← get).selector
  Builtin.all.forM fun b => register (b.handler selector)

def reportIntents : HubM Unit := do
  let registry := (← get).registry
  log .info .setup ("Registered intents: " ++ ", ".intercalate registry.intentNames)
    [("handlers", .number registry.handlerCount)]

def ofConfig (c : Config) (world : World) (clock : TimeOfDay) : Hub :=
  ((do registerBuiltins; reportIntents : HubM Unit).run (c.bareHub world clock)).2

end Hub

end VoiceHub
