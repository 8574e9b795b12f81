import VoiceHub.Journal.Filter
import VoiceHub.Journal
import VoiceHub.Config

/-!
The start of the program.

It reads the file of variables, the log filter and the configuration, sets up the
hub and publishes its grammar, and then listens.  What is missing or cannot be
read before the hub is set up ends it, and so does an address that cannot be listened
at; a grammar that is not published does not.
-/

namespace VoiceHub

/-- Why an address cannot be listened at. -/
inductive ListenError where
  | taken
  /-- It belongs to another machine. -/
  | foreign
  deriving DecidableEq, Repr

inductive StartError where
  | filter (fault : FilterError)
  | config (fault : ConfigError)
  | listen (fault : ListenError)
  deriving DecidableEq, Repr

section Reports

/-- A record in braces. -/
def braced (name : String) (fields : List (String × String)) : String :=
  let texts := fields.map fun (key, value) => key ++ ": " ++ value
  name ++ " \x7b " ++ ", ".intercalate texts ++ " \x7d"

def systemReport (code : Nat) (kind message : String) : String :=
  braced "Os"
    [("code", Decimal.text code), ("kind", kind), ("message", Text.Quoted.ofText message)]

def FileError.kind : FileError → String
  | .notFound => "NotFound"
  | .notDirectory => "NotADirectory"
  | .isDirectory => "IsADirectory"
  | .nameTooLong => "InvalidFilename"
  | .notText => "InvalidData"

def FileError.report (e : FileError) : String :=
  match e.code? with
  | some (code, name) => systemReport code e.kind name
  | none => braced "Error" [("kind", e.kind), ("message", Text.Quoted.ofText e.message)]

/-- The fault of a malformed text is not told. -/
def ConfigError.report : ConfigError → String
  | .unreadable path fault =>
      braced "Read" [("path", Text.Quoted.ofText path), ("source", fault.report)]
  | .malformed => "Parse(*)"
  | .invalidValue key value =>
      braced "InvalidValue"
        [("key", Text.Quoted.ofText key), ("value", Text.Quoted.ofText value)]

def ListenError.report : ListenError → String
  | .taken => systemReport 98 "AddrInUse" "Address already in use"
  | .foreign => systemReport 99 "AddrNotAvailable" "Cannot assign requested address"

def StartError.report : StartError → String
  | .filter fault => "Other(Failed to create tracing filter: " ++ fault.message ++ ")"
  | .config fault => "Config(" ++ fault.report ++ ")"
  | .listen fault => "Io(" ++ fault.report ++ ")"

end Reports

namespace Program

def variablesPath : String := ".env"

def levelKey : String := "RUST_LOG"

def defaultLevel : String := "info"

/-- The environment with what the file of variables adds. -/
def environment (env : Environment) (files : Files) : Environment :=
  match files variablesPath with
  | .ok bytes => env.addFile bytes
  | .error _ => env

def filter (env : Environment) : Except FilterError Filter :=
  Filter.parse (Filter.textOfLevel ((env.find? levelKey).getD defaultLevel))

def reportUpdate : Except GrammarError PublishReport → HubM Unit
  | .error e => Hub.log .error .program ("Grammar not published: " ++ e.message)
  | .ok report =>
      if report.isSuccess then Hub.log .info .program "Grammar published and trained"
      else
        Hub.log .warn .program
          ("Grammar published with " ++ Decimal.text report.errors.length ++ " error(s): " ++
            "; ".intercalate report.errors)

/-- Publishes the grammar, whether or not the backend answers. -/
def publish (c : Config) : HubM Unit := do
  if c.publishOnStartup then
    match ← Hub.outside (Backend.connect c.apiUrl) with
    | some _ => pure ()
    | none => Hub.log .warn .program "Publishing anyway; uploads will be reported as failed"
    reportUpdate (← Hub.update)
  else
    Hub.log .info .program
      ("Grammar publishing on startup disabled " ++
        "(set INTENT_HUB_PUBLISH_ON_STARTUP=true to enable)")

/-- The hub when it is about to listen; its receiver delivers the triggers. -/
def prepare (c : Config) (world : World) (clock : TimeOfDay) : Hub :=
  let (_, world) := (World.log .info .program ("Using Rhasspy at " ++ c.apiUrl)).run world
  let hub := Hub.ofConfig c world clock
  ((publish c).run { hub with channel := hub.channel.run }).2

/-- A start: the records that are shown, and the hub that serves if nothing prevents it. -/
structure Start where
  shown : List Record := []
  outcome : Except StartError Hub

def shownRecords (f : Filter) (journal : List Event) : List Record :=
  journal.filterMap fun event =>
    match event with
    | .log r => if f.shows r then some r else none
    | _ => none

/-- `listenFault?` tells of an address that cannot be listened at. -/
def start (env : Environment) (files : Files) (world : World) (clock : TimeOfDay)
    (listenFault? : Address → Option ListenError) : Start :=
  let env := environment env files
  match filter env with
  | .error fault => { outcome := .error (.filter fault) }
  | .ok f =>
      match Config.load env files with
      | .error fault => { outcome := .error (.config fault) }
      | .ok c =>
          let hub := prepare c world clock
          let shown := shownRecords f hub.world.journal
          match listenFault? c.listenAddress with
          | none => { shown, outcome := .ok hub }
          | some fault => { shown, outcome := .error (.listen fault) }

end Program

end VoiceHub
