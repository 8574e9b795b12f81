import VoiceHub.Numeral
import VoiceHub.Text.Printable

/-!
Log records.

A record says which part of the hub it comes from; a filter shows or hides it by
that and by its level.

Its line is the message, with the characters spelled out that could steer a terminal,
and each field with an equals sign.
-/

namespace VoiceHub

inductive Level where
  | trace
  | debug
  | info
  | warn
  | error
  deriving DecidableEq, Repr

/-- The part of the hub that a record comes from. -/
inductive Origin where
  | registry
  | publishing
  | triggers
  | timer
  | notifications
  | selector
  | backend
  /-- Below the backend: connections to servers. -/
  | connection
  | setup
  | routes
  | followUp
  | program
  deriving DecidableEq, Repr

/-- The name that a filter knows the part by. -/
def Origin.target : Origin → String
  | .registry => "intents::registry"
  | .publishing => "intents::publish"
  | .triggers => "intents::triggers"
  | .timer => "handlers::timer"
  | .notifications => "handlers::notifications"
  | .selector => "handlers::speaker_select"
  | .backend => "rhasspy_client"
  | .connection => "reqwest::connect"
  | .setup => "server::hub"
  | .routes => "server::routes::intents"
  | .followUp => "server::conversation"
  | .program => "intent_hub"

inductive FieldValue where
  /-- A text that is printed in quotes. -/
  | quoted (text : String)
  | plain (text : String)
  | number (n : Nat)
  deriving DecidableEq, Repr

structure Record where
  level : Level
  origin : Origin
  message : String
  fields : List (String × FieldValue) := []
  deriving DecidableEq, Repr

/-- The message is a field, too. -/
def Record.hasField (r : Record) (name : String) : Bool :=
  name = "message" || r.fields.any fun (key, _) => key = name

/-! ## The line of a record -/

def FieldValue.text : FieldValue → String
  | .quoted s => Text.Quoted.ofText s
  | .plain s => s
  | .number n => Decimal.text n

/-- Characters below 128 that could steer a terminal. -/
def steering : List Char := ['\x07', '\x08', '\x0c', '\x1b', '\x7f']

def spellSteering (c : Char) : List Char :=
  if steering.contains c then
    ['\\', 'x', Hex.lower (c.toNat / 16), Hex.lower (c.toNat % 16)]
  else if 0x80 ≤ c.toNat ∧ c.toNat < 0xA0 then
    ['\\', 'u', '\x7b'] ++ Hex.digits c.toNat ++ ['\x7d']
  else [c]

def Record.line (r : Record) : String :=
  let message := String.ofList (r.message.toList.flatMap spellSteering)
  r.fields.foldl (fun line (key, value) => line ++ " " ++ key ++ "=" ++ value.text) message

end VoiceHub
