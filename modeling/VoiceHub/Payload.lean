import VoiceHub.Intent
import VoiceHub.Json.Reader
import VoiceHub.Json

/-!
What the speech backend posts for a recognized intent, and the reply to it.

Only the name of the intent, the utterance and the slots are kept.  A slot value
becomes a parameter: a text as it is, null not at all, anything else as its
compact JSON text.
-/

namespace VoiceHub

structure Payload where
  intentName : Option String := none
  text : String := ""
  slots : Dict Json := Dict.empty

namespace Payload

def name (p : Payload) : String := p.intentName.getD ""

/-- There is something to dispatch. -/
def isRecognized (p : Payload) : Bool := p.name ≠ "" && p.text ≠ ""

def slotText? : Json → Option String
  | .null => none
  | .text value => some value
  | value => some value.compact

def toIntent (p : Payload) : Intent :=
  let parameters := p.slots.entries.filterMap fun (slot, value) =>
    (slotText? value).map fun text => (slot, text)
  { name := p.name, text := p.text, parameters := Dict.ofList parameters }

/-- The recognition itself; its confidence has to be a number and is not kept. -/
def recognitionFields : List (Json.Shape.Field (Option String)) :=
  [.of "name" false Json.Shape.optionalText fun name _ => name,
   .of "confidence" false Json.Shape.number fun _ name => name]

def fields : List (Json.Shape.Field Payload) :=
  [.of "intent" false (Json.Shape.record recognitionFields none)
     fun intentName p => { p with intentName },
   .of "text" false Json.Shape.text fun text p => { p with text },
   .of "slots" false (Json.Shape.entries Json.Shape.value)
     fun entries p => { p with slots := Dict.ofList entries }]

def ofText (s : String) : Except Json.ReadError Payload :=
  Json.read (Json.Shape.record fields {}) s

end Payload

/-- The reply names the intent again, with the time it took. -/
structure Reply where
  intent : String
  seconds : Float
  response : String

namespace Reply

/-- Seconds rounded to hundredths, halves away from zero. -/
def roundedSeconds (seconds nanoseconds : Nat) : Float :=
  let whole := (seconds + nanoseconds / 1000000000).toUInt64.toFloat
  let part := (nanoseconds % 1000000000).toUInt64.toFloat / 1000000000
  ((whole + part) * 100).round / 100

/-- A time whose whole seconds do not fit in 64 bits is a panic. -/
def after (seconds nanoseconds : Nat) (intent response : String) : Except Failure Reply :=
  if seconds + nanoseconds / 1000000000 < Decimal.wordLimit then
    .ok { intent, seconds := roundedSeconds seconds nanoseconds, response }
  else .error (.panic (some "overflow in Duration::new"))

def toJson (r : Reply) : Json :=
  .object [("intent", .text r.intent), ("time_sec", .float r.seconds),
    ("response", .text r.response)]

def fields : List (Json.Shape.Field Reply) :=
  [.of "intent" true Json.Shape.text fun intent r => { r with intent },
   .of "time_sec" true Json.Shape.number fun seconds r => { r with seconds },
   .of "response" true Json.Shape.text fun response r => { r with response }]

def ofText (s : String) : Except Json.ReadError Reply :=
  Json.read (Json.Shape.record fields { intent := "", seconds := 0, response := "" }) s

end Reply

end VoiceHub
