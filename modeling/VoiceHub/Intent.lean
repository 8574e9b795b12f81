import VoiceHub.Dict
import VoiceHub.Json.Reader

/-!
Recognized intents and what a handler makes of them.

A handler is asked with an `Intent` and ends in an `Outcome`: it answers with a
`Response`, or it fails with a `HandlerError` or a panic.

Intents are written as JSON text and read from it.
-/

namespace VoiceHub

structure Intent where
  name : String
  /-- The whole utterance. -/
  text : String
  parameters : Dict String := Dict.empty
  deriving DecidableEq

structure Response where
  text : String := ""
  /-- The backend listens for a follow-up without its wake word. -/
  continues : Bool := false
  deriving DecidableEq, Repr

inductive HandlerError where
  | unsupportedIntent (name : String)
  | missingParameter (name : String)
  | invalidParameter (name value : String)
  | failed (message : String)
  | other (message : String)
  deriving DecidableEq, Repr

def HandlerError.message : HandlerError → String
  | .unsupportedIntent name => "Don't know how to handle an intent of type " ++ name
  | .missingParameter name => "Missing parameter: " ++ name
  | .invalidParameter name value => "Invalid value '" ++ value ++ "' for parameter " ++ name
  | .failed message => message
  | .other message => message

namespace Intent

def withParameter (i : Intent) (name value : String) : Intent :=
  { i with parameters := i.parameters.insert name value }

def withParameters (i : Intent) (parameters : Dict String) : Intent :=
  { i with parameters := i.parameters.extend parameters }

def parameter? (i : Intent) (name : String) : Option String := i.parameters.find? name

def require (i : Intent) (name : String) : Except HandlerError String :=
  match i.parameter? name with
  | some value => .ok value
  | none => .error (.missingParameter name)

end Intent

/-- How a handler fails. -/
inductive Failure where
  | error (error : HandlerError)
  /-- The message is absent if the panic carried something that is no text. -/
  | panic (message : Option String)
  deriving DecidableEq, Repr

abbrev Outcome := Except Failure Response

def Failure.panicText (message : Option String) : String := message.getD "unknown panic"

/-- The answer to an intent that nobody declared. -/
def unknownIntentText (utterance : String) : String := "I do not know how to " ++ utterance

/-- The apology for a handler that failed. -/
def apologyText (utterance : String) : String :=
  "Something went wrong while handling your request: " ++ utterance

namespace Intent

def toJson (i : Intent) : Json :=
  .object [("name", .text i.name), ("text", .text i.text),
    ("parameters", .object (i.parameters.entries.map fun (name, value) => (name, .text value)))]

def fields : List (Json.Shape.Field Intent) :=
  [.of "name" true Json.Shape.text fun name i => { i with name },
   .of "text" true Json.Shape.text fun text i => { i with text },
   .of "parameters" false (Json.Shape.entries Json.Shape.text) fun entries i =>
     { i with parameters := Dict.ofList entries }]

def ofText (s : String) : Except Json.ReadError Intent :=
  Json.read (Json.Shape.record fields { name := "", text := "" }) s

end Intent

end VoiceHub
