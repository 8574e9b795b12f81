import VoiceHub.Clock
import VoiceHub.Journal
import VoiceHub.Notifications
import VoiceHub.Selector

/-!
Handlers, and which of them is asked for which intent.

A handler has a name for the log, the definitions it declares, and what it does.
Every named definition of a handler routes its intent to the handler, and the
last registration of a name wins.  All definitions are kept in order, repeated
and unnamed ones included.
-/

namespace VoiceHub

inductive Behaviour where
  | timeOfDay
  | timer
  | notifications
  | speakerSelect
  | unknown
  | custom (respond : Intent → Outcome)

def Behaviour.isTimer : Behaviour → Bool
  | .timer => true
  | _ => false

structure Handler where
  name : String
  definitions : List Definition
  behaviour : Behaviour

namespace Handler

def timeOfDay : Handler :=
  { name := "time", definitions := [.simple "GetTime" "What time is it"], behaviour := .timeOfDay }

def timer : Handler := { name := "timer", definitions := Timer.definitions, behaviour := .timer }

def notifications : Handler :=
  { name := "notifications", definitions := NotificationCenter.definitions,
    behaviour := .notifications }

def speakerSelect (s : Selector) : Handler :=
  { name := "speaker-select", definitions := s.definitions, behaviour := .speakerSelect }

/-- Declares a definition without a name, so it is never asked. -/
def unknown : Handler :=
  { name := "unknown", definitions := [{ name := "" }], behaviour := .unknown }

def notUnderstood : String := "I'm sorry, but I could not understand what you asked."

end Handler

/-- The handlers that come with the hub. -/
inductive Builtin where
  | timeOfDay
  | timer
  | notifications
  | speakerSelect
  | unknown
  deriving DecidableEq, Repr

namespace Builtin

def behaviour : Builtin → Behaviour
  | .timeOfDay => .timeOfDay
  | .timer => .timer
  | .notifications => .notifications
  | .speakerSelect => .speakerSelect
  | .unknown => .unknown

def handler (selector : Selector) : Builtin → Handler
  | .timeOfDay => .timeOfDay
  | .timer => .timer
  | .notifications => .notifications
  | .speakerSelect => .speakerSelect selector
  | .unknown => .unknown

/-- In the order in which a hub registers them. -/
def all : List Builtin := [.timeOfDay, .timer, .notifications, .speakerSelect, .unknown]

end Builtin

/-! ## Routes -/

structure Registry where
  handlers : List Handler := []
  routes : Dict Handler := Dict.empty

namespace Registry

def add (h : Handler) (r : Registry) (d : Definition) : Registry :=
  if d.isNamed then { r with routes := r.routes.insert d.name h } else r

def addRecord? (h : Handler) (r : Registry) (d : Definition) : Option Record :=
  if d.isNamed then
    match r.routes.find? d.name with
    | some previous =>
        some
          { level := .warn, origin := .registry
            message := "Intent already registered, last registration wins"
            fields :=
              [("intent", .quoted d.name), ("previous", .quoted previous.name),
                ("handler", .quoted h.name)] }
    | none =>
        some
          { level := .info, origin := .registry, message := "Added subscription for intent"
            fields := [("intent", .quoted d.name), ("handler", .quoted h.name)] }
  else none

def register (r : Registry) (h : Handler) : Registry :=
  { handlers := r.handlers ++ [h], routes := (h.definitions.foldl (add h) r).routes }

/-- What the log says of a registration, definition by definition. -/
def registerRecords (h : Handler) : Registry → List Definition → List Record
  | _, [] => []
  | r, d :: ds => (addRecord? h r d).toList ++ registerRecords h (add h r d) ds

def route? (r : Registry) (intentName : String) : Option Handler := r.routes.find? intentName

def contains (r : Registry) (intentName : String) : Bool := (r.route? intentName).isSome

/-- The routed names in ascending order. -/
def intentNames (r : Registry) : List String := r.routes.sortedKeys

def handlerCount (r : Registry) : Nat := r.handlers.length

def definitions (r : Registry) : List Definition := r.handlers.flatMap Handler.definitions

def hasTimer (r : Registry) : Bool := r.handlers.any fun h => h.behaviour.isTimer

end Registry

end VoiceHub
