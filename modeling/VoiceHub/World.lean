import VoiceHub.Journal
import VoiceHub.Slots

/-!
What is outside of the hub: the devices and the network it calls, and a journal
of those calls and of the log.

The devices fail as their fault fields say, all the time or at single calls.  The
network is unreachable, or it answers requests with the replies in hand, one after
the other, and with an empty success when none is left; a single request may meet
with a mishap of its own.
-/

namespace VoiceHub

/-! ## What goes wrong outside -/

inductive SpeakerError where
  | output (reason : String)
  | unavailable (reason : String)
  deriving DecidableEq, Repr

def SpeakerError.message : SpeakerError → String
  | .output reason => "Speech output failed: " ++ reason
  | .unavailable reason => "Speaker not available: " ++ reason

inductive Artifact where
  | slots
  | sentences
  deriving DecidableEq, Repr

def Artifact.name : Artifact → String
  | .slots => "slots"
  | .sentences => "sentences"

inductive PublishError where
  | upload (artifact : Artifact) (reason : String)
  | train (reason : String)
  deriving DecidableEq, Repr

def PublishError.message : PublishError → String
  | .upload artifact reason => "Failed to upload " ++ artifact.name ++ ": " ++ reason
  | .train reason => "Training failed: " ++ reason

/-! ## Calls and the journal -/

/-- A request to a server elsewhere. -/
structure OutRequest where
  method : String
  url : String
  contentType : Option String := none
  body : String := ""
  deriving DecidableEq, Repr

/-- What becomes of a request that arrives. -/
inductive Exchange where
  | reply (status : Nat) (body : List UInt8)
  /-- The connection is closed without an answer. -/
  | lost
  deriving DecidableEq, Repr

inductive Network where
  | unreachable
  | serving (replies : List Exchange)
  deriving DecidableEq, Repr

inductive PublishCall where
  | slots (slots : SlotDictionary)
  | sentences (text : String)
  | train
  deriving DecidableEq, Repr

inductive Event where
  | log (record : Record)
  | speak (device : Nat) (text : String)
  | publish (call : PublishCall)
  | listen
  | request (request : OutRequest)
  deriving DecidableEq, Repr

def Event.isCall : Event → Bool
  | .log _ => false
  | _ => true

structure PublishFaults where
  slots : Option PublishError := none
  sentences : Option PublishError := none
  train : Option PublishError := none
  deriving DecidableEq, Repr

def PublishFaults.of (f : PublishFaults) : PublishCall → Option PublishError
  | .slots _ => f.slots
  | .sentences _ => f.sentences
  | .train => f.train

structure World where
  speakerFault : Nat → Option SpeakerError := fun _ => none
  publishFaults : PublishFaults := {}
  listenFault : Option String := none
  /-- Why a single call of a speaker fails, by its number among all calls. -/
  speakerMishap : Nat → Option SpeakerError := fun _ => none
  listenMishap : Nat → Option String := fun _ => none
  /-- What a single request gets in place of the reply in hand. -/
  exchangeMishap : Nat → OutRequest → Option Exchange := fun _ _ => none
  network : Network := .unreachable
  journal : List Event := []

/-- Something done to the world. -/
abbrev Act := StateM World

def ofFault {ε : Type} : Option ε → Except ε Unit
  | some e => .error e
  | none => .ok ()

namespace World

def note (event : Event) : Act Unit :=
  modify fun w => { w with journal := w.journal ++ [event] }

def log (level : Level) (origin : Origin) (message : String)
    (fields : List (String × FieldValue) := []) : Act Unit :=
  note (.log { level, origin, message, fields })

/-- How many calls were made so far. -/
def callCount (w : World) : Nat := w.journal.countP Event.isCall

def speakerFailure (w : World) (device : Nat) : Option SpeakerError :=
  (w.speakerFault device).or (w.speakerMishap w.callCount)

def listenFailure (w : World) : Option String :=
  w.listenFault.or (w.listenMishap w.callCount)

def exchange (w : World) (request : OutRequest) (replies : List Exchange) : Exchange :=
  (w.exchangeMishap w.callCount request).getD (replies.headD (.reply 200 []))

def speak (device : Nat) (text : String) : Act (Except SpeakerError Unit) := do
  note (.speak device text)
  return ofFault ((← get).speakerFailure device)

def publish (call : PublishCall) : Act (Except PublishError Unit) := do
  note (.publish call)
  return ofFault ((← get).publishFaults.of call)

def listen : Act (Except String Unit) := do
  note .listen
  return ofFault (← get).listenFailure

/-- What becomes of the next request; a request that does not arrive leaves no trace. -/
def send (request : OutRequest) : Act (Option Exchange) := do
  match (← get).network with
  | .unreachable => return none
  | .serving replies =>
      note (.request request)
      modify fun w => { w with network := .serving replies.tail }
      return some ((← get).exchange request replies)

end World

end VoiceHub
