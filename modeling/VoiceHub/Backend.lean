import VoiceHub.Grammar
import VoiceHub.Text.Scan
import VoiceHub.Text.Utf8
import VoiceHub.Url
import VoiceHub.World

/-!
The speech backend, a server with an API root.

A request either gets an answer with a status of success, or fails with a
`BackendError`.  The backend takes a grammar and trains on it, speaks, and opens
its microphone.

The hub speaks, publishes and listens at devices of its own or at a backend.
-/

namespace VoiceHub

inductive BackendError where
  | notReachable (url reason : String)
  | status (endpoint : String) (code : Nat) (body : String)
  deriving DecidableEq, Repr

def BackendError.message : BackendError → String
  | .notReachable url reason => "Rhasspy not reachable at " ++ url ++ ": " ++ reason
  | .status endpoint code body =>
      "Rhasspy returned " ++ Decimal.text code ++ " for " ++ endpoint ++ ": " ++ body

/-- The root has no slash at its end. -/
structure Backend where
  root : String
  deriving DecidableEq, Repr

namespace Backend

def ofUrl (url : String) : Backend :=
  ⟨String.ofList ((url.toList.reverse.dropWhile (· = '/')).reverse)⟩

def endpoint (b : Backend) (path : String) : String := b.root ++ "/" ++ path

def isSuccess (status : Nat) : Bool := 200 ≤ status && status < 300

/-- Why a request that has no answer has none. -/
def sendingFailed (target : String) : String :=
  "error sending request for url (" ++ target ++ ")"

/-- Why a request is not sent at all. -/
def refused (target : String) : String := "builder error for url (" ++ target ++ ")"

/-- The body of a successful answer. -/
def send (request : OutRequest) : Act (Except BackendError String) := do
  World.log .debug .backend ("Rhasspy request: " ++ request.url)
  match (Url.parse? request.url).map Url.withoutCredentials with
  | none => return .error (.notReachable request.url "builder error")
  | some target =>
      if !target.canBeAsked then
        return .error (.notReachable request.url (refused target.text))
      World.log .debug .connection ("starting new connection: " ++ target.server.text)
      match ← World.send request with
      | some (.reply status bytes) =>
          let body := Utf8.decodeLossy bytes
          if isSuccess status then return .ok body
          else return .error (.status request.url status body)
      | _ => return .error (.notReachable request.url (sendingFailed target.text))

def post (b : Backend) (path : String) (body : String := "")
    (contentType : Option String := none) : Act (Except BackendError String) :=
  send { method := "POST", url := b.endpoint path, contentType, body }

def version (b : Backend) : Act (Except BackendError String) :=
  send { method := "GET", url := b.endpoint "version" }

def isRunning (b : Backend) : Act Bool := return (← b.version).isOk

/-- Replaces every slot. -/
def postSlots (b : Backend) (slots : SlotDictionary) : Act (Except BackendError Unit) :=
  return (← b.post "slots?overwrite_all=true" slots.upload (some "application/json")).map
    fun _ => ()

def postSentences (b : Backend) (sentences : String) : Act (Except BackendError Unit) :=
  return (← b.post "sentences" sentences).map fun _ => ()

def train (b : Backend) : Act (Except BackendError String) := b.post "train?nocache=true"

def textToSpeech (b : Backend) (text : String) : Act (Except BackendError Unit) :=
  return (← b.post "text-to-speech" text).map fun _ => ()

def listenForCommand (b : Backend) : Act (Except BackendError Unit) :=
  return (← b.post "listen-for-command").map fun _ => ()

def trimmed (s : String) : String := String.ofList (Text.trim s.toList)

/-- A backend that does not answer is not available; one that refuses fails to speak. -/
def speak (b : Backend) (text : String) : Act (Except SpeakerError Unit) :=
  return (← b.textToSpeech text).mapError fun e =>
    match e with
    | .notReachable _ _ => .unavailable e.message
    | .status _ _ _ => .output e.message

def publish (b : Backend) : PublishCall → Act (Except PublishError Unit)
  | .slots slots =>
      return (← b.postSlots slots).mapError fun e => .upload .slots e.message
  | .sentences text =>
      return (← b.postSentences text).mapError fun e => .upload .sentences e.message
  | .train => do
      match ← b.train with
      | .error e => return .error (.train e.message)
      | .ok message =>
          World.log .info .backend ("Training finished: " ++ trimmed message)
          return .ok ()

def listen (b : Backend) : Act (Except String Unit) :=
  return (← b.listenForCommand).mapError BackendError.message

/-- The backend at a URL, if it answers. -/
def connect (url : String) : Act (Option Backend) := do
  let b := ofUrl url
  match ← b.version with
  | .ok version =>
      World.log .info .backend ("Connected to Rhasspy " ++ trimmed version ++ " at " ++ b.root)
      return some b
  | .error e =>
      World.log .warn .backend ("Rhasspy not available at " ++ url ++ ": " ++ e.message)
      return none

end Backend

/-! ## Devices and backends -/

/-- A speech output. -/
inductive Output where
  | device (index : Nat)
  | backend (backend : Backend)
  deriving DecidableEq, Repr

def Output.speak (text : String) : Output → Act (Except SpeakerError Unit)
  | .device index => World.speak index text
  | .backend b => b.speak text

/-- Where a grammar goes, and where the hub asks for a follow-up. -/
inductive Service where
  | device
  | backend (backend : Backend)
  deriving DecidableEq, Repr

namespace Service

def publish (call : PublishCall) : Service → Act (Except PublishError Unit)
  | .device => World.publish call
  | .backend b => b.publish call

def listen : Service → Act (Except String Unit)
  | .device => World.listen
  | .backend b => b.listen

end Service

end VoiceHub
