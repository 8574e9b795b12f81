import VoiceHub.Http
import VoiceHub.Hub
import VoiceHub.Payload

/-!
The routes of the hub.

`POST /api/intent` takes a recognized intent, dispatches it and replies; the other
routes show the health, the intents and the grammar, and publish the grammar.  A
route that can be read answers HEAD as it answers GET, without a body.
-/

namespace VoiceHub

inductive Route where
  | health
  | intent
  | intents
  | grammar
  | publish
  deriving DecidableEq, Repr

namespace Route

def ofPath? (path : String) : Option Route :=
  if path = "/health" then some .health
  else if path = "/api/intent" then some .intent
  else if path = "/api/intents" then some .intents
  else if path = "/api/grammar" then some .grammar
  else if path = "/api/grammar/publish" then some .publish
  else none

def isRead : Route → Bool
  | .health => true
  | .intents => true
  | .grammar => true
  | .intent => false
  | .publish => false

def allow (r : Route) : String := if r.isRead then "GET,HEAD" else "POST"

def allows (r : Route) (method : String) : Bool :=
  if r.isRead then method = "GET" || method = "HEAD" else method = "POST"

end Route

/-- What a faulty payload is answered with. -/
def Json.ReadError.message : Json.ReadError → String
  | .malformed => "malformed text"
  | .mismatch => "a value of the wrong shape"
  | .ended => "the text ends too early"

namespace Hub

/-- Bodies that are longer than this are not read. -/
def bodyLimit : Nat := 2 * 1024 * 1024

def healthJson (hub : Hub) : Json :=
  .object [("handlers", .nat hub.registry.handlerCount), ("status", .text "ok")]

def intentsJson (hub : Hub) : Json :=
  .object
    [("handlers", .nat hub.registry.handlerCount), ("intents", .texts hub.registry.intentNames)]

/-- Dispatches a recognized payload and schedules the follow-up it asks for. -/
def respond (p : Payload) : HubM String := do
  if p.isRecognized then
    let response ← dispatch p.toIntent
    if response.continues then schedule (← get).followUpDelay .followUp
    return response.text
  else return ""

def receive (body : String) : HubM Http.Answer := do
  log .info .routes ("Received intent: " ++ body)
  match Payload.ofText body with
  | .error e =>
      return (ApiError.badRequest ("Invalid intent payload: " ++ e.message)).answer
  | .ok p =>
      let response ← respond p
      log .info .routes ("Response: " ++ response)
      let reply : Reply := { intent := p.name, seconds := Reply.roundedSeconds 0 0, response }
      return Http.json 200 reply.toJson

def receiveBytes (body : List UInt8) : HubM Http.Answer := do
  if bodyLimit < body.length then
    return Http.plain 413 "Failed to buffer the request body: length limit exceeded"
  match Utf8.decode body with
  | .ok text => receive text
  | .error e =>
      return Http.plain 400 ("Request body didn't contain valid UTF-8: " ++ e.message)

def answer (body : List UInt8) : Route → HubM Http.Answer
  | .health => return Http.json 200 (Http.success (← get).healthJson)
  | .intent => receiveBytes body
  | .intents => return Http.json 200 (Http.success (← get).intentsJson)
  | .grammar => do
      match (← get).grammar with
      | .ok g => return Http.json 200 (Http.success g.toJson)
      | .error e => return (ApiError.grammar e).answer
  | .publish => do
      match ← update with
      | .ok report => return Http.json 200 (Http.success report.toJson)
      | .error e => return (ApiError.grammar e).answer

def serve (request : Http.Request) : HubM Http.Answer := do
  match Route.ofPath? request.path with
  | none => return Http.notFound
  | some route =>
      if !route.allows request.method then return Http.methodNotAllowed route.allow
      let full ← answer request.body route
      return if request.method = "HEAD" then { full with body := "" } else full

end Hub

end VoiceHub
