import VoiceHub.Json
import VoiceHub.Slots
import VoiceHub.Url.Syntax

/-!
Requests to the hub, its answers, and the errors of its interface.
-/

namespace VoiceHub

namespace Http

structure Request where
  method : String
  /-- A path or an absolute address, which a query or a fragment may follow. -/
  target : String
  body : List UInt8 := []
  deriving DecidableEq, Repr

/-- The path that is asked for; in an absolute address it follows the server. -/
def Request.path (r : Request) : String :=
  let target := r.target.toList.takeWhile fun c => c ≠ '?' && c ≠ '#'
  match target.dropWhile Url.Scheme.isSchemeChar with
  | ':' :: '/' :: '/' :: rest => String.ofList (rest.dropWhile (· ≠ '/'))
  | _ => String.ofList target

structure Answer where
  status : Nat
  contentType : Option String := none
  allow : Option String := none
  body : String := ""
  deriving DecidableEq, Repr

def jsonType : String := "application/json"

def plainType : String := "text/plain; charset=utf-8"

def json (status : Nat) (v : Json) : Answer :=
  { status, contentType := some jsonType, body := v.compact }

def plain (status : Nat) (body : String) : Answer :=
  { status, contentType := some plainType, body }

def notFound : Answer := { status := 404 }

def methodNotAllowed (allow : String) : Answer := { status := 405, allow := some allow }

/-- The envelope of an answer that succeeds. -/
def success (data : Json) : Json := .object [("success", .bool true), ("data", data)]

def failure (message : String) : Json :=
  .object [("success", .bool false), ("message", .text message)]

end Http

inductive ApiError where
  | grammar (error : GrammarError)
  | badRequest (message : String)
  | internal (message : String)
  deriving DecidableEq, Repr

namespace ApiError

/-- The text of the error itself. -/
def text : ApiError → String
  | .grammar e => e.message
  | .badRequest message => "Bad Request: " ++ message
  | .internal message => "Internal Server Error: " ++ message

def status : ApiError → Nat
  | .grammar _ => 409
  | .badRequest _ => 400
  | .internal _ => 500

/-- The message that the answer carries. -/
def message : ApiError → String
  | .grammar e => "GrammarError: " ++ e.message
  | .badRequest message => message
  | .internal message => message

def answer (e : ApiError) : Http.Answer := Http.json e.status (Http.failure e.message)

end ApiError

end VoiceHub
