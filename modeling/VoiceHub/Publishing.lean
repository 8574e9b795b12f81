import VoiceHub.Backend

/-!
Publishing a grammar, and the report of it.

Slots go first, then the sentences, then training starts; what is empty is
skipped, and nothing is published if both are.  A failed step is reported and
does not stop the next one.  The report says of each of the three steps whether it
was skipped, succeeded or failed, and lists the texts of the failures in order.
-/

namespace VoiceHub

inductive StepOutcome where
  | skipped
  | succeeded
  | failed
  deriving DecidableEq, Repr

def StepOutcome.name : StepOutcome → String
  | .skipped => "skipped"
  | .succeeded => "succeeded"
  | .failed => "failed"

structure PublishReport where
  slots : StepOutcome := .skipped
  sentences : StepOutcome := .skipped
  training : StepOutcome := .skipped
  errors : List String := []
  deriving DecidableEq, Repr

namespace PublishReport

def isSuccess (r : PublishReport) : Bool := r.errors.isEmpty

def toJson (r : PublishReport) : Json :=
  .object [("slots", .text r.slots.name), ("sentences", .text r.sentences.name),
    ("training", .text r.training.name), ("errors", .texts r.errors)]

end PublishReport

namespace PublishReport

/-- The outcome of a call that was made; its failure joins the report. -/
def record (r : PublishReport) (result : Except PublishError Unit) :
    Act (StepOutcome × PublishReport) :=
  match result with
  | .ok () => return (.succeeded, r)
  | .error e => do
      World.log .error .publishing e.message
      return (.failed, { r with errors := r.errors ++ [e.message] })

end PublishReport

namespace Grammar

def publishSlots (g : Grammar) (service : Service) (r : PublishReport) : Act PublishReport := do
  if g.slots.isEmpty then return r
  World.log .info .publishing "Uploading slots" [("count", .number g.slots.size)]
  let (slots, r) ← r.record (← service.publish (.slots g.slots))
  return { r with slots }

def publishSentences (g : Grammar) (service : Service) (r : PublishReport) : Act PublishReport := do
  if g.sentences.isEmpty then return r
  World.log .info .publishing "Uploading sentences" [("bytes", .number g.sentences.utf8ByteSize)]
  let (sentences, r) ← r.record (← service.publish (.sentences g.sentences))
  return { r with sentences }

def publishTraining (service : Service) (r : PublishReport) : Act PublishReport := do
  World.log .info .publishing "Triggering training"
  let (training, r) ← r.record (← service.publish .train)
  return { r with training }

def publish (g : Grammar) (service : Service) : Act PublishReport := do
  if g.isEmpty then
    World.log .info .publishing "Grammar is empty, nothing to publish"
    return {}
  let r ← g.publishSlots service {}
  let r ← g.publishSentences service r
  publishTraining service r

/-- Compiles and publishes; nothing is called if the definitions do not compile. -/
def update (definitions : List Definition) (service : Service) :
    Act (Except GrammarError PublishReport) := do
  match compile definitions with
  | .error e => return .error e
  | .ok g =>
      World.log .info .publishing
        ("Compiled grammar for " ++ Decimal.text definitions.length ++ " definitions")
        [("slots", .number g.slots.size)]
      return .ok (← g.publish service)

end Grammar

end VoiceHub
