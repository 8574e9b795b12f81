import VoiceHub.Clock
import VoiceHub.Publishing
import VoiceHub.Registry

/-!
The hub at a moment: its registry, the state of its handlers, the trigger channel,
what it will do later, and the world it acts on.

Time is counted in milliseconds and only passes by `advance`.  Expired timers put
reminders on the channel, follow-ups open the microphone; `settle` does all that
is due, in order of deadline and then of creation, lets a running receiver
deliver the queued triggers, and closes it when no sender is left.
-/

namespace VoiceHub

/-- Who speaks: one output whatever is selected, or the selected one. -/
inductive Voice where
  | fixed (output : Output)
  | selected
  deriving DecidableEq, Repr

inductive Job where
  | timer (seconds : Nat)
  | followUp
  deriving DecidableEq, Repr

def Job.isTimer : Job → Bool
  | .timer _ => true
  | .followUp => false

structure Task where
  due : Nat
  job : Job
  deriving DecidableEq, Repr

/-- Ties stay in the order of creation. -/
def Task.sortByDue (tasks : List Task) : List Task :=
  tasks.mergeSort fun task later => task.due ≤ later.due

structure Hub where
  world : World := {}
  /-- The time of day that is told. -/
  clock : TimeOfDay
  now : Nat := 0
  registry : Registry := {}
  center : NotificationCenter := {}
  selector : Selector
  /-- Who speaks the answers, if anyone does. -/
  answerVoice : Option Voice
  triggerVoice : Voice
  channel : Channel := {}
  tasks : List Task := []
  /-- Someone outside holds a sender of the channel. -/
  senderHeld : Bool := false
  /-- Someone outside holds the timer handler and its sender. -/
  timerHeld : Bool := false
  followUpDelay : Nat
  publisher : Service
  listener : Service

abbrev HubM := StateM Hub

namespace Hub

def outside {α : Type} (act : Act α) : HubM α := fun hub =>
  let (result, world) := act hub.world
  (result, { hub with world })

def log (level : Level) (origin : Origin) (message : String)
    (fields : List (String × FieldValue) := []) : HubM Unit :=
  outside (World.log level origin message fields)

section Speaking

def output (hub : Hub) : Voice → Output
  | .fixed output => output
  | .selected => hub.selector.currentOutput

def speak (voice : Voice) (text : String) : HubM (Except SpeakerError Unit) := do
  outside (((← get).output voice).speak text)

end Speaking

section Triggers

/-- A trigger given to the notification center: held back, or spoken. -/
def deliver (t : Trigger) : HubM Unit := do
  let hub ← get
  match hub.center.hold? t with
  | some center =>
      log .info .notifications "Holding notification"
      modify fun hub => { hub with center }
  | none =>
      match ← speak hub.triggerVoice t.message with
      | .ok () => return ()
      | .error e => log .error .notifications ("Failed to speak trigger: " ++ e.message)

/-- Whether the trigger was queued. -/
def emit (t : Trigger) : HubM Bool := do
  match (← get).channel.emit? t with
  | some channel =>
      modify fun hub => { hub with channel }
      return true
  | none =>
      log .debug .triggers ("No trigger subscriber, discarding: " ++ t.message)
      return false

/-- Someone may still put a trigger on the channel. -/
def hasSender (hub : Hub) : Bool :=
  hub.senderHeld || hub.timerHeld || hub.registry.hasTimer || hub.tasks.any (·.job.isTimer)

/-- The next trigger for a receiver that is held. -/
def take : HubM (Option Trigger) := do
  match (← get).channel.take? with
  | some (t, channel) =>
      modify fun hub => { hub with channel }
      return some t
  | none => return none

end Triggers

section Later

/-- Adds a job that is due after a delay in milliseconds. -/
def schedule (delay : Nat) (job : Job) : HubM Unit :=
  modify fun hub =>
    { hub with tasks := hub.tasks ++ [{ due := Deadline.after hub.now delay, job }] }

def perform : Job → HubM Unit
  | .timer seconds => do
      log .info .timer Timer.expiry [("seconds", .number seconds)]
      let _ ← emit (.reminder Timer.expiry)
  | .followUp => do
      log .debug .followUp "Listening for follow-up command"
      match ← outside (← get).listener.listen with
      | .ok () => return ()
      | .error e =>
          log .error .followUp ("Failed to start listening for a follow-up command: " ++ e)

def isDue (now : Nat) (task : Task) : Bool := task.due ≤ now

def runDue : HubM Unit := do
  let hub ← get
  let due := Task.sortByDue (hub.tasks.filter (isDue hub.now))
  set { hub with tasks := hub.tasks.filter fun task => !isDue hub.now task }
  due.forM fun task => perform task.job

def deliverQueued : HubM Unit := do
  let hub ← get
  if hub.channel.receiver = .running then
    set { hub with channel := { hub.channel with queue := [] } }
    hub.channel.queue.forM deliver

def closeChannel : HubM Unit := do
  let hub ← get
  if hub.channel.receiver = .running ∧ hub.hasSender = false then
    log .debug .triggers "Trigger channel closed"
    modify fun hub => { hub with channel := { hub.channel with receiver := .finished } }

def settle : HubM Unit := do
  runDue
  deliverQueued
  closeChannel

def advance (milliseconds : Nat) : HubM Unit :=
  modify fun hub => { hub with now := hub.now + milliseconds }

end Later

section Dispatch

def register (h : Handler) : HubM Unit := do
  let hub ← get
  (Registry.registerRecords h hub.registry h.definitions).forM fun record =>
    outside (World.note (.log record))
  modify fun hub => { hub with registry := hub.registry.register h }

def handle (b : Behaviour) (i : Intent) : HubM Outcome := do
  let hub ← get
  match b with
  | .timeOfDay => return .ok { text := hub.clock.answer }
  | .timer =>
      match Timer.seconds i with
      | .error failure => return .error failure
      | .ok seconds =>
          schedule (1000 * seconds) (.timer seconds)
          return .ok { text := Timer.answerText seconds }
  | .notifications =>
      match hub.center.answer i with
      | .error failure => return .error failure
      | .ok (response, center) =>
          modify fun hub => { hub with center }
          return .ok response
  | .speakerSelect =>
      match hub.selector.answer i with
      | .error failure => return .error failure
      | .ok (response, selector) =>
          modify fun hub => { hub with selector }
          log .info .selector "Selected speaker" [("speaker", .plain selector.currentName)]
          return .ok response
  | .unknown => return .ok { text := Handler.notUnderstood }
  | .custom respond => return respond i

/-- Asks the handler and turns its failure into an apology. -/
def invoke (h : Handler) (i : Intent) : HubM Response := do
  let fields := [("intent", .quoted i.name), ("handler", .quoted h.name)]
  log .info .registry "Dispatching intent" fields
  match ← handle h.behaviour i with
  | .ok response => return response
  | .error (.error e) =>
      log .error .registry ("Error occurred in intent handler: " ++ e.message) fields
      return { text := apologyText i.text }
  | .error (.panic message) =>
      log .error .registry ("Intent handler panicked: " ++ Failure.panicText message) fields
      return { text := apologyText i.text }

/-- Speaks an answer that has a text. -/
def speakAnswer (i : Intent) (response : Response) : HubM Unit := do
  match (← get).answerVoice with
  | none => return ()
  | some voice =>
      if response.text ≠ "" then
        match ← speak voice response.text with
        | .ok () => return ()
        | .error e =>
            log .error .registry ("Failed to speak response: " ++ e.message)
              [("intent", .quoted i.name)]

def dispatch (i : Intent) : HubM Response := do
  let response ← match (← get).registry.route? i.name with
    | some h => invoke h i
    | none => do
        log .info .registry "No intent handler registered" [("intent", .quoted i.name)]
        pure { text := unknownIntentText i.text }
  speakAnswer i response
  return response

end Dispatch

section Publishing

def grammar (hub : Hub) : Except GrammarError Grammar := Grammar.compile hub.registry.definitions

def update : HubM (Except GrammarError PublishReport) := do
  let hub ← get
  outside (Grammar.update hub.registry.definitions hub.publisher)

end Publishing

end Hub

end VoiceHub
