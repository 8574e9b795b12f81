import VoiceHub.Routes

/-!
Sessions: a hub driven step by step.

A `Step` is anything that can be done to a hub from outside, or a change of the
world around it.  `perform` does one step, settles the hub and says what the
step answered; `run` does one step after the other.
-/

namespace VoiceHub

namespace Session

inductive Step where
  | register (handler : Handler)
  | builtin (builtin : Builtin)
  | dispatch (intent : Intent)
  /-- Asks a handler without the registry. -/
  | call (builtin : Builtin) (intent : Intent)
  | names
  | contains (intentName : String)
  | count
  | definitions
  | compile
  | update
  | request (request : Http.Request)
  | emit (trigger : Trigger)
  | tryReceive
  | receive
  /-- Hands all queued triggers to the notification center. -/
  | pump
  | run
  | dropSender
  | dropTimer
  | dropReceiver
  | trigger (trigger : Trigger)
  | advance (milliseconds : Nat)
  | select (name : String)
  | speak (text : String)
  | outputs
  | state
  | setSpeakerFault (device : Nat) (fault : Option SpeakerError)
  | setPublishFaults (faults : PublishFaults)
  | setListenFault (fault : Option String)
  | addReplies (replies : List Exchange)

/-- What a receiver sees that looks once. -/
inductive Poll where
  | pending
  | closed
  | ready (trigger : Trigger)
  deriving DecidableEq, Repr

structure Status where
  holding : Bool
  queued : Nat
  current : String
  receiver : ReceiverState
  deriving DecidableEq, Repr

inductive Answer where
  | done
  | flag (value : Bool)
  | number (n : Nat)
  | names (names : List String)
  | response (response : Response)
  | outcome (outcome : Outcome)
  | grammar (result : Except GrammarError Grammar)
  | report (result : Except GrammarError PublishReport)
  | http (answer : Http.Answer)
  | taken (trigger : Option Trigger)
  | poll (poll : Poll)
  | spoken (result : Except SpeakerError Unit)
  | status (status : Status)
  | noSender
  | noReceiver
  | noTimer

open Hub

/-- Triggers that are taken and delivered, at most so many. -/
def pump : Nat → HubM Nat
  | 0 => return 0
  | limit + 1 => do
      match ← take with
      | none => return 0
      | some t =>
          deliver t
          return (← pump limit) + 1

def poll : HubM Poll := do
  match ← take with
  | some t => return .ready t
  | none => return if (← get).hasSender then .pending else .closed

def addReplies (replies : List Exchange) : Network → Network
  | .unreachable => .unreachable
  | .serving left => .serving (left ++ replies)

def changeWorld (change : World → World) : HubM Answer := do
  outside (modify change)
  return .done

def isAbsent (hub : Hub) (b : Builtin) : Bool := b = .timer && !hub.timerHeld

/-- One step, before the hub settles. -/
def act (step : Step) : HubM Answer := do
  let hub ← get
  match step with
  | .register h =>
      register h
      return .number (hub.registry.handlerCount + 1)
  | .builtin b =>
      if isAbsent hub b then return .noTimer
      register (b.handler hub.selector)
      return .number (hub.registry.handlerCount + 1)
  | .dispatch i => return .response (← dispatch i)
  | .call b i =>
      if isAbsent hub b then return .noTimer
      return .outcome (← handle b.behaviour i)
  | .names => return .names hub.registry.intentNames
  | .contains name => return .flag (hub.registry.contains name)
  | .count => return .number hub.registry.handlerCount
  | .definitions => return .names (hub.registry.definitions.map Definition.name)
  | .compile => return .grammar hub.grammar
  | .update => return .report (← update)
  | .request request => return .http (← serve request)
  | .emit t =>
      if hub.senderHeld then return .flag (← emit t)
      return .noSender
  | .tryReceive => return .taken (← take)
  | .receive =>
      if hub.channel.receiver = .held then return .poll (← poll)
      return .noReceiver
  | .pump => return .number (← pump hub.channel.queue.length)
  | .run =>
      if hub.channel.receiver = .held then
        set { hub with channel := hub.channel.run }
        return .done
      return .noReceiver
  | .dropSender =>
      set { hub with senderHeld := false }
      return .flag hub.senderHeld
  | .dropTimer =>
      set { hub with timerHeld := false }
      return .flag hub.timerHeld
  | .dropReceiver =>
      set { hub with channel := hub.channel.dropReceiver }
      return .flag (hub.channel.receiver = .held)
  | .trigger t =>
      deliver t
      return .done
  | .advance milliseconds =>
      advance milliseconds
      return .done
  | .select name =>
      match hub.selector.select? name with
      | some selector =>
          set { hub with selector }
          log .info .selector "Selected speaker" [("speaker", .plain selector.currentName)]
          return .flag true
      | none => return .flag false
  | .speak text => return .spoken (← speak .selected text)
  | .outputs => return .names hub.selector.names
  | .state =>
      return .status
        { holding := hub.center.holding, queued := hub.center.queue.length
          current := hub.selector.currentName, receiver := hub.channel.receiver }
  | .setSpeakerFault device fault =>
      changeWorld fun w =>
        { w with
          speakerFault := fun other => if other = device then fault else w.speakerFault other }
  | .setPublishFaults faults => changeWorld fun w => { w with publishFaults := faults }
  | .setListenFault fault => changeWorld fun w => { w with listenFault := fault }
  | .addReplies replies => changeWorld fun w => { w with network := addReplies replies w.network }

def perform (step : Step) : HubM Answer := do
  let answer ← act step
  settle
  return answer

/-- The answers of all steps. -/
def run : List Step → HubM (List Answer)
  | [] => return []
  | step :: steps => do
      let answer ← perform step
      return answer :: (← run steps)

/-- A hub with outputs at devices, whose sender and timer handler someone holds. -/
def start (world : World) (clock : TimeOfDay) (selector : Selector) (answerVoice : Option Voice)
    (triggerVoice : Voice) (followUpDelay : Nat) : Hub :=
  { world, clock, selector, answerVoice, triggerVoice, followUpDelay
    senderHeld := true, timerHeld := true, publisher := .device, listener := .device }

end Session

end VoiceHub
