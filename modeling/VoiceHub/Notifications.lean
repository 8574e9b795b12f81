import VoiceHub.Definition
import VoiceHub.Intent

/-!
Events that are spoken without being asked for, the channel they travel on, and
whether they are held back.

A channel keeps triggers in order for its one receiver.  The receiver is held by
someone who takes triggers by hand, runs and delivers them, has finished, or is
gone; only the first two accept triggers.

While the user asked for quiet, notifications wait in a queue; reminders never
do.  The user may ask how many wait and take the first one.
-/

namespace VoiceHub

inductive Trigger where
  /-- Spoken at once, whatever the user asked for. -/
  | reminder (message : String)
  /-- May be held back. -/
  | notification (message : String)
  deriving DecidableEq, Repr

namespace Trigger

def message : Trigger → String
  | .reminder message => message
  | .notification message => message

def kind : Trigger → String
  | .reminder _ => "reminder"
  | .notification _ => "notification"

def toJson (t : Trigger) : Json :=
  .object [("kind", .text t.kind), ("message", .text t.message)]

end Trigger

inductive ReceiverState where
  | held
  | running
  | finished
  | dropped
  deriving DecidableEq, Repr

def ReceiverState.isOpen : ReceiverState → Bool
  | .held => true
  | .running => true
  | .finished => false
  | .dropped => false

structure Channel where
  queue : List Trigger := []
  receiver : ReceiverState := .held
  deriving DecidableEq, Repr

namespace Channel

/-- The channel with the trigger queued, unless nobody will receive it. -/
def emit? (c : Channel) (t : Trigger) : Option Channel :=
  if c.receiver.isOpen then some { c with queue := c.queue ++ [t] } else none

/-- The first trigger, for a receiver that is held. -/
def take? (c : Channel) : Option (Trigger × Channel) :=
  match c.receiver, c.queue with
  | .held, t :: rest => some (t, { c with queue := rest })
  | _, _ => none

/-- A dropped receiver takes the queued triggers with it. -/
def dropReceiver (c : Channel) : Channel :=
  if c.receiver = .held then { queue := [], receiver := .dropped } else c

def run (c : Channel) : Channel :=
  if c.receiver = .held then { c with receiver := .running } else c

end Channel

/-! ## Holding back -/

structure NotificationCenter where
  holding : Bool := false
  queue : List String := []
  deriving DecidableEq, Repr

namespace NotificationCenter

def holdIntent : String := "HoldNotifications"

def resumeIntent : String := "ResumeNotifications"

def countIntent : String := "GetNumberOfNotifications"

def firstIntent : String := "GetFirstNotification"

def definitions : List Definition :=
  [.simple holdIntent "Block notifications",
    .simple resumeIntent "Resume notifications",
    .simple countIntent "How many notifications are in the queue",
    .simple firstIntent "Tell me the first notification"]

def countText (n : Nat) : String := "There are " ++ Decimal.text n ++ " notifications in the queue"

def answer (c : NotificationCenter) (i : Intent) :
    Except Failure (Response × NotificationCenter) :=
  if i.name = holdIntent then
    .ok ({ text := "Holding all notifications" }, { c with holding := true })
  else if i.name = resumeIntent then
    .ok ({ text := "Resuming all notifications" }, { c with holding := false })
  else if i.name = countIntent then .ok ({ text := countText c.queue.length }, c)
  else if i.name = firstIntent then
    match c.queue with
    | [] => .error (.error (.failed "The notification queue is empty"))
    | first :: rest => .ok ({ text := first }, { c with queue := rest })
  else .error (.error (.unsupportedIntent i.name))

/-- The center with the trigger in its queue, if the trigger has to wait. -/
def hold? (c : NotificationCenter) : Trigger → Option NotificationCenter
  | .reminder _ => none
  | .notification message =>
      if c.holding then some { c with queue := c.queue ++ [message] } else none

end NotificationCenter

end VoiceHub
