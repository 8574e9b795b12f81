import VoiceHub.Proofs.Hub.Handling
import VoiceHub.Proofs.Run
import VoiceHub.Session

/-!
# Notifications that are held back

A notification center is visited by triggers and intents in any order, while
anything may happen to the rest of the hub in between.  What it holds back comes
out once and in order of arrival; everything else is spoken when it arrives.
-/

namespace VoiceHub

namespace NotificationCenter

inductive Visit where
  | trigger (t : Trigger)
  | intent (i : Intent)
  /-- Anything that happens to the rest of the hub, such as an output that fails. -/
  | elsewhere (change : Hub → Hub)

def visited (hub : Hub) : Visit → Hub
  | .trigger t => (Hub.deliver t hub).2
  | .intent i => (Hub.handle .notifications i hub).2
  | .elsewhere change => { change hub with center := hub.center }

/-- The notification that has to wait. -/
def heldBack (hub : Hub) : Visit → List String
  | .trigger (.notification message) =>
      if hub.center.holding then [message] else []
  | _ => []

/-- The text that answers a successful question for the first notification. -/
def readOut (hub : Hub) : Visit → List String
  | .intent i =>
      if i.name = firstIntent then
        match (Hub.handle .notifications i hub).1 with
        | .ok response => [response.text]
        | .error _ => []
      else []
  | _ => []

def quietName? : Visit → Option String
  | .intent i =>
      if i.name = holdIntent ∨ i.name = resumeIntent then some i.name else none
  | _ => none

variable {hub : Hub} {i : Intent}

/-! ## One visit -/

theorem handle_of_answer_ok {response : Response} {center : NotificationCenter}
    (h : hub.center.answer i = .ok (response, center)) :
    Hub.handle .notifications i hub = (.ok response, { hub with center }) := by
  simp [Hub.outcome, Hub.handled, h, Except.map]

theorem handle_of_answer_error {failure : Failure}
    (h : hub.center.answer i = .error failure) :
    Hub.handle .notifications i hub = (.error failure, hub) := by
  simp [Hub.outcome, Hub.handled, h, Except.map]

theorem hold?_eq_some_iff {c center : NotificationCenter} {t : Trigger} :
    c.hold? t = some center ↔
      c.holding = true ∧ ∃ message, t = .notification message ∧
        center = { c with queue := c.queue ++ [message] } := by
  cases t with
  | reminder message => simp [hold?]
  | notification message =>
      cases h : c.holding <;> simp [hold?, h, eq_comm]

theorem hold?_eq_none_iff {c : NotificationCenter} {t : Trigger} :
    c.hold? t = none ↔
      c.holding = false ∨ ∃ message, t = .reminder message := by
  cases t with
  | reminder message => simp [hold?]
  | notification message =>
      cases h : c.holding <;> simp [hold?, h]

theorem answer_eq_ok_iff {c center : NotificationCenter} {response : Response} :
    c.answer i = .ok (response, center) ↔
      (i.name = holdIntent ∧ response = { text := "Holding all notifications" } ∧
        center = { c with holding := true }) ∨
      (i.name = resumeIntent ∧
        response = { text := "Resuming all notifications" } ∧
        center = { c with holding := false }) ∨
      (i.name = countIntent ∧ response = { text := countText c.queue.length } ∧
        center = c) ∨
      (i.name = firstIntent ∧ ∃ rest, c.queue = response.text :: rest ∧
        response.continues = false ∧ center = { c with queue := rest }) := by
  obtain ⟨text, continues⟩ := response
  unfold answer
  by_cases hhold : i.name = holdIntent
  · simp [hhold, holdIntent, resumeIntent, countIntent, firstIntent, eq_comm]
  by_cases hresume : i.name = resumeIntent
  · simp [hresume, holdIntent, resumeIntent, countIntent, firstIntent, eq_comm]
  by_cases hcount : i.name = countIntent
  · simp [hcount, holdIntent, resumeIntent, countIntent, firstIntent, eq_comm]
  by_cases hfirst : i.name = firstIntent
  · cases c.queue <;>
      simp [hfirst, holdIntent, resumeIntent, countIntent, firstIntent,
        eq_comm, and_assoc, and_left_comm]
  · simp [hhold, hresume, hcount, hfirst]

theorem answer_eq_error_iff {c : NotificationCenter} {failure : Failure} :
    c.answer i = .error failure ↔
      (i.name = firstIntent ∧ c.queue = [] ∧
        failure = .error (.failed "The notification queue is empty")) ∨
      ((i.name ≠ holdIntent ∧ i.name ≠ resumeIntent ∧ i.name ≠ countIntent ∧
          i.name ≠ firstIntent) ∧
        failure = .error (.unsupportedIntent i.name)) := by
  unfold answer
  by_cases hhold : i.name = holdIntent
  · simp [hhold, holdIntent, firstIntent]
  by_cases hresume : i.name = resumeIntent
  · simp [hresume, holdIntent, resumeIntent, firstIntent]
  by_cases hcount : i.name = countIntent
  · simp [hcount, holdIntent, resumeIntent, countIntent, firstIntent]
  by_cases hfirst : i.name = firstIntent
  · cases c.queue <;>
      simp [hfirst, holdIntent, resumeIntent, countIntent, firstIntent, eq_comm]
  · simp [hhold, hresume, hcount, hfirst, eq_comm]

theorem queue_visited (hub : Hub) (v : Visit) :
    hub.center.queue ++ heldBack hub v =
      readOut hub v ++ (visited hub v).center.queue := by
  cases v with
  | trigger t =>
      cases hhold : hub.center.hold? t with
      | some center =>
          obtain ⟨hholding, message, rfl, rfl⟩ := hold?_eq_some_iff.mp hhold
          simp [heldBack, readOut, visited, Hub.deliver_of_hold hhold, hholding]
      | none =>
          rcases hold?_eq_none_iff.mp hhold with hholding | ⟨message, rfl⟩
          · cases t <;>
              simp [heldBack, readOut, visited, Hub.deliver_of_not_hold hhold, hholding]
          · simp [heldBack, readOut, visited, Hub.deliver_of_not_hold hhold]
  | intent i =>
      cases hanswer : hub.center.answer i with
      | error failure =>
          simp [heldBack, readOut, visited, Hub.outcome, Hub.handled, hanswer, Except.map]
      | ok result =>
          obtain ⟨response, center⟩ := result
          have hvisited : visited hub (.intent i) = { hub with center } := by
            simp [visited, Hub.handled, hanswer]
          rw [hvisited]
          rcases answer_eq_ok_iff.mp hanswer with
            ⟨hname, -, rfl⟩ | ⟨hname, -, rfl⟩ | ⟨hname, -, rfl⟩ |
              ⟨hname, rest, hqueue, -, rfl⟩
          · simp [heldBack, readOut, hname, holdIntent, firstIntent]
          · simp [heldBack, readOut, hname, resumeIntent, firstIntent]
          · simp [heldBack, readOut, hname, countIntent, firstIntent]
          · simp [heldBack, readOut, Hub.outcome, hanswer, Except.map, hname, hqueue]
  | elsewhere change => simp [heldBack, readOut, visited]

theorem holding_visited (hub : Hub) (v : Visit) :
    (visited hub v).center.holding =
      match quietName? v with
      | some name => decide (name = holdIntent)
      | none => hub.center.holding := by
  cases v with
  | trigger t =>
      change (Hub.deliver t hub).2.center.holding = hub.center.holding
      cases hhold : hub.center.hold? t with
      | some center =>
          obtain ⟨-, message, -, rfl⟩ := hold?_eq_some_iff.mp hhold
          rw [Hub.deliver_of_hold hhold]
      | none => rw [Hub.deliver_of_not_hold hhold, Hub.center_uttered]
  | intent i =>
      cases hanswer : hub.center.answer i with
      | error failure =>
          have hother : quietName? (.intent i) = none := by
            rcases answer_eq_error_iff.mp hanswer with ⟨hname, -⟩ | ⟨hname, -⟩
            · simp [quietName?, hname, firstIntent, holdIntent, resumeIntent]
            · simp [quietName?, hname.1, hname.2.1]
          rw [hother]
          exact congrArg (fun hub => hub.2.center.holding)
            (handle_of_answer_error hanswer)
      | ok result =>
          obtain ⟨response, center⟩ := result
          simp only [visited, handle_of_answer_ok hanswer]
          rcases answer_eq_ok_iff.mp hanswer with
            ⟨hname, -, rfl⟩ | ⟨hname, -, rfl⟩ | ⟨hname, -, rfl⟩ |
              ⟨hname, rest, -, -, rfl⟩
          · simp [quietName?, hname]
          · simp [quietName?, hname, holdIntent, resumeIntent]
          · simp [quietName?, hname, holdIntent, resumeIntent, countIntent]
          · simp [quietName?, hname, holdIntent, resumeIntent, firstIntent]
  | elsewhere change => rfl

/-- The last intent that asked for quiet or ended it decides. -/
theorem holding_foldl (hub : Hub) (visits : List Visit) :
    (visits.foldl visited hub).center.holding =
      match (visits.filterMap quietName?).getLast? with
      | some name => decide (name = holdIntent)
      | none => hub.center.holding := by
  induction visits generalizing hub with
  | nil => rfl
  | cons v visits ih =>
      rw [List.foldl_cons, ih, holding_visited]
      cases hname : quietName? v with
      | none => rw [List.filterMap_cons_none hname]
      | some name =>
          rw [List.filterMap_cons_some hname, List.getLast?_cons]
          cases (visits.filterMap quietName?).getLast? <;> rfl

/-- What a center does with anything that reaches it. -/
structure Attentive (hub : Hub) : Prop where
  /-- A notification is held back and nothing is said. -/
  holds : ∀ message, hub.center.holding = true →
    (Hub.deliver (.notification message) hub).2 =
      { hub.logged Hub.holdingRecord with
        center.queue := hub.center.queue ++ [message] }
  /-- Whatever is not held back is said once, and the queue stays as it is. -/
  speaks : ∀ t, hub.center.holding = false ∨ (∃ message, t = .reminder message) →
    (Hub.deliver t hub).2 =
        hub.uttered hub.triggerVoice t.message Hub.triggerFailure ∧
      (Hub.deliver t hub).2.center = hub.center ∧
      ∀ device, hub.output hub.triggerVoice = .device device →
        (Hub.deliver t hub).2.spoken = hub.spoken ++ [(device, t.message)]
  counts : ∀ i, i.name = "GetNumberOfNotifications" →
    Hub.handle .notifications i hub =
      (.ok
        { text := "There are " ++ Decimal.text hub.center.queue.length ++
            " notifications in the queue" },
        hub)
  /-- There is a first notification unless the queue is empty. -/
  reads : ∀ i, i.name = "GetFirstNotification" →
    ((∃ failure, (Hub.handle .notifications i hub).1 = .error failure) ↔
      hub.center.queue = [])
  resumes : ∀ i, i.name = "ResumeNotifications" →
    (Hub.handle .notifications i hub).2.center.queue = hub.center.queue
  /-- Intents are answered, not spoken. -/
  answers : ∀ i, (Hub.handle .notifications i hub).2.world = hub.world

theorem attentive (hub : Hub) : Attentive hub where
  holds message hholding := by
    have hhold : hub.center.hold? (.notification message) =
        some { hub.center with queue := hub.center.queue ++ [message] } :=
      hold?_eq_some_iff.mpr ⟨hholding, message, rfl, rfl⟩
    rw [Hub.deliver_of_hold hhold]
    rfl
  speaks t hspeak := by
    rw [Hub.deliver_of_not_hold (hold?_eq_none_iff.mpr hspeak)]
    refine ⟨rfl, Hub.center_uttered _ _ _ _, fun device hdevice => ?_⟩
    exact Hub.spoken_uttered hdevice _ _
  counts i hname := by
    have hanswer : hub.center.answer i =
        .ok ({ text := countText hub.center.queue.length }, hub.center) :=
      answer_eq_ok_iff.mpr (.inr (.inr (.inl ⟨hname, rfl, rfl⟩)))
    exact handle_of_answer_ok hanswer
  reads i hname := by
    constructor
    · rintro ⟨failure, hfailure⟩
      cases hanswer : hub.center.answer i with
      | ok result =>
          rw [handle_of_answer_ok hanswer] at hfailure
          cases hfailure
      | error failure =>
          rcases answer_eq_error_iff.mp hanswer with ⟨-, hqueue, -⟩ | ⟨hother, -⟩
          · exact hqueue
          · exact absurd hname hother.2.2.2
    · intro hqueue
      have hanswer := answer_eq_error_iff.mpr (.inl ⟨hname, hqueue, rfl⟩)
      exact ⟨_, congrArg Prod.fst (handle_of_answer_error hanswer)⟩
  resumes i hname := by
    have hanswer : hub.center.answer i =
        .ok ({ text := "Resuming all notifications" },
          { hub.center with holding := false }) :=
      answer_eq_ok_iff.mpr (.inr (.inl ⟨hname, rfl, rfl⟩))
    rw [handle_of_answer_ok hanswer]
  answers i := by
    cases hanswer : hub.center.answer i with
    | ok result => rw [handle_of_answer_ok hanswer]
    | error failure => rw [handle_of_answer_error hanswer]

/-- From a new center on, what was held back is what was read out and what waits. -/
theorem held_back_eq_read_out_append_queue (hub : Hub) (visits : List Visit) :
    let new : Hub := { hub with center := {} }
    let last := visits.foldl visited new
    collect visited heldBack new visits =
        collect visited readOut new visits ++ last.center.queue ∧
      (last.center.holding = true ↔
        (visits.filterMap quietName?).getLast? = some holdIntent) ∧
      Attentive last := by
  intro new last
  refine ⟨?_, ?_, attentive last⟩
  · exact queue_foldl queue_visited new visits
  · rw [holding_foldl new visits]
    cases (visits.filterMap quietName?).getLast? <;> simp [new]

def brokenHub : Hub :=
  Session.start { speakerFault := fun _ => some (.output "broken") } ⟨12, 34⟩
    (.ofOutput "Kitchen" (.device 0)) (some .selected) .selected 0

def twoQuietTimes : List Visit :=
  [.intent { name := "HoldNotifications", text := "" }, .trigger (.notification "post"),
    .trigger (.reminder "eggs"), .trigger (.notification "door"),
    .intent { name := "ResumeNotifications", text := "" }, .trigger (.notification "rain"),
    .intent { name := "GetFirstNotification", text := "" },
    .intent { name := "HoldNotifications", text := "" }, .trigger (.notification "mail")]

theorem held_back_eq_read_out_append_queue_twice :
    let last := twoQuietTimes.foldl visited brokenHub
    collect visited heldBack brokenHub twoQuietTimes = ["post", "door", "mail"] ∧
      collect visited readOut brokenHub twoQuietTimes = ["post"] ∧
      last.center.queue = ["door", "mail"] ∧
      last.spoken = [(0, "eggs"), (0, "rain")] ∧
      (Hub.handle .notifications { name := "GetNumberOfNotifications", text := "" } last).1 =
        .ok { text := "There are 2 notifications in the queue" } ∧
      Attentive last := by
  intro last
  obtain ⟨hbalance, -, hattentive⟩ :=
    held_back_eq_read_out_append_queue brokenHub twoQuietTimes
  have hcount : "There are " ++ Decimal.text 2 ++ " notifications in the queue" =
      "There are 2 notifications in the queue" := by
    decide +kernel
  refine ⟨hbalance.trans rfl, rfl, rfl, rfl, ?_, hattentive⟩
  exact (congrArg Prod.fst (hattentive.counts _ rfl)).trans
    (congrArg (fun text : String => (.ok { text := text } : Outcome)) hcount)

end NotificationCenter

end VoiceHub
