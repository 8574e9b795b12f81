import VoiceHub.Proofs.Hub.Beside
import VoiceHub.Proofs.Notifications.Holding
import VoiceHub.Proofs.Setup.Builtins

/-!
# What an intent may change

A built-in handler that fails, whichever way, leaves the hub as it was.  One that
succeeds changes the part of the hub that it is there for and nothing else.  A
dispatch adds what is told in the log and said aloud, so in the hub of any
configuration an intent reaches no further than its handler.
-/

namespace VoiceHub

/-! ## The effect of a handler -/

/-- What is left of the hub, but for the log, when a handler has been asked: all that
the handlers can do, one case for each way in which they end. -/
inductive Builtin.Effect (i : Intent) (hub : Hub) : Builtin → Outcome → Hub → Prop where
  | failed (b : Builtin) (failure : Failure) : Effect i hub b (.error failure) hub
  | timeOfDay (response : Response) : Effect i hub .timeOfDay (.ok response) hub
  | unknown (response : Response) : Effect i hub .unknown (.ok response) hub
  | timer {seconds : Nat} (response : Response) (h : Timer.seconds i = .ok seconds) :
      Effect i hub .timer (.ok response)
        { hub with tasks := hub.tasks ++ [hub.timerTask seconds] }
  | hold (response : Response) (h : i.name = NotificationCenter.holdIntent) :
      Effect i hub .notifications (.ok response) { hub with center.holding := true }
  | resume (response : Response) (h : i.name = NotificationCenter.resumeIntent) :
      Effect i hub .notifications (.ok response) { hub with center.holding := false }
  | count (response : Response) (h : i.name = NotificationCenter.countIntent) :
      Effect i hub .notifications (.ok response) hub
  | first (response : Response) {rest : List String}
      (h : i.name = NotificationCenter.firstIntent)
      (hqueue : hub.center.queue = response.text :: rest) :
      Effect i hub .notifications (.ok response) { hub with center.queue := rest }
  | select (response : Response) {place : Nat}
      (h : place < hub.selector.outputs.entries.length) :
      Effect i hub .speakerSelect (.ok response)
        { hub with selector := { hub.selector with current := place, current_lt := h } }

def Builtin.Leaves (b : Builtin) (i : Intent) (hub : Hub) (outcome : Outcome)
    (final : Hub) : Prop :=
  ∃ after w, b.Effect i hub outcome after ∧ final = { after with world := w }

theorem Selector.eq_of_answer {s selector : Selector} {i : Intent} {response : Response}
    (h : s.answer i = .ok (response, selector)) :
    ∃ place hplace, selector = { s with current := place, current_lt := hplace } := by
  unfold answer at h
  split at h
  · cases h
  · split at h
    · next selected hselect =>
        cases h
        exact eq_of_select? hselect
    · cases h

namespace Hub

variable (i : Intent) (hub : Hub)

theorem leaves_handled (b : Builtin) (w : World) :
    b.Leaves i hub (hub.outcome b.behaviour i)
      (Hub.handled { hub with world := w } b.behaviour i) := by
  have hsame := planned_nil { hub with world := w }
  unfold outcome handled
  cases b with
  | timeOfDay => exact ⟨hub, w, .timeOfDay _, hsame⟩
  | unknown => exact ⟨hub, w, .unknown _, hsame⟩
  | timer =>
      dsimp only [Builtin.behaviour, timerTasks]
      cases hseconds : Timer.seconds i with
      | error failure => exact ⟨hub, w, .failed _ failure, hsame⟩
      | ok seconds => exact ⟨_, w, .timer _ hseconds, rfl⟩
  | notifications =>
      dsimp only [Builtin.behaviour]
      cases hanswer : hub.center.answer i with
      | error failure => exact ⟨hub, w, .failed _ failure, rfl⟩
      | ok result =>
          obtain ⟨response, center⟩ := result
          rcases NotificationCenter.answer_eq_ok_iff.mp hanswer with
            ⟨hname, -, rfl⟩ | ⟨hname, -, rfl⟩ | ⟨hname, -, rfl⟩ | ⟨hname, rest, hqueue, -, rfl⟩
          · exact ⟨_, w, .hold _ hname, rfl⟩
          · exact ⟨_, w, .resume _ hname, rfl⟩
          · exact ⟨_, w, .count _ hname, rfl⟩
          · exact ⟨_, w, .first _ hname hqueue, rfl⟩
  | speakerSelect =>
      dsimp only [Builtin.behaviour]
      cases hanswer : hub.selector.answer i with
      | error failure => exact ⟨hub, w, .failed _ failure, rfl⟩
      | ok result =>
          obtain ⟨response, selector⟩ := result
          obtain ⟨place, hplace, rfl⟩ := Selector.eq_of_answer hanswer
          exact ⟨_, _, .select _ hplace, rfl⟩

/-! ## Through a dispatch -/

theorem answered_eq (response : Response) :
    ∃ w, hub.answered i response = { hub with world := w } := by
  unfold answered
  split
  · exact ⟨hub.world, rfl⟩
  · next voice _ =>
      split
      · exact ⟨hub.world, rfl⟩
      · exact ⟨_, uttered_eq hub voice response.text (answerFailure i)⟩

theorem reported_eq (h : Handler) (outcome : Outcome) :
    ∃ w, hub.reported h i outcome = { hub with world := w } := by
  cases outcome with
  | ok response => exact ⟨hub.world, rfl⟩
  | error failure => exact ⟨_, rfl⟩

theorem dispatch_of_unrouted (h : hub.registry.route? i.name = none) :
    ∃ w, (dispatch i hub).2 = { hub with world := w } := by
  obtain ⟨w, hanswered⟩ := answered_eq i (hub.logged (unroutedRecord i))
    { text := unknownIntentText i.text }
  simp only [dispatch_apply, replied, h]
  exact ⟨w, hanswered⟩

theorem leaves_dispatch {h : Handler} {b : Builtin}
    (hroute : hub.registry.route? i.name = some h) (hbehaviour : h.behaviour = b.behaviour) :
    b.Leaves i hub (hub.outcome b.behaviour i) (dispatch i hub).2 := by
  have htold : hub.logged (dispatchRecord h i) =
      { hub with world := (hub.logged (dispatchRecord h i)).world } := rfl
  obtain ⟨after, w, heffect, hhandled⟩ :=
    leaves_handled i hub b (hub.logged (dispatchRecord h i)).world
  simp only [dispatch_apply, replied, hroute, invoke_apply, handle_apply, hbehaviour]
  rw [htold, hhandled]
  obtain ⟨w', hreported⟩ := reported_eq i { after with world := w } h (hub.outcome b.behaviour i)
  obtain ⟨w'', hanswered⟩ := answered_eq i { after with world := w' }
    ((hub.outcome b.behaviour i).reply i.text)
  refine ⟨after, w'', heffect, ?_⟩
  rw [← hanswered, ← hreported]
  rfl

end Hub

/-! ## In the hub of a configuration -/

/-- The parts that an intent of this name leaves alone: all but the one that it is there
for. -/
structure Hub.Spares (intentName : String) (hub after : Hub) : Prop where
  holding : intentName ≠ NotificationCenter.holdIntent →
    intentName ≠ NotificationCenter.resumeIntent →
    after.center.holding = hub.center.holding := by exact fun _ _ => rfl
  queue : intentName ≠ NotificationCenter.firstIntent →
    after.center.queue = hub.center.queue := by exact fun _ => rfl
  selector : intentName ≠ Selector.selectIntent →
    after.selector = hub.selector := by exact fun _ => rfl
  outputs : after.selector.outputs = hub.selector.outputs := by exact rfl
  timers : intentName ≠ Timer.setIntent → after.tasks = hub.tasks := by exact fun _ => rfl
  rest : after =
    { hub with
      center := after.center, selector := after.selector, tasks := after.tasks
      world := after.world } := by exact rfl

namespace Builtin

theorem Effect.eq_of_failure {i : Intent} {hub after : Hub} {b : Builtin} {failure : Failure}
    (h : b.Effect i hub (.error failure) after) : after = hub := by
  cases h
  rfl

theorem Effect.spares {i : Intent} {hub after : Hub} {b : Builtin} {outcome : Outcome}
    (h : b.Effect i hub outcome after) (hname : i.name ∈ b.intents) (w : World) :
    hub.Spares i.name { after with world := w } := by
  cases h with
  | failed | timeOfDay | unknown | count => exact {}
  | timer response hseconds =>
      have hset : i.name = Timer.setIntent := List.mem_singleton.mp hname
      exact { timers := fun hne => absurd hset hne }
  | hold response hhold => exact { holding := fun hne _ => absurd hhold hne }
  | resume response hresume => exact { holding := fun _ hne => absurd hresume hne }
  | first response hfirst hqueue => exact { queue := fun hne => absurd hfirst hne }
  | select response hplace =>
      have hselect : i.name = Selector.selectIntent := List.mem_singleton.mp hname
      exact { selector := fun hne => absurd hselect hne }

end Builtin

namespace Hub

/-- What a dispatch does to a hub that has the built-in handlers. -/
structure Confines (i : Intent) (hub : Hub) : Prop where
  owned : ∀ b, Builtin.owner? i.name = some b →
    b.Leaves i hub (handle b.behaviour i hub).1 (dispatch i hub).2
  /-- An error and a panic leave everything as it was. -/
  failed : ∀ b failure, Builtin.owner? i.name = some b →
    (handle b.behaviour i hub).1 = .error failure →
    ∃ w, (dispatch i hub).2 = { hub with world := w }
  unrouted : Builtin.owner? i.name = none →
    ∃ w, (dispatch i hub).2 = { hub with world := w }
  spares : hub.Spares i.name (dispatch i hub).2

theorem confines {s : Selector} (hs : s.IsRebuilt) {hub : Hub}
    (h : hub.registry = .ofHandlers (builtinHandlers s)) (i : Intent) : Confines i hub := by
  have hroute : hub.registry.route? i.name =
      (Builtin.owner? i.name).map (Builtin.handler s) := by
    rw [h, route?_ofHandlers_builtinHandlers hs]
  have hunrouted (hnone : Builtin.owner? i.name = none) :
      ∃ w, (dispatch i hub).2 = { hub with world := w } := by
    rw [hnone] at hroute
    exact dispatch_of_unrouted i hub hroute
  have howned (b : Builtin) (howner : Builtin.owner? i.name = some b) :
      b.Leaves i hub (handle b.behaviour i hub).1 (dispatch i hub).2 := by
    rw [howner] at hroute
    rw [handle_apply]
    exact leaves_dispatch i hub hroute (Builtin.behaviour_handler s b)
  refine ⟨howned, fun b failure howner hfailure => ?_, hunrouted, ?_⟩
  · obtain ⟨after, w, heffect, hafter⟩ := howned b howner
    rw [hfailure] at heffect
    rw [heffect.eq_of_failure] at hafter
    exact ⟨w, hafter⟩
  · cases howner : Builtin.owner? i.name with
    | none =>
        obtain ⟨w, hafter⟩ := hunrouted howner
        rw [hafter]
        exact {}
    | some b =>
        obtain ⟨after, w, heffect, hafter⟩ := howned b howner
        rw [hafter]
        exact heffect.spares (Builtin.owner?_eq_some_iff.mp howner) w

/-- A built-in handler that is asked, by itself or through a dispatch, touches its own part
of the hub if it succeeds, and nothing if it fails.  After anything that may happen to the
hub of a configuration, an intent touches the part that it is there for. -/
theorem intent_touches_own_part (i : Intent) :
    (∀ (b : Builtin) (hub : Hub),
      b.Leaves i hub (handle b.behaviour i hub).1 (handle b.behaviour i hub).2 ∧
        ∀ h, hub.registry.route? i.name = some h → h.behaviour = b.behaviour →
          b.Leaves i hub (handle b.behaviour i hub).1 (dispatch i hub).2) ∧
      ∀ (c : Config) (world : World) (clock : TimeOfDay) (steps : List Session.Step),
        (∀ step ∈ steps, step.registers = false) →
          Confines i (Session.run steps (ofConfig c world clock)).2 := by
  refine ⟨fun b hub => ⟨?_, fun h hroute hbehaviour => ?_⟩, fun c world clock steps hsteps => ?_⟩
  · rw [handle_apply]
    exact leaves_handled i hub b hub.world
  · rw [handle_apply]
    exact leaves_dispatch i hub hroute hbehaviour
  · apply confines c.isRebuilt_selector
    rw [Session.registry_run hsteps, registry_ofConfig]

def sonosConfig : Config :=
  { apiUrl := "kitchen", speakers := Dict.ofList [("Sonos", "living room")] }

def sonosEvening : List Session.Step :=
  [.dispatch { name := NotificationCenter.holdIntent, text := "quiet" },
    .trigger (.notification "post"),
    .dispatch
      { name := Selector.selectIntent, text := "talk to me on the sonos"
        parameters := Dict.ofList [(Selector.speakerParameter, "SONOS")] }]

def endlessTimer : Intent :=
  { name := Timer.setIntent, text := "set a timer"
    parameters := Dict.ofList
      [(Timer.amountParameter, "307445734561825861"), (Timer.unitParameter, "minutes")] }

theorem intent_touches_own_part_endlessTimer :
    let hub := (Session.run sonosEvening (ofConfig sonosConfig {} ⟨12, 34⟩)).2
    let asked := handle Builtin.timer.behaviour endlessTimer hub
    let after := (dispatch endlessTimer hub).2
    (∀ step ∈ sonosEvening, step.registers = false) ∧
      asked.1 = .error (.panic (some "attempt to multiply with overflow")) ∧
      (after.center = { holding := true, queue := ["post"] } ∧
        after.selector.currentName = "Sonos" ∧ after.tasks = []) ∧
      Builtin.timer.Leaves endlessTimer hub asked.1 asked.2 ∧
      Confines endlessTimer hub := by
  intro hub asked after
  have hsteps : ∀ step ∈ sonosEvening, step.registers = false := by
    simp [sonosEvening, Session.Step.registers]
  obtain ⟨halone, hhub⟩ := intent_touches_own_part endlessTimer
  exact ⟨hsteps, rfl, by decide +kernel, (halone .timer hub).1,
    hhub sonosConfig {} ⟨12, 34⟩ sonosEvening hsteps⟩

end Hub

end VoiceHub
