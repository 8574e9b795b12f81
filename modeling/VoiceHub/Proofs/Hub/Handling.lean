import VoiceHub.Proofs.Hub.Speaking

/-!
# What an intent makes the hub do

A handler sees the time of day, the center and the selection, and does not see the
world outside.  A timer adds one task; no other handler touches what is left
to do later.  A dispatch asks one handler at most and then speaks the answer.
-/

namespace VoiceHub

def Outcome.reply (utterance : String) : Outcome → Response
  | .ok response => response
  | .error _ => { text := apologyText utterance }

namespace Hub

/-! ## More to do later -/

def planned (hub : Hub) (tasks : List Task) : Hub :=
  { hub with tasks := hub.tasks ++ tasks }

@[simp] theorem planned_nil (hub : Hub) : hub.planned [] = hub := by
  rw [planned, List.append_nil]

theorem planned_append (hub : Hub) (tasks later : List Task) :
    hub.planned (tasks ++ later) = (hub.planned tasks).planned later := by
  rw [planned, ← List.append_assoc]
  rfl

theorem Quiet.of_planned_nil {hub hub' : Hub} (h : hub.Quiet hub') :
    (hub.planned []).Quiet hub' := by
  rw [planned_nil]
  exact h

theorem Quiet.planned {hub hub' : Hub} (h : hub.Quiet hub') (tasks : List Task) :
    (hub.planned tasks).Quiet (hub'.planned tasks) := by
  obtain ⟨c, s, w, hmarks, rfl⟩ := h
  exact ⟨c, s, w, hmarks, rfl⟩

/-! ## Handlers -/

def timerTask (hub : Hub) (seconds : Nat) : Task :=
  { due := Deadline.after hub.now (1000 * seconds), job := .timer seconds }

def timerTasks (hub : Hub) (b : Behaviour) (i : Intent) : List Task :=
  match b with
  | .timer =>
      match Timer.seconds i with
      | .ok seconds => [hub.timerTask seconds]
      | .error _ => []
  | _ => []

def selectionRecord (s : Selector) : Record :=
  { level := .info, origin := .selector, message := "Selected speaker"
    fields := [("speaker", .plain s.currentName)] }

def outcome (hub : Hub) (b : Behaviour) (i : Intent) : Outcome :=
  match b with
  | .timeOfDay => .ok { text := hub.clock.answer }
  | .timer => (Timer.seconds i).map fun seconds => { text := Timer.answerText seconds }
  | .notifications => (hub.center.answer i).map Prod.fst
  | .speakerSelect => (hub.selector.answer i).map Prod.fst
  | .unknown => .ok { text := Handler.notUnderstood }
  | .custom respond => respond i

def handled (hub : Hub) (b : Behaviour) (i : Intent) : Hub :=
  match b with
  | .notifications =>
      match hub.center.answer i with
      | .ok (_, center) => { hub with center }
      | .error _ => hub
  | .speakerSelect =>
      match hub.selector.answer i with
      | .ok (_, selector) => { hub with selector }.logged (selectionRecord selector)
      | .error _ => hub
  | _ => hub.planned (hub.timerTasks b i)

@[simp] theorem handle_apply (b : Behaviour) (i : Intent) (hub : Hub) :
    handle b i hub = (hub.outcome b i, hub.handled b i) := by
  cases b with
  | timeOfDay | unknown | custom respond => simp [handle, outcome, handled, timerTasks]
  | timer =>
      cases hseconds : Timer.seconds i <;>
        simp [handle, outcome, handled, timerTasks, timerTask, planned, schedule, hseconds,
          Except.map]
  | notifications =>
      cases hanswer : hub.center.answer i <;>
        simp [handle, outcome, handled, hanswer, Except.map]
  | speakerSelect =>
      cases hanswer : hub.selector.answer i <;>
        simp [handle, outcome, handled, hanswer, Except.map, selectionRecord]

theorem outcome_congr {hub hub' : Hub} (hclock : hub'.clock = hub.clock)
    (hcenter : hub'.center = hub.center)
    (hselector : hub'.selector = hub.selector) (b : Behaviour) (i : Intent) :
    hub'.outcome b i = hub.outcome b i := by
  unfold outcome
  rw [hclock, hcenter, hselector]

/-- Beyond the timer that it starts, a handler leaves the plan as it is. -/
theorem quiet_handled (b : Behaviour) (i : Intent) (hub : Hub) :
    (hub.planned (hub.timerTasks b i)).Quiet (hub.handled b i) := by
  have hsame := (Quiet.refl hub).of_planned_nil
  unfold handled
  cases b with
  | timeOfDay | unknown | custom respond | timer => exact .refl _
  | notifications =>
      dsimp only
      split
      · exact hsame.trans ⟨_, _, _, (List.append_nil _).symm, rfl⟩
      · exact hsame
  | speakerSelect =>
      dsimp only
      split
      · next selector _ =>
          have hselect : hub.Quiet { hub with selector } :=
            ⟨_, selector, _, (List.append_nil _).symm, rfl⟩
          exact hsame.trans (hselect.trans (quiet_logged _ _ rfl))
      · exact hsame

@[simp] theorem spoken_handled (b : Behaviour) (i : Intent) (hub : Hub) :
    (hub.handled b i).spoken = hub.spoken := by
  unfold handled
  cases b with
  | timeOfDay | unknown | custom respond | timer => rfl
  | notifications =>
      dsimp only
      split <;> rfl
  | speakerSelect =>
      dsimp only
      split
      · exact spoken_logged _ _
      · rfl

/-! ## A dispatch -/

def dispatchRecord (h : Handler) (i : Intent) : Record :=
  { level := .info, origin := .registry, message := "Dispatching intent"
    fields := [("intent", .quoted i.name), ("handler", .quoted h.name)] }

def failureText : Failure → String
  | .error e => "Error occurred in intent handler: " ++ e.message
  | .panic message => "Intent handler panicked: " ++ Failure.panicText message

def failureRecord (h : Handler) (i : Intent) (failure : Failure) : Record :=
  { level := .error, origin := .registry, message := failureText failure
    fields := [("intent", .quoted i.name), ("handler", .quoted h.name)] }

def unroutedRecord (i : Intent) : Record :=
  { level := .info, origin := .registry, message := "No intent handler registered"
    fields := [("intent", .quoted i.name)] }

def reported (hub : Hub) (h : Handler) (i : Intent) : Outcome → Hub
  | .ok _ => hub
  | .error failure => hub.logged (failureRecord h i failure)

@[simp] theorem invoke_apply (h : Handler) (i : Intent) (hub : Hub) :
    invoke h i hub =
      let asked := handle h.behaviour i (hub.logged (dispatchRecord h i))
      (asked.1.reply i.text, asked.2.reported h i asked.1) := by
  simp only [invoke, bind_apply, log_apply, dispatchRecord]
  generalize handle h.behaviour i _ = asked
  obtain ⟨outcome, after⟩ := asked
  cases outcome with
  | ok response => rfl
  | error failure => cases failure <;> rfl

def replied (hub : Hub) (i : Intent) : Response × Hub :=
  match hub.registry.route? i.name with
  | none => ({ text := unknownIntentText i.text }, hub.logged (unroutedRecord i))
  | some h => invoke h i hub

@[simp] theorem dispatch_apply (i : Intent) (hub : Hub) :
    dispatch i hub =
      ((hub.replied i).1, (hub.replied i).2.answered i (hub.replied i).1) := by
  cases hroute : hub.registry.route? i.name <;>
    simp [dispatch, replied, unroutedRecord, hroute]

/-- The answer depends on what is registered and what handlers see. -/
theorem dispatch_fst_congr {hub hub' : Hub}
    (hregistry : hub'.registry = hub.registry) (hclock : hub'.clock = hub.clock)
    (hcenter : hub'.center = hub.center)
    (hselector : hub'.selector = hub.selector) (i : Intent) :
    (dispatch i hub').1 = (dispatch i hub).1 := by
  cases hroute : hub.registry.route? i.name with
  | none => simp [replied, hregistry, hroute]
  | some h =>
      have houtcome : (hub'.logged (dispatchRecord h i)).outcome h.behaviour i =
          (hub.logged (dispatchRecord h i)).outcome h.behaviour i :=
        outcome_congr hclock hcenter hselector h.behaviour i
      simp [replied, hregistry, hroute, houtcome]

def dispatchTasks (hub : Hub) (i : Intent) : List Task :=
  match hub.registry.route? i.name with
  | none => []
  | some h => hub.timerTasks h.behaviour i

theorem quiet_reported (hub : Hub) (h : Handler) (i : Intent) (outcome : Outcome) :
    hub.Quiet (hub.reported h i outcome) := by
  cases outcome with
  | ok response => exact .refl hub
  | error failure => exact quiet_logged hub _ rfl

theorem quiet_replied (i : Intent) (hub : Hub) :
    (hub.planned (hub.dispatchTasks i)).Quiet (hub.replied i).2 := by
  unfold replied dispatchTasks
  cases hub.registry.route? i.name with
  | none =>
      exact (quiet_logged hub (unroutedRecord i) rfl).of_planned_nil
  | some h =>
      dsimp only
      rw [invoke_apply, handle_apply]
      have htold := quiet_logged hub (dispatchRecord h i) rfl
      have hasked := quiet_handled h.behaviour i (hub.logged (dispatchRecord h i))
      exact ((htold.planned _).trans hasked).trans (quiet_reported _ h i _)

theorem quiet_dispatch (i : Intent) (hub : Hub) :
    (hub.planned (hub.dispatchTasks i)).Quiet (dispatch i hub).2 := by
  rw [dispatch_apply]
  exact (quiet_replied i hub).trans (quiet_answered _ i _)

end Hub

end VoiceHub
