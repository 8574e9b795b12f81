import VoiceHub.Proofs.Run
import VoiceHub.Proofs.Session.Steps

/-!
# Delayed work is done once and on time

What the steps of a session leave to do later is done in the step that reaches its
deadline, in order of deadline and then of creation, and nothing else is done then.
No other step drops it, and what has not been done yet is exactly what is not due.
-/

namespace VoiceHub

def Hub.delay (hub : Hub) : Job → Nat
  | .timer seconds => 1000 * seconds
  | .followUp => hub.followUpDelay

namespace Session

/-! ## One step -/

theorem due_of_mem_timerTasks {hub : Hub} {b : Behaviour} {i : Intent} {task : Task}
    (h : task ∈ hub.timerTasks b i) :
    task.due = Deadline.after hub.now (hub.delay task.job) := by
  unfold Hub.timerTasks at h
  split at h
  · split at h
    · rw [List.mem_singleton.mp h]
      rfl
    · cases h
  · cases h

theorem due_of_mem_dispatchTasks {hub : Hub} {i : Intent} {task : Task}
    (h : task ∈ hub.dispatchTasks i) :
    task.due = Deadline.after hub.now (hub.delay task.job) := by
  unfold Hub.dispatchTasks at h
  split at h
  · cases h
  · exact due_of_mem_timerTasks h

theorem due_of_mem_ordered {hub : Hub} {step : Step} {task : Task}
    (h : task ∈ ordered hub step) :
    task.due = Deadline.after hub.now (hub.delay task.job) := by
  unfold ordered at h
  split at h
  · exact due_of_mem_dispatchTasks h
  · split at h
    · cases h
    · exact due_of_mem_timerTasks h
  · unfold Hub.askedTasks at h
    split at h
    · cases h
    · rcases List.mem_append.mp h with hdispatch | hfollow
      · exact due_of_mem_dispatchTasks hdispatch
      · split at hfollow
        · rw [List.mem_singleton.mp hfollow]
          rfl
        · cases hfollow
  · cases h

@[simp] theorem now_performed (hub : Hub) (step : Step) :
    (performed hub step).now = hub.now + elapsed step :=
  (marked_performed hub step).view_eq Hub.now fun _ _ _ _ => rfl

theorem tasks_performed (hub : Hub) (step : Step) :
    (performed hub step).tasks =
      (hub.tasks ++ ordered hub step).filter fun task =>
        (performed hub step).now < task.due := by
  rw [now_performed]
  rw [(marked_performed hub step).view_eq Hub.tasks fun _ _ _ _ => rfl]
  refine List.filter_congr fun task _ => ?_
  change (!decide (task.due ≤ hub.now + elapsed step)) = _
  rw [← decide_not]
  exact decide_eq_decide.mpr Nat.not_le

theorem marks_performed (hub : Hub) (step : Step) :
    (performed hub step).world.marks hub.listener =
      hub.world.marks hub.listener ++
        (fired hub step).map fun task => task.job.mark hub.listener := by
  obtain ⟨c, s, w, hmarks, hafter⟩ := marked_performed hub step
  rw [hafter]
  exact hmarks

theorem listener_performed (hub : Hub) (step : Step) :
    (performed hub step).listener = hub.listener :=
  (marked_performed hub step).listener_eq

theorem inDueOrder_fired (hub : Hub) (step : Step) :
    Task.InDueOrder
      ((hub.tasks ++ ordered hub step).filter fun task =>
        task.due ≤ (performed hub step).now)
      (fired hub step) := by
  rw [fired_eq, now_performed]
  exact Task.inDueOrder_sortByDue _

/-! ## A run -/

theorem now_le_foldl_performed (hub : Hub) (steps : List Step) :
    hub.now ≤ (steps.foldl performed hub).now := by
  induction steps generalizing hub with
  | nil => exact Nat.le_refl _
  | cons step steps ih =>
      have hstep : hub.now ≤ (performed hub step).now := by simp
      exact Nat.le_trans hstep (ih (performed hub step))

theorem filter_later_filter {now later : Nat} (h : now ≤ later) (tasks : List Task) :
    (tasks.filter fun task => now < task.due).filter (fun task => later < task.due) =
      tasks.filter fun task => later < task.due := by
  rw [List.filter_filter]
  refine List.filter_congr fun task _ => ?_
  rw [← Bool.decide_and]
  exact decide_eq_decide.mpr ⟨And.left, fun hlater => ⟨hlater, by omega⟩⟩

/-- What has not been done is what is not due, in order of creation. -/
theorem tasks_foldl_performed (hub : Hub) (steps : List Step)
    (h : (hub.tasks.filter fun task => hub.now < task.due) = hub.tasks) :
    (steps.foldl performed hub).tasks =
      (hub.tasks ++ collect performed ordered hub steps).filter fun task =>
        (steps.foldl performed hub).now < task.due := by
  induction steps generalizing hub with
  | nil => rw [collect, List.append_nil, List.foldl_nil, h]
  | cons step steps ih =>
      have hnow := now_le_foldl_performed (performed hub step) steps
      have hsettled : ((performed hub step).tasks.filter fun task =>
          (performed hub step).now < task.due) = (performed hub step).tasks := by
        rw [tasks_performed, filter_later_filter (Nat.le_refl _)]
      rw [List.foldl_cons, ih _ hsettled, collect, tasks_performed,
        List.filter_append, filter_later_filter hnow, ← List.filter_append,
        List.append_assoc]

theorem filter_due (tasks : List Task) (now due : Nat) :
    (tasks.filter fun task => task.due = due) =
      (tasks.filter fun task => task.due ≤ now).filter (fun task => task.due = due) ++
        (tasks.filter fun task => now < task.due).filter fun task => task.due = due := by
  rw [List.filter_filter, List.filter_filter]
  by_cases hdue : due ≤ now
  · have hlater : tasks.filter (fun task => task.due = due && now < task.due) = [] := by
      refine List.filter_eq_nil_iff.mpr fun task _ => ?_
      rw [← Bool.decide_and, decide_eq_true_eq]
      omega
    rw [hlater, List.append_nil]
    refine List.filter_congr fun task _ => ?_
    rw [← Bool.decide_and]
    exact decide_eq_decide.mpr ⟨fun h => ⟨h, by omega⟩, And.left⟩
  · have hnow : tasks.filter (fun task => task.due = due && task.due ≤ now) = [] := by
      refine List.filter_eq_nil_iff.mpr fun task _ => ?_
      rw [← Bool.decide_and, decide_eq_true_eq]
      omega
    rw [hnow, List.nil_append]
    refine List.filter_congr fun task _ => ?_
    rw [← Bool.decide_and]
    exact decide_eq_decide.mpr ⟨fun h => ⟨h, by omega⟩, And.left⟩

theorem ties_foldl_performed (hub : Hub) (steps : List Step) (due : Nat) :
    (hub.tasks ++ collect performed ordered hub steps).filter
        (fun task => task.due = due) =
      (collect performed fired hub steps ++ (steps.foldl performed hub).tasks).filter
        fun task => task.due = due := by
  -- the tasks of one deadline are a queue: new ones go to the end, done are the first
  have hstep : ∀ hub step,
      (hub.tasks.filter fun task => task.due = due) ++
          (ordered hub step).filter (fun task => task.due = due) =
        (fired hub step).filter (fun task => task.due = due) ++
          (performed hub step).tasks.filter fun task => task.due = due := by
    intro hub step
    rw [(inDueOrder_fired hub step).ties, tasks_performed, ← List.filter_append]
    exact filter_due _ _ due
  rw [List.filter_append, List.filter_append, filter_collect, filter_collect]
  exact queue_foldl hstep hub steps

theorem marks_foldl_performed (hub : Hub) (steps : List Step) :
    (steps.foldl performed hub).world.marks hub.listener =
      hub.world.marks hub.listener ++
        (collect performed fired hub steps).map fun task =>
          task.job.mark hub.listener := by
  induction steps generalizing hub with
  | nil => rw [collect, List.map_nil, List.append_nil, List.foldl_nil]
  | cons step steps ih =>
      have hrest := ih (performed hub step)
      rw [listener_performed] at hrest
      rw [List.foldl_cons, hrest, marks_performed, collect, List.map_append,
        List.append_assoc]

theorem lt_due_of_mem_tasks_performed {hub : Hub} {step : Step} {task : Task}
    (h : task ∈ (performed hub step).tasks) : (performed hub step).now < task.due := by
  rw [tasks_performed] at h
  exact of_decide_eq_true (List.mem_filter.mp h).2

theorem due_le_of_mem_fired {hub : Hub} {step : Step} {task : Task}
    (h : task ∈ fired hub step) : task.due ≤ (performed hub step).now := by
  have hmem := (inDueOrder_fired hub step).mem_iff.mp h
  exact of_decide_eq_true (List.mem_filter.mp hmem).2

theorem due_le_of_mem_collect_fired {hub : Hub} {steps : List Step} {task : Task}
    (h : task ∈ collect performed fired hub steps) :
    task.due ≤ (steps.foldl performed hub).now := by
  induction steps generalizing hub with
  | nil => cases h
  | cons step steps ih =>
      rcases List.mem_append.mp h with hfirst | hrest
      · have hlast := now_le_foldl_performed (performed hub step) steps
        exact Nat.le_trans (due_le_of_mem_fired hfirst) hlast
      · exact ih hrest

/-- From a hub with nothing to do, all that is due is done once. -/
theorem filter_collect_fired {hub : Hub} (h : hub.tasks = []) (steps : List Step)
    (due : Nat) :
    ((collect performed fired hub steps).filter fun task => task.due = due) =
      if due ≤ (steps.foldl performed hub).now then
        (collect performed ordered hub steps).filter fun task => task.due = due
      else [] := by
  have hties := ties_foldl_performed hub steps due
  rw [h, List.nil_append, List.filter_append] at hties
  split
  · next hdue =>
      have hnone : ((steps.foldl performed hub).tasks.filter fun task =>
          task.due = due) = [] := by
        rw [tasks_foldl_performed hub steps (by rw [h]; rfl)]
        refine List.filter_eq_nil_iff.mpr fun task hmem => ?_
        have hlater := of_decide_eq_true (List.mem_filter.mp hmem).2
        rw [decide_eq_true_eq]
        omega
      rw [hties, hnone, List.append_nil]
  · next hdue =>
      refine List.filter_eq_nil_iff.mpr fun task hmem => ?_
      have hpast := due_le_of_mem_collect_fired hmem
      rw [decide_eq_true_eq]
      omega

section Clock

variable {hub : Hub} {steps : List Step}

theorem now_le_due_of_mem_fired (hclock : hub.now ≤ Deadline.last)
    (hlater : ∀ task ∈ hub.tasks, hub.now < task.due) {step : Step} {task : Task}
    (h : task ∈ fired hub step) : hub.now ≤ task.due := by
  have hmem := (inDueOrder_fired hub step).mem_iff.mp h
  rcases List.mem_append.mp (List.mem_filter.mp hmem).1 with hold | hnew
  · exact Nat.le_of_lt (hlater task hold)
  · -- a delay may be zero, so what is new may be due at once
    rw [due_of_mem_ordered hnew]
    exact Deadline.le_after hclock _

theorem now_le_due_of_mem_collect_fired
    (hclock : (steps.foldl performed hub).now ≤ Deadline.last)
    (hlater : ∀ task ∈ hub.tasks, hub.now < task.due) {task : Task}
    (h : task ∈ collect performed fired hub steps) : hub.now ≤ task.due := by
  induction steps generalizing hub with
  | nil => cases h
  | cons step steps ih =>
      have hlast := now_le_foldl_performed (performed hub step) steps
      have hstep := now_performed hub step
      rcases List.mem_append.mp h with hfirst | hrest
      · refine now_le_due_of_mem_fired ?_ hlater hfirst
        rw [List.foldl_cons] at hclock
        omega
      · have hdue := ih hclock (fun _ => lt_due_of_mem_tasks_performed) hrest
        omega

/-- As long as the clock goes, all is done in order of deadline. -/
theorem pairwise_collect_fired
    (hclock : (steps.foldl performed hub).now ≤ Deadline.last) :
    (collect performed fired hub steps).Pairwise fun task later =>
      task.due ≤ later.due := by
  induction steps generalizing hub with
  | nil => exact List.Pairwise.nil
  | cons step steps ih =>
      rw [List.foldl_cons] at hclock
      rw [collect, List.pairwise_append]
      refine ⟨(inDueOrder_fired hub step).sorted, ih hclock, ?_⟩
      -- the time after the first step stands between what it did and the rest
      intro task htask later hlater
      have hdue := due_le_of_mem_fired htask
      have hnow := now_le_due_of_mem_collect_fired hclock
        (fun _ => lt_due_of_mem_tasks_performed) hlater
      exact Nat.le_trans hdue hnow

end Clock

/-! ## What the channel gets -/

theorem queue_drained_suffix (c : Channel) : c.drained.queue <:+ c.queue := by
  unfold Channel.drained
  split
  · exact List.nil_suffix
  · exact List.suffix_refl _

theorem queue_channelAfter_suffix {hub : Hub} {step : Step}
    (h : ∀ t, step ≠ .emit t) :
    (channelAfter hub step).queue <:+ hub.channel.queue := by
  have hshort : ∀ taken, (hub.channel.shortened taken).queue <:+ hub.channel.queue := by
    intro taken
    unfold Channel.shortened
    split
    · exact List.drop_suffix _ _
    · exact List.suffix_refl _
  unfold channelAfter
  split
  · exact absurd rfl (h _)
  · exact hshort 1
  · exact hshort 1
  · exact hshort _
  · unfold Channel.run
    split <;> exact List.suffix_refl _
  · unfold Channel.dropReceiver
    split
    · exact List.nil_suffix
    · exact List.suffix_refl _
  · exact List.suffix_refl _

/-- What a step does of all that it and the steps before it left to do. -/
structure Punctual (orders : List Task) (before : Hub) (step : Step) : Prop where
  /-- A timer is started exactly if its handler answers, and for the time that it tells. -/
  answers : ∀ i, (Hub.handle .timer i before).1 =
    (Timer.seconds i).map fun seconds => { text := Timer.answerText seconds }
  /-- Its deadline is its delay after the present, as far as the clock goes. -/
  deadlines : ∀ task ∈ ordered before step,
    task.due = Deadline.after before.now (before.delay task.job) ∧
      (before.now + before.delay task.job ≤ Deadline.last →
        task.due = before.now + before.delay task.job)
  /-- Done is what becomes due, in order of deadline and then of creation, -/
  fires : Task.InDueOrder
    ((orders.filter fun task =>
        before.now < task.due ∧ task.due ≤ (performed before step).now) ++
      (ordered before step).filter fun task => task.due ≤ (performed before step).now)
    (fired before step)
  /-- and all that is not due waits. -/
  waits : (performed before step).tasks =
    (orders ++ ordered before step).filter fun task =>
      (performed before step).now < task.due
  /-- One record tells of each expired timer, and one call of the listener is made for
  each follow-up; nothing else is told or called. -/
  marks : (performed before step).world.marks before.listener =
    before.world.marks before.listener ++
      (fired before step).map fun task => task.job.mark before.listener
  /-- One reminder is put on the channel for each expired timer. -/
  reminds : channelDue before step =
    (act step before).2.channel.offer
      ((fired before step).flatMap fun task => task.job.reminders)
  /-- No other trigger is, but one that is sent by hand. -/
  sends : (∀ t, step ≠ .emit t) →
    (act step before).2.channel.queue <:+ before.channel.queue
  settles : (performed before step).channel.queue <:+ (channelDue before step).queue

theorem punctual {orders : List Task} {before : Hub}
    (h : before.tasks = orders.filter fun task => before.now < task.due) (step : Step) :
    Punctual orders before step where
  answers i := congrArg Prod.fst (Hub.handle_apply .timer i before)
  deadlines task hmem := by
    have hdue := due_of_mem_ordered hmem
    exact ⟨hdue, fun hclock => hdue.trans (Deadline.after_eq hclock)⟩
  fires := by
    have hwindow : (before.tasks.filter fun task => task.due ≤ (performed before step).now) =
        orders.filter fun task =>
          before.now < task.due ∧ task.due ≤ (performed before step).now := by
      rw [h, List.filter_filter]
      refine List.filter_congr fun task _ => ?_
      rw [← Bool.decide_and]
      exact decide_eq_decide.mpr and_comm
    rw [← hwindow, ← List.filter_append]
    exact inDueOrder_fired before step
  waits := by
    have hnow : before.now ≤ (performed before step).now := by
      rw [now_performed]
      exact Nat.le_add_right _ _
    rw [tasks_performed, h, List.filter_append, filter_later_filter hnow,
      ← List.filter_append]
  marks := marks_performed before step
  reminds := Hub.channel_runDue (act step before).2
  sends hemit := by
    rw [channel_act]
    exact queue_channelAfter_suffix hemit
  settles := by
    rw [queue_performed]
    exact queue_drained_suffix _

theorem followUpDelay_foldl_performed (hub : Hub) (steps : List Step) :
    (steps.foldl performed hub).followUpDelay = hub.followUpDelay := by
  induction steps generalizing hub with
  | nil => rfl
  | cons step steps ih =>
      rw [List.foldl_cons, ih]
      exact (marked_performed hub step).view_eq Hub.followUpDelay fun _ _ _ _ => rfl

theorem listener_foldl_performed (hub : Hub) (steps : List Step) :
    (steps.foldl performed hub).listener = hub.listener := by
  induction steps generalizing hub with
  | nil => rfl
  | cons step steps ih => rw [List.foldl_cons, ih, listener_performed]

/-- After any steps of a session that begins with nothing to do, the next step is
punctual.  All that was due by then has been done once, and that in order. -/
theorem delayed_work_punctual (hub : Hub) (earlier : List Step) (step : Step) :
    let new : Hub := { hub with tasks := [] }
    let before := (run earlier new).2
    let orders := collect performed ordered new earlier
    let done := collect performed fired new earlier
    Punctual orders before step ∧
      (∀ due, (done.filter fun task => task.due = due) =
        if due ≤ before.now then orders.filter fun task => task.due = due else []) ∧
      (before.now ≤ Deadline.last →
        done.Pairwise fun task later => task.due ≤ later.due) ∧
      before.world.marks hub.listener =
        hub.world.marks hub.listener ++
          (done.map fun task => task.job.mark hub.listener) ∧
      before.listener = hub.listener ∧ before.followUpDelay = hub.followUpDelay := by
  intro new before orders done
  have hrun : before = earlier.foldl performed new := run_snd earlier new
  have htasks : before.tasks = orders.filter fun task => before.now < task.due := by
    rw [hrun]
    exact tasks_foldl_performed new earlier rfl
  refine ⟨punctual htasks step, fun due => ?_, fun hclock => ?_, ?_, ?_, ?_⟩
  · rw [hrun]
    exact filter_collect_fired rfl earlier due
  · rw [hrun] at hclock
    exact pairwise_collect_fired hclock
  · rw [hrun]
    exact marks_foldl_performed new earlier
  · rw [hrun]
    exact listener_foldl_performed new earlier
  · rw [hrun]
    exact followUpDelay_foldl_performed new earlier

def chat : Handler :=
  { name := "chat", definitions := [.simple "Chat" "let us talk"]
    behaviour := .custom fun _ => .ok { text := "Go on", continues := true } }

def timerIntent (amount : String) : Intent :=
  { name := Timer.setIntent, text := "set a timer"
    parameters := Dict.ofList
      [(Timer.amountParameter, amount), (Timer.unitParameter, "seconds")] }

def patientHub : Hub :=
  start { listenFault := some "busy" } ⟨12, 34⟩ (.ofOutput "Kitchen" (.device 0)) none
    .selected 2000

def busyEvening : List Step :=
  [.register chat, .call .timer (timerIntent "2"), .call .timer (timerIntent "0"),
    .request
      { method := "POST", target := "/api/intent"
        body :=
          "\x7b\"intent\": \x7b\"name\": \"Chat\"\x7d, \"text\": \"talk\"\x7d".toUTF8.toList },
    .call .timer (timerIntent "two"), .dropTimer, .advance 1999]

theorem delayed_work_punctual_busyEvening :
    collect performed fired patientHub (busyEvening ++ [.advance 1]) =
        [⟨0, .timer 0⟩, ⟨2000, .timer 2⟩, ⟨2000, .followUp⟩] ∧
      Punctual [⟨2000, .timer 2⟩, ⟨0, .timer 0⟩, ⟨2000, .followUp⟩]
        (run busyEvening patientHub).2 (.advance 1) := by
  have horders : collect performed ordered patientHub busyEvening =
      [⟨2000, .timer 2⟩, ⟨0, .timer 0⟩, ⟨2000, .followUp⟩] := by decide +kernel
  have hpunctual := (delayed_work_punctual patientHub busyEvening (.advance 1)).1
  have hlast : fired (busyEvening.foldl performed patientHub) (.advance 1) =
      [⟨2000, .timer 2⟩, ⟨2000, .followUp⟩] := by
    rw [fired_eq]
    exact (Task.sortByDue_of_pairwise (by decide +kernel)).trans (by decide +kernel)
  rw [collect_append, collect, collect, hlast, ← horders]
  exact ⟨by decide +kernel, hpunctual⟩

end Session

end VoiceHub
