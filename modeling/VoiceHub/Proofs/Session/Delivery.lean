import VoiceHub.Proofs.Run
import VoiceHub.Proofs.Session.Steps

/-!
# The way of a trigger

A trigger that the channel takes comes out once and in order: by hand, or by the
running receiver, which leaves nothing queued.  The channel is closed when no
sender is left, which may be a timer that has yet to expire.
-/

namespace VoiceHub

namespace Session

/-! ## What goes in and what comes out -/

def sentByHand (hub : Hub) (step : Step) : List Trigger :=
  match step, (act step hub).1 with
  | .emit t, .flag true => [t]
  | _, _ => []

/-- What the channel takes in a step, the reminders of expired timers included. -/
def accepted (hub : Hub) (step : Step) : List Trigger :=
  sentByHand hub step ++
    if (act step hub).2.channel.receiver.isOpen then
      (fired hub step).flatMap fun task => task.job.reminders
    else []

/-- What someone who holds the receiver is given. -/
def handedOut (hub : Hub) (step : Step) : List Trigger :=
  match step, (act step hub).1 with
  | .tryReceive, .taken (some t) => [t]
  | .receive, .poll (.ready t) => [t]
  | .pump, .number n => hub.channel.queue.take n
  | _, _ => []

/-- What a running receiver delivers when the hub settles. -/
def deliveredByRun (hub : Hub) (step : Step) : List Trigger :=
  if (channelDue hub step).receiver = .running then (channelDue hub step).queue else []

def received (hub : Hub) (step : Step) : List Trigger :=
  handedOut hub step ++ deliveredByRun hub step

/-! ## One step -/

theorem act_emit_fst (hub : Hub) (t : Trigger) :
    (act (.emit t) hub).1 =
      if hub.senderHeld then .flag hub.channel.receiver.isOpen else .noSender := by
  cases hsender : hub.senderHeld <;> simp [act, hsender]

theorem act_tryReceive_fst (hub : Hub) :
    (act .tryReceive hub).1 =
      .taken (if hub.channel.receiver = .held then hub.channel.queue.head? else none) := by
  by_cases hheld : hub.channel.receiver = .held
  · simp [act, Hub.take_of_held hheld, hheld]
  · simp [act, Hub.take_of_not_held hheld, hheld]

theorem act_receive_fst (hub : Hub) :
    (act .receive hub).1 =
      if hub.channel.receiver = .held then
        .poll (match hub.channel.queue with
          | t :: _ => .ready t
          | [] => if hub.hasSender then .pending else .closed)
      else .noReceiver := by
  by_cases hheld : hub.channel.receiver = .held
  · cases hqueue : hub.channel.queue <;> simp [act, poll_of_held hheld, hheld, hqueue]
  · simp [act, hheld]

theorem act_pump_fst (hub : Hub) :
    (act .pump hub).1 =
      .number (if hub.channel.receiver = .held then hub.channel.queue.length else 0) := by
  by_cases hheld : hub.channel.receiver = .held
  · simp [act, pump_of_held hheld (Nat.le_refl _), hheld]
  · simp [act, pump_of_not_held hheld, hheld]

/-- Before the hub settles, a step puts at the end and takes from the front. -/
theorem queue_act {hub : Hub} {step : Step}
    (h : (channelAfter hub step).receiver ≠ .dropped) :
    hub.channel.queue ++ sentByHand hub step =
      handedOut hub step ++ (channelAfter hub step).queue := by
  cases step with
  | emit t =>
      unfold sentByHand
      rw [act_emit_fst]
      dsimp only [handedOut, channelAfter]
      cases hub.senderHeld with
      | false => exact List.append_nil _
      | true =>
          unfold Channel.offer
          cases hub.channel.receiver.isOpen with
          | false => exact List.append_nil _
          | true => rfl
  | tryReceive =>
      unfold handedOut
      rw [act_tryReceive_fst]
      dsimp only [sentByHand, channelAfter]
      unfold Channel.shortened
      by_cases hheld : hub.channel.receiver = .held
      · rw [if_pos hheld, if_pos hheld]
        cases hub.channel.queue <;> exact List.append_nil _
      · rw [if_neg hheld, if_neg hheld]
        exact List.append_nil _
  | receive =>
      unfold handedOut
      rw [act_receive_fst]
      dsimp only [sentByHand, channelAfter]
      unfold Channel.shortened
      by_cases hheld : hub.channel.receiver = .held
      · rw [if_pos hheld, if_pos hheld]
        cases hub.channel.queue with
        | nil => cases hub.hasSender <;> rfl
        | cons t rest => exact List.append_nil _
      · rw [if_neg hheld, if_neg hheld]
        exact List.append_nil _
  | pump =>
      unfold handedOut
      rw [act_pump_fst]
      dsimp only [sentByHand, channelAfter]
      unfold Channel.shortened
      by_cases hheld : hub.channel.receiver = .held
      · rw [if_pos hheld, if_pos hheld, List.take_append_drop]
        exact List.append_nil _
      · rw [if_neg hheld, if_neg hheld]
        exact List.append_nil _
  | run =>
      dsimp only [sentByHand, handedOut, channelAfter]
      unfold Channel.run
      split <;> exact List.append_nil _
  | dropReceiver =>
      -- only here a queue is lost, and `h` says that it is not
      dsimp only [channelAfter] at h
      unfold Channel.dropReceiver at h
      dsimp only [sentByHand, handedOut, channelAfter]
      unfold Channel.dropReceiver
      split
      · next hheld => exact absurd rfl (if_pos hheld ▸ h)
      · exact List.append_nil _
  | _ => exact List.append_nil _

theorem queue_settle (hub : Hub) (step : Step) :
    ((channelAfter hub step).queue ++
        if (act step hub).2.channel.receiver.isOpen then
          (fired hub step).flatMap fun task => task.job.reminders
        else []) =
      deliveredByRun hub step ++ (performed hub step).channel.queue := by
  have hdue : (channelDue hub step).queue =
      (channelAfter hub step).queue ++
        if (act step hub).2.channel.receiver.isOpen then
          (fired hub step).flatMap fun task => task.job.reminders
        else [] := by
    rw [channelDue_eq, channel_act]
    unfold Channel.offer
    split
    · rfl
    · exact (List.append_nil _).symm
  rw [← hdue, queue_performed]
  unfold deliveredByRun Channel.drained
  split
  · exact (List.append_nil _).symm
  · rfl

/-- A step that leaves the receiver in place loses nothing. -/
theorem queue_performed_append {hub : Hub} {step : Step}
    (h : (channelAfter hub step).receiver ≠ .dropped) :
    hub.channel.queue ++ accepted hub step =
      received hub step ++ (performed hub step).channel.queue := by
  unfold accepted received
  rw [← List.append_assoc, queue_act h, List.append_assoc, queue_settle,
    List.append_assoc]

theorem receiver_channelAfter (hub : Hub) (step : Step) :
    (channelAfter hub step).receiver = hub.channel.receiver ∨
      hub.channel.receiver = .held ∧
        (step = .run ∧ (channelAfter hub step).receiver = .running ∨
          step = .dropReceiver ∧ (channelAfter hub step).receiver = .dropped) := by
  have hshort : ∀ taken, (hub.channel.shortened taken).receiver = hub.channel.receiver := by
    intro taken
    unfold Channel.shortened
    split <;> rfl
  cases step with
  | emit t =>
      dsimp only [channelAfter]
      cases hub.senderHeld with
      | false => exact .inl rfl
      | true => exact .inl (Channel.receiver_offer _ _)
  | tryReceive | receive => exact .inl (hshort 1)
  | pump => exact .inl (hshort _)
  | run =>
      dsimp only [channelAfter]
      unfold Channel.run
      split
      · next hheld => exact .inr ⟨hheld, .inl ⟨rfl, rfl⟩⟩
      · exact .inl rfl
  | dropReceiver =>
      dsimp only [channelAfter]
      unfold Channel.dropReceiver
      split
      · next hheld => exact .inr ⟨hheld, .inr ⟨rfl, rfl⟩⟩
      · exact .inl rfl
  | _ => exact .inl rfl

theorem sentByHand_of_shut {hub : Hub} (h : hub.channel.receiver.isOpen = false)
    (step : Step) : sentByHand hub step = [] := by
  cases step with
  | emit t =>
      unfold sentByHand
      rw [act_emit_fst, h]
      cases hub.senderHeld <;> rfl
  | _ => rfl

theorem handedOut_of_not_held {hub : Hub} (h : hub.channel.receiver ≠ .held)
    (step : Step) : handedOut hub step = [] := by
  unfold handedOut
  cases step with
  | tryReceive => rw [act_tryReceive_fst, if_neg h]
  | receive => rw [act_receive_fst, if_neg h]
  | pump =>
      rw [act_pump_fst, if_neg h]
      exact List.take_zero
  | _ => rfl

theorem accepted_of_shut {hub : Hub} (h : hub.channel.receiver.isOpen = false)
    (step : Step) : accepted hub step = [] := by
  have hafter : (act step hub).2.channel.receiver.isOpen = false := by
    rw [channel_act]
    rcases receiver_channelAfter hub step with hsame | ⟨hheld, -⟩
    · rw [hsame, h]
    · rw [hheld] at h
      cases h
  unfold accepted
  rw [sentByHand_of_shut h, hafter, if_neg nofun]
  rfl

theorem accepted_received_of_dropped {hub : Hub} {step : Step}
    (h : (channelAfter hub step).receiver = .dropped) :
    accepted hub step = [] ∧ received hub step = [] := by
  have hdelivered : deliveredByRun hub step = [] := by
    unfold deliveredByRun
    rw [receiver_channelDue, h, if_neg nofun]
  unfold received
  rw [hdelivered, List.append_nil]
  rcases receiver_channelAfter hub step with hsame | ⟨-, ⟨-, hrunning⟩ | ⟨rfl, -⟩⟩
  · rw [hsame] at h
    constructor
    · refine accepted_of_shut ?_ step
      rw [h]
      rfl
    · refine handedOut_of_not_held ?_ step
      rw [h]
      nofun
  · rw [hrunning] at h
    cases h
  · unfold accepted
    rw [channel_act, h]
    exact ⟨rfl, rfl⟩

theorem receiver_performed_of_dropped {hub : Hub} {step : Step}
    (h : (channelAfter hub step).receiver = .dropped) :
    (performed hub step).channel.receiver = .dropped := by
  rw [receiver_performed, h, if_neg nofun]

/-! ## A run -/

theorem collect_of_dropped {hub : Hub} (h : hub.channel.receiver = .dropped)
    (steps : List Step) :
    collect performed accepted hub steps = [] ∧
      collect performed received hub steps = [] ∧
      (steps.foldl performed hub).channel.receiver = .dropped := by
  induction steps generalizing hub with
  | nil => exact ⟨rfl, rfl, h⟩
  | cons step steps ih =>
      have hafter : (channelAfter hub step).receiver = .dropped := by
        rcases receiver_channelAfter hub step with hsame | ⟨hheld, -⟩
        · rw [hsame, h]
        · rw [h] at hheld
          cases hheld
      obtain ⟨haccepted, hreceived⟩ := accepted_received_of_dropped hafter
      obtain ⟨hin, hout, hlast⟩ := ih (receiver_performed_of_dropped hafter)
      rw [collect, collect, haccepted, hreceived, hin, hout]
      exact ⟨rfl, rfl, hlast⟩

/-- What went in came out, but for the end of it, which is queued unless the receiver
was dropped with it. -/
theorem received_append (hub : Hub) (steps : List Step) :
    ∃ rest, hub.channel.queue ++ collect performed accepted hub steps =
        collect performed received hub steps ++ rest ∧
      ((steps.foldl performed hub).channel.receiver ≠ .dropped →
        rest = (steps.foldl performed hub).channel.queue) := by
  induction steps generalizing hub with
  | nil => exact ⟨hub.channel.queue, List.append_nil _, fun _ => rfl⟩
  | cons step steps ih =>
      -- a dropped receiver takes the queue with it, and then nothing goes in or out
      by_cases hdropped : (channelAfter hub step).receiver = .dropped
      · obtain ⟨haccepted, hreceived⟩ := accepted_received_of_dropped hdropped
        obtain ⟨hin, hout, hlast⟩ :=
          collect_of_dropped (receiver_performed_of_dropped hdropped) steps
        refine ⟨hub.channel.queue, ?_, fun hpresent => absurd hlast hpresent⟩
        rw [collect, collect, haccepted, hreceived, hin, hout]
        exact List.append_nil _
      · obtain ⟨rest, hrest, hqueue⟩ := ih (performed hub step)
        refine ⟨rest, ?_, hqueue⟩
        calc hub.channel.queue ++ collect performed accepted hub (step :: steps)
            = (hub.channel.queue ++ accepted hub step) ++
                collect performed accepted (performed hub step) steps := by
              rw [collect, List.append_assoc]
          _ = received hub step ++ ((performed hub step).channel.queue ++
                collect performed accepted (performed hub step) steps) := by
              rw [queue_performed_append hdropped, List.append_assoc]
          _ = collect performed received hub (step :: steps) ++ rest := by
              rw [hrest, collect, List.append_assoc]

/-- A receiver that is run has nothing left to deliver, and still runs only if there
may be more. -/
structure Idle (hub : Hub) : Prop where
  running : hub.channel.receiver = .running →
    hub.channel.queue = [] ∧ hub.hasSender = true
  finished : hub.channel.receiver = .finished → hub.channel.queue = []

theorem idle_of_held {hub : Hub} (h : hub.channel.receiver = .held) : Idle hub := by
  constructor <;> intro hother <;> rw [h] at hother <;> cases hother

theorem queue_performed_of_running {hub : Hub} {step : Step}
    (h : (channelAfter hub step).receiver = .running) :
    (performed hub step).channel.queue = [] := by
  rw [queue_performed, Channel.drained, receiver_channelDue, if_pos h]

theorem Idle.performed {hub : Hub} (h : Idle hub) (step : Step) :
    Idle (performed hub step) where
  running hrunning := by
    rw [receiver_performed] at hrunning
    split at hrunning
    · cases hrunning
    · next hsender =>
        refine ⟨queue_performed_of_running hrunning, ?_⟩
        cases hleft : (Session.performed hub step).hasSender with
        | true => rfl
        | false => exact absurd ⟨hrunning, hleft⟩ hsender
  finished hfinished := by
    rw [receiver_performed] at hfinished
    split at hfinished
    · next hclose => exact queue_performed_of_running hclose.1
    · -- the receiver had finished before, so nothing went in
      rcases receiver_channelAfter hub step with hsame | ⟨-, ⟨-, hother⟩ | ⟨-, hother⟩⟩
      · rw [hsame] at hfinished
        have hempty := h.finished hfinished
        have hshut : hub.channel.receiver.isOpen = false := by
          rw [hfinished]
          rfl
        have hpresent : (channelAfter hub step).receiver ≠ .dropped := by
          rw [hsame, hfinished]
          nofun
        have hflow := queue_performed_append hpresent
        rw [hempty, accepted_of_shut hshut] at hflow
        exact (List.append_eq_nil_iff.mp hflow.symm).2
      · rw [hother] at hfinished
        cases hfinished
      · rw [hother] at hfinished
        cases hfinished

theorem idle_foldl_performed {hub : Hub} (h : Idle hub) (steps : List Step) :
    Idle (steps.foldl performed hub) := by
  induction steps generalizing hub with
  | nil => exact h
  | cons step steps ih => exact ih (h.performed step)

/-! ## Who may still send -/

/-- Nobody outside, no registered handler and no pending timer has a sender. -/
structure NoSender (hub : Hub) : Prop where
  sender : hub.senderHeld = false
  timer : hub.timerHeld = false
  registered : ∀ h ∈ hub.registry.handlers, h.behaviour.isTimer = false
  pending : ∀ task ∈ hub.tasks, task.job.isTimer = false

theorem hasSender_eq_false_iff {hub : Hub} : hub.hasSender = false ↔ NoSender hub := by
  unfold Hub.hasSender Registry.hasTimer
  constructor
  · intro h
    simp only [Bool.or_eq_false_iff, List.any_eq_false, Bool.not_eq_true] at h
    obtain ⟨⟨⟨hsender, htimer⟩, hregistered⟩, hpending⟩ := h
    exact ⟨hsender, htimer, hregistered, hpending⟩
  · rintro ⟨hsender, htimer, hregistered, hpending⟩
    simp only [Bool.or_eq_false_iff, List.any_eq_false, Bool.not_eq_true]
    exact ⟨⟨⟨hsender, htimer⟩, hregistered⟩, hpending⟩

theorem not_noSender_of_timer {hub : Hub} {task : Task} (hmem : task ∈ hub.tasks)
    (htimer : task.job.isTimer = true) : ¬ NoSender hub := by
  intro hnone
  rw [hnone.pending task hmem] at htimer
  cases htimer

theorem act_receive_eq_closed_iff {hub : Hub} :
    (act .receive hub).1 = .poll .closed ↔
      hub.channel.receiver = .held ∧ hub.channel.queue = [] ∧ NoSender hub := by
  rw [act_receive_fst, ← hasSender_eq_false_iff]
  by_cases hheld : hub.channel.receiver = .held
  · rw [if_pos hheld]
    cases hub.channel.queue with
    | nil => cases hub.hasSender <;> simp [hheld]
    | cons t rest => simp
  · rw [if_neg hheld]
    simp [hheld]

theorem receiver_performed_of_running {hub : Hub} {step : Step}
    (h : (channelDue hub step).receiver = .running) :
    (performed hub step).channel.receiver = .finished ∧ NoSender (performed hub step) ∨
      (performed hub step).channel.receiver = .running ∧
        ¬ NoSender (performed hub step) := by
  rw [receiver_channelDue] at h
  rw [receiver_performed, h, ← hasSender_eq_false_iff]
  cases (performed hub step).hasSender with
  | false => exact .inl ⟨rfl, rfl⟩
  | true => exact .inr ⟨rfl, nofun⟩

/-- What the notification center is given when the hub settles is what was queued. -/
theorem performed_of_running {hub : Hub} {step : Step}
    (h : (channelDue hub step).receiver = .running) :
    let due := (Hub.runDue (act step hub).2).2
    let given := (deliveredByRun hub step).foldl Hub.delivered
      { due with channel.queue := [] }
    performed hub step =
      if given.hasSender then given
      else { given.logged Hub.closedRecord with channel.receiver := .finished } := by
  intro due given
  have hdelivered : (Hub.deliverQueued due).2 = given := by
    rw [Hub.deliverQueued_apply]
    simp only [given, deliveredByRun, if_pos h]
    exact if_pos h
  have hreceiver : given.channel.receiver = .running := by
    have hquiet := Hub.quiet_foldl_delivered (deliveredByRun hub step)
      { due with channel.queue := [] }
    rw [hquiet.view_eq Hub.channel fun _ _ _ _ => rfl]
    exact h
  calc performed hub step
      = (Hub.closeChannel (Hub.deliverQueued due).2).2 := performed_eq hub step
    _ = _ := by
      rw [hdelivered, Hub.closeChannel_apply]
      cases hsender : given.hasSender <;> simp [hreceiver]

/-- What a step does with the channel and with those who hold its ends. -/
structure Conveys (before : Hub) (step : Step) : Prop where
  /-- A trigger is queued, and its sender told so, exactly if there is a receiver. -/
  emits : ∀ t, (Hub.emit t before).1 = before.channel.receiver.isOpen ∧
    (Hub.emit t before).2.channel = before.channel.offer [t]
  flags : ∀ t, before.senderHeld = true →
    (act (.emit t) before).1 = .flag before.channel.receiver.isOpen
  /-- Who looks finds the channel closed exactly if nothing is queued or will be. -/
  looks : (act .receive before).1 = .poll .closed ↔
    before.channel.receiver = .held ∧ before.channel.queue = [] ∧ NoSender before
  /-- A running receiver gives all that is queued to the notification center, in order,
  and after that the step does no more than close the channel, -/
  delivers : (channelDue before step).receiver = .running →
    let due := (Hub.runDue (act step before).2).2
    let given := (deliveredByRun before step).foldl Hub.delivered
      { due with channel.queue := [] }
    performed before step =
        (if given.hasSender then given
        else { given.logged Hub.closedRecord with channel.receiver := .finished }) ∧
      (performed before step).channel.queue = []
  /-- and finishes exactly if no sender is left. -/
  finishes : (channelDue before step).receiver = .running →
    ((performed before step).channel.receiver = .finished ↔
      NoSender (performed before step))
  /-- A receiver is run or dropped by the one who holds it, and otherwise stays. -/
  changes : (channelDue before step).receiver = before.channel.receiver ∨
    before.channel.receiver = .held ∧
      (step = .run ∧ (channelDue before step).receiver = .running ∨
        step = .dropReceiver ∧ (channelDue before step).receiver = .dropped)
  stays : (channelDue before step).receiver ≠ .running →
    (performed before step).channel.receiver = (channelDue before step).receiver
  /-- A pending timer keeps the channel open. -/
  pending : ∀ task ∈ before.tasks, task.job.isTimer = true →
    (act .receive before).1 ≠ .poll .closed
  pending_running : (channelDue before step).receiver = .running →
    ∀ task ∈ (performed before step).tasks, task.job.isTimer = true →
      (performed before step).channel.receiver = .running

theorem conveys (before : Hub) (step : Step) : Conveys before step where
  emits t := by
    refine ⟨Hub.emit_fst t before, ?_⟩
    exact (Hub.quiet_emit t before).view_eq Hub.channel fun _ _ _ _ => rfl
  flags t hsender := by
    rw [act_emit_fst, hsender]
    rfl
  looks := act_receive_eq_closed_iff
  delivers hrunning := by
    exact ⟨performed_of_running hrunning,
      queue_performed_of_running (receiver_channelDue before step ▸ hrunning)⟩
  finishes hrunning := by
    rcases receiver_performed_of_running hrunning with ⟨hfinished, hnone⟩ | ⟨hstill, hleft⟩
    · exact iff_of_true hfinished hnone
    · refine iff_of_false ?_ hleft
      rw [hstill]
      nofun
  changes := by
    rw [receiver_channelDue]
    exact receiver_channelAfter before step
  stays hother := by
    rw [receiver_channelDue] at hother
    rw [receiver_channelDue, receiver_performed, if_neg fun h => hother h.1]
  pending task hmem htimer hclosed :=
    not_noSender_of_timer hmem htimer (act_receive_eq_closed_iff.mp hclosed).2.2
  pending_running hrunning task hmem htimer := by
    rcases receiver_performed_of_running hrunning with ⟨-, hnone⟩ | ⟨hstill, -⟩
    · exact absurd hnone (not_noSender_of_timer hmem htimer)
    · exact hstill

/-- After any steps of a session that begins with a new channel, what came out is a
prefix of what went in, and all of it if the receiver was run. -/
theorem received_prefix_accepted (hub : Hub) (earlier : List Step) (step : Step) :
    let new : Hub := { hub with channel := {} }
    let before := (run earlier new).2
    let sent := collect performed accepted new earlier
    let got := collect performed received new earlier
    got <+: sent ∧
      (before.channel.receiver ≠ .dropped → sent = got ++ before.channel.queue) ∧
      (before.channel.receiver = .running ∨ before.channel.receiver = .finished →
        got = sent) ∧
      (before.channel.receiver = .running → ¬ NoSender before) ∧
      Conveys before step := by
  intro new before sent got
  have hrun : before = earlier.foldl performed new := run_snd earlier new
  obtain ⟨rest, hrest, hqueue⟩ := received_append new earlier
  have hidle : Idle before := by
    rw [hrun]
    exact idle_foldl_performed (idle_of_held rfl) earlier
  rw [← hrun] at hqueue
  have hsent : sent = got ++ rest := hrest
  refine ⟨⟨rest, hsent.symm⟩, fun hpresent => ?_, fun hrunning => ?_, fun hrunning => ?_,
    conveys before step⟩
  · rw [hsent, hqueue hpresent]
  · have hempty : before.channel.queue = [] := by
      rcases hrunning with hrunning | hfinished
      · exact (hidle.running hrunning).1
      · exact hidle.finished hfinished
    have hpresent : before.channel.receiver ≠ .dropped := by
      intro hdropped
      rw [hdropped] at hrunning
      rcases hrunning with hrunning | hfinished
      · cases hrunning
      · cases hfinished
    rw [hsent, hqueue hpresent, hempty, List.append_nil]
  · rw [← hasSender_eq_false_iff, (hidle.running hrunning).2]
    nofun

/-- When the receiver is run, only a timer that has yet to expire has a sender. -/
def lastReminder : List Step :=
  [.emit (.notification "post"), .tryReceive, .emit (.notification "door"),
    .call .timer
      { name := Timer.setIntent, text := "set a timer"
        parameters := Dict.ofList
          [(Timer.amountParameter, "1"), (Timer.unitParameter, "seconds")] },
    .dropTimer, .dropSender, .run, .advance 999]

theorem received_prefix_accepted_lastReminder :
    let hub := start {} ⟨12, 34⟩ (.ofOutput "Kitchen" (.device 0)) none .selected 0
    let new : Hub := { hub with channel := {} }
    let before := (run lastReminder new).2
    let after := (perform (.advance 1) before).2
    before.channel.receiver = .running ∧ ¬ NoSender before ∧
      collect performed received new lastReminder =
        [.notification "post", .notification "door"] ∧
      after.channel.receiver = .finished ∧ NoSender after ∧
      after.spoken = [(0, "door"), (0, "Timer expired")] ∧
      Conveys before (.advance 1) := by
  obtain ⟨-, -, hall, hleft, hconveys⟩ :=
    received_prefix_accepted
      (start {} ⟨12, 34⟩ (.ofOutput "Kitchen" (.device 0)) none .selected 0)
      lastReminder (.advance 1)
  refine ⟨by decide +kernel, hleft (by decide +kernel),
    (hall (.inl (by decide +kernel))).trans (by decide +kernel),
    by decide +kernel, ?_, by decide +kernel, hconveys⟩
  exact (hconveys.finishes (by decide +kernel)).mp (by decide +kernel)

end Session

end VoiceHub
