import VoiceHub.Proofs.Hub.Speaking

/-!
# Settling

What is due is done: an expired timer is told in the log and puts its reminder on
the channel, a follow-up asks the listener.  Then a running receiver delivers what
is queued, and finishes when no sender is left.
-/

namespace VoiceHub

namespace Channel

def offer (c : Channel) (ts : List Trigger) : Channel :=
  if c.receiver.isOpen then { c with queue := c.queue ++ ts } else c

def shortened (c : Channel) (taken : Nat) : Channel :=
  if c.receiver = .held then { c with queue := c.queue.drop taken } else c

def drained (c : Channel) : Channel :=
  if c.receiver = .running then { c with queue := [] } else c

theorem take?_of_held {c : Channel} (h : c.receiver = .held) :
    c.take? = c.queue.head?.map fun t => (t, c.shortened 1) := by
  obtain ⟨queue, receiver⟩ := c
  subst h
  cases queue <;> rfl

theorem take?_of_not_held {c : Channel} (h : c.receiver ≠ .held) :
    c.take? = none := by
  obtain ⟨queue, receiver⟩ := c
  cases receiver with
  | held => exact absurd rfl h
  | _ => rfl

theorem shortened_of_nil {c : Channel} (h : c.queue = []) (taken : Nat) :
    c.shortened taken = c := by
  obtain ⟨queue, receiver⟩ := c
  subst h
  simp [shortened]

@[simp] theorem offer_nil (c : Channel) : c.offer [] = c := by
  simp [offer]

@[simp] theorem receiver_offer (c : Channel) (ts : List Trigger) :
    (c.offer ts).receiver = c.receiver := by
  unfold offer
  split <;> rfl

@[simp] theorem receiver_drained (c : Channel) : c.drained.receiver = c.receiver := by
  unfold drained
  split <;> rfl

theorem offer_append (c : Channel) (ts us : List Trigger) :
    c.offer (ts ++ us) = (c.offer ts).offer us := by
  unfold offer
  cases h : c.receiver.isOpen <;> simp [h]

end Channel

def Job.reminders : Job → List Trigger
  | .timer _ => [.reminder "Timer expired"]
  | .followUp => []

def Job.mark (listener : Service) : Job → Event
  | .timer seconds =>
      .log
        { level := .info, origin := .timer, message := "Timer expired"
          fields := [("seconds", .number seconds)] }
  | .followUp => listener.listenMark

namespace Hub

/-! ## The channel -/

def withChannel (hub : Hub) (c : Channel) : Hub := { hub with channel := c }

def offered (hub : Hub) (ts : List Trigger) : Hub :=
  hub.withChannel (hub.channel.offer ts)

@[simp] theorem offered_nil (hub : Hub) : hub.offered [] = hub :=
  congrArg hub.withChannel hub.channel.offer_nil

theorem offered_append (hub : Hub) (ts us : List Trigger) :
    hub.offered (ts ++ us) = (hub.offered ts).offered us :=
  congrArg hub.withChannel (hub.channel.offer_append ts us)

theorem Marked.offered {hub hub' : Hub} {marks : List Event}
    (h : hub.Marked marks hub') (ts : List Trigger) :
    (hub.offered ts).Marked marks (hub'.offered ts) := by
  obtain ⟨c, s, w, hmarks, rfl⟩ := h
  exact ⟨c, s, w, hmarks, rfl⟩

theorem emit_apply (t : Trigger) (hub : Hub) :
    emit t hub =
      if hub.channel.receiver.isOpen then (true, hub.offered [t])
      else
        (false, hub.logged
          { level := .debug, origin := .triggers
            message := "No trigger subscriber, discarding: " ++ t.message }) := by
  cases hopen : hub.channel.receiver.isOpen <;>
    simp [emit, offered, withChannel, Channel.emit?, Channel.offer, hopen]

@[simp] theorem emit_fst (t : Trigger) (hub : Hub) :
    (emit t hub).1 = hub.channel.receiver.isOpen := by
  rw [emit_apply]
  cases hub.channel.receiver.isOpen <;> rfl

theorem quiet_emit (t : Trigger) (hub : Hub) :
    (hub.offered [t]).Quiet (emit t hub).2 := by
  rw [emit_apply]
  split
  · exact .refl _
  · next hshut =>
      have hsame : hub.offered [t] = hub := by
        rw [offered, Channel.offer, if_neg hshut]
        rfl
      rw [hsame]
      exact quiet_logged hub _ rfl

theorem take_of_held {hub : Hub} (h : hub.channel.receiver = .held) :
    take hub =
      (hub.channel.queue.head?, hub.withChannel (hub.channel.shortened 1)) := by
  cases hqueue : hub.channel.queue with
  | nil =>
      have hsame := Channel.shortened_of_nil hqueue 1
      simp [take, Channel.take?_of_held h, hqueue, hsame, withChannel]
  | cons t rest => simp [take, Channel.take?_of_held h, hqueue, withChannel]

theorem take_of_not_held {hub : Hub} (h : hub.channel.receiver ≠ .held) :
    take hub = (none, hub) := by
  simp [take, Channel.take?_of_not_held h]

/-! ## Jobs -/

theorem marked_logged (hub : Hub) {r : Record} (h : r.origin = .timer) :
    hub.Marked [.log r] (hub.logged r) := by
  refine ⟨_, _, _, ?_, rfl⟩
  have hmark : (Event.log r).isMark hub.listener = true := by
    simp [Event.isMark, h]
  change (hub.world.journal ++ [Event.log r]).filter _ = _
  rw [List.filter_append, List.filter_cons_of_pos hmark]
  rfl

theorem marked_listen (hub : Hub) :
    hub.Marked [hub.listener.listenMark] (outside hub.listener.listen hub).2 :=
  ⟨_, _, _, hub.listener.marks_listen hub.world, rfl⟩

/-- A job is done once, whether or not anyone hears of it. -/
theorem marked_perform (job : Job) (hub : Hub) :
    (hub.offered job.reminders).Marked [job.mark hub.listener]
      (perform job hub).2 := by
  cases job with
  | timer seconds =>
      let told : Record :=
        { level := .info, origin := .timer, message := "Timer expired"
          fields := [("seconds", .number seconds)] }
      have htold : hub.Marked [.log told] (hub.logged told) := marked_logged hub rfl
      have hemit := quiet_emit (.reminder Timer.expiry) (hub.logged told)
      exact (htold.offered _).trans hemit
  | followUp =>
      simp only [Job.reminders, offered_nil, perform, bind_apply, log_apply, get_apply]
      have htold : hub.Quiet (hub.logged
          { level := .debug, origin := .followUp
            message := "Listening for follow-up command" }) :=
        quiet_logged hub _ rfl
      have hlisten := Marked.trans htold (marked_listen _)
      -- the mark is there either way; a refusal only adds a record
      generalize outside _ (hub.logged _) = heard at hlisten ⊢
      obtain ⟨result, after⟩ := heard
      cases result with
      | ok _ => exact hlisten
      | error e => exact Marked.trans hlisten (quiet_logged after _ rfl)

theorem marked_performAll (tasks : List Task) (hub : Hub) :
    (hub.offered (tasks.flatMap fun task => task.job.reminders)).Marked
      (tasks.map fun task => task.job.mark hub.listener)
      (tasks.forM (fun task => perform task.job) hub).2 := by
  induction tasks generalizing hub with
  | nil =>
      rw [List.flatMap_nil, offered_nil]
      exact Quiet.refl hub
  | cons task tasks ih =>
      have hfirst := marked_perform task.job hub
      have hrest := ih (perform task.job hub).2
      rw [hfirst.listener_eq] at hrest
      rw [List.flatMap_cons, offered_append]
      exact (hfirst.offered _).trans hrest

end Hub

/-! ## What is due -/

namespace Deadline

theorem after_eq {now delay : Nat} (h : now + delay ≤ last) :
    after now delay = now + delay := by
  have hclock : last < clockEnd := by decide
  unfold after
  rw [if_pos (Nat.lt_of_le_of_lt h hclock)]
  exact Nat.min_eq_right h

theorem le_after {now : Nat} (h : now ≤ last) (delay : Nat) : now ≤ after now delay := by
  unfold after
  split <;> omega

end Deadline

namespace Task

/-- The tasks in order of deadline, ties as they were. -/
structure InDueOrder (tasks ordered : List Task) : Prop where
  sorted : ordered.Pairwise fun task later => task.due ≤ later.due
  ties : ∀ due, (ordered.filter fun task => task.due = due) =
    tasks.filter fun task => task.due = due

theorem InDueOrder.mem_iff {tasks ordered : List Task} (h : InDueOrder tasks ordered)
    {task : Task} : task ∈ ordered ↔ task ∈ tasks := by
  have hmem := congrArg (fun kept => task ∈ kept) (h.ties task.due)
  simpa using hmem

theorem inDueOrder_sortByDue (tasks : List Task) :
    InDueOrder tasks (sortByDue tasks) := by
  let le (task later : Task) : Bool := task.due ≤ later.due
  have htrans (a b c : Task) (hab : le a b) (hbc : le b c) : le a c :=
    decide_eq_true (Nat.le_trans (of_decide_eq_true hab) (of_decide_eq_true hbc))
  have htotal (a b : Task) : (le a b || le b a) = true := by
    simpa [le] using Nat.le_total a.due b.due
  have hperm : (sortByDue tasks).Perm tasks := List.mergeSort_perm tasks le
  refine ⟨(List.pairwise_mergeSort htrans htotal tasks).imp of_decide_eq_true, fun due => ?_⟩
  -- tasks of one deadline are in order as they stand, and sorting keeps what is in order
  have htied : (tasks.filter fun task => task.due = due).Pairwise fun task later =>
      le task later = true := by
    refine List.pairwise_of_forall_mem_list fun task htask later hlater => decide_eq_true ?_
    have hdue := of_decide_eq_true (List.mem_filter.mp htask).2
    have hlast := of_decide_eq_true (List.mem_filter.mp hlater).2
    omega
  have hkept := (List.sublist_mergeSort htrans htotal htied List.filter_sublist).filter
    fun task => task.due = due
  rw [List.filter_filter] at hkept
  simp only [Bool.and_self] at hkept
  exact (hkept.eq_of_length (hperm.filter _).length_eq.symm).symm

theorem sortByDue_of_pairwise {tasks : List Task}
    (h : tasks.Pairwise fun task later => task.due ≤ later.due) : sortByDue tasks = tasks :=
  List.mergeSort_of_pairwise (h.imp fun hle => decide_eq_true hle)

end Task

namespace Hub

def fired (hub : Hub) : List Task :=
  Task.sortByDue (hub.tasks.filter (isDue hub.now))

def pending (hub : Hub) : List Task :=
  hub.tasks.filter fun task => !isDue hub.now task

def reminders (hub : Hub) : List Trigger :=
  hub.fired.flatMap fun task => task.job.reminders

def discharged (hub : Hub) : Hub :=
  { hub.offered hub.reminders with tasks := hub.pending }

theorem marked_runDue (hub : Hub) :
    hub.discharged.Marked (hub.fired.map fun task => task.job.mark hub.listener)
      (runDue hub).2 :=
  marked_performAll hub.fired { hub with tasks := hub.pending }

@[simp] theorem channel_runDue (hub : Hub) :
    (runDue hub).2.channel = hub.channel.offer hub.reminders :=
  (marked_runDue hub).view_eq channel fun _ _ _ _ => rfl

/-! ## The running receiver -/

def delivered (hub : Hub) (t : Trigger) : Hub := (deliver t hub).2

@[simp] theorem forM_deliver_apply (ts : List Trigger) (hub : Hub) :
    (forM ts deliver : HubM PUnit) hub = ((), ts.foldl delivered hub) := by
  induction ts generalizing hub with
  | nil => rfl
  | cons t ts ih => exact ih (hub.delivered t)

theorem quiet_foldl_delivered (ts : List Trigger) (hub : Hub) :
    hub.Quiet (ts.foldl delivered hub) := by
  induction ts generalizing hub with
  | nil => exact .refl hub
  | cons t ts ih => exact (quiet_deliver t hub).trans (ih (hub.delivered t))

@[simp] theorem deliverQueued_apply (hub : Hub) :
    deliverQueued hub =
      ((), if hub.channel.receiver = .running then
          hub.channel.queue.foldl delivered { hub with channel.queue := [] }
        else hub) := by
  by_cases hrunning : hub.channel.receiver = .running <;>
    simp [deliverQueued, hrunning]

theorem quiet_deliverQueued (hub : Hub) :
    (hub.withChannel hub.channel.drained).Quiet (deliverQueued hub).2 := by
  rw [deliverQueued_apply]
  unfold Channel.drained
  dsimp only
  split
  · exact quiet_foldl_delivered hub.channel.queue _
  · exact .refl hub

def closedRecord : Record :=
  { level := .debug, origin := .triggers, message := "Trigger channel closed" }

@[simp] theorem closeChannel_apply (hub : Hub) :
    closeChannel hub =
      ((), if hub.channel.receiver = .running ∧ hub.hasSender = false then
          { hub.logged closedRecord with channel.receiver := .finished }
        else hub) := by
  by_cases hclose : hub.channel.receiver = .running ∧ hub.hasSender = false <;>
    simp [closeChannel, hclose, closedRecord]

def closing (hub : Hub) : Hub :=
  hub.withChannel
    (if hub.channel.receiver = .running ∧ hub.hasSender = false then
      { hub.channel with receiver := .finished }
    else hub.channel)

theorem quiet_closeChannel (hub : Hub) : hub.closing.Quiet (closeChannel hub).2 := by
  rw [closeChannel_apply]
  unfold closing
  dsimp only
  split
  · exact quiet_logged (hub.withChannel _) _ rfl
  · exact .refl hub

@[simp] theorem queue_closing (hub : Hub) : hub.closing.channel.queue = hub.channel.queue := by
  unfold closing withChannel
  split <;> rfl

theorem receiver_closing (hub : Hub) :
    hub.closing.channel.receiver =
      if hub.channel.receiver = .running ∧ hub.hasSender = false then .finished
      else hub.channel.receiver := by
  unfold closing withChannel
  split <;> rfl

def settled (hub : Hub) : Hub :=
  (hub.discharged.withChannel hub.discharged.channel.drained).closing

section Plan

variable {hub hub' : Hub} {marks : List Event}

theorem Marked.drained (h : hub.Marked marks hub') :
    (hub.withChannel hub.channel.drained).Marked marks
      (hub'.withChannel hub'.channel.drained) := by
  obtain ⟨c, s, w, hmarks, rfl⟩ := h
  exact ⟨c, s, w, hmarks, rfl⟩

theorem Marked.closing (h : hub.Marked marks hub') :
    hub.closing.Marked marks hub'.closing := by
  obtain ⟨c, s, w, hmarks, rfl⟩ := h
  exact ⟨c, s, w, hmarks, rfl⟩

theorem Marked.settled (h : hub.Marked marks hub') :
    hub.settled.Marked marks hub'.settled := by
  obtain ⟨c, s, w, hmarks, rfl⟩ := h
  exact ⟨c, s, w, hmarks, rfl⟩

end Plan

theorem queue_settled (hub : Hub) :
    hub.settled.channel.queue = (hub.channel.offer hub.reminders).drained.queue :=
  queue_closing _

theorem receiver_settled (hub : Hub) :
    hub.settled.channel.receiver =
      if hub.channel.receiver = .running ∧ hub.settled.hasSender = false then .finished
      else hub.channel.receiver := by
  have hdrained : hub.discharged.channel.drained.receiver = hub.channel.receiver := by
    rw [Channel.receiver_drained]
    exact Channel.receiver_offer _ _
  rw [← hdrained]
  exact receiver_closing _

theorem marked_settle (hub : Hub) :
    hub.settled.Marked (hub.fired.map fun task => task.job.mark hub.listener)
      (settle hub).2 := by
  have hdue := (marked_runDue hub).drained.closing
  have hrun := (quiet_deliverQueued (runDue hub).2).closing
  have hclose := quiet_closeChannel (deliverQueued (runDue hub).2).2
  exact (hdue.trans_quiet hrun).trans_quiet hclose

end Hub

end VoiceHub
