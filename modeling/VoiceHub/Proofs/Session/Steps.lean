import VoiceHub.Proofs.Hub.Serving
import VoiceHub.Proofs.Hub.Settling
import VoiceHub.Session

/-!
# The plan of a session, step by step

Each step moves the clock, registers, sends or orders something in one way of its
own, and leaves the rest of the plan as it is.  Then the hub settles.
-/

namespace VoiceHub

namespace Session

/-! ## What a step does to the plan -/

def elapsed : Step → Nat
  | .advance milliseconds => milliseconds
  | _ => 0

def ordered (hub : Hub) : Step → List Task
  | .dispatch i => hub.dispatchTasks i
  | .call b i => if isAbsent hub b then [] else hub.timerTasks b.behaviour i
  | .request request => hub.askedTasks request.asked?
  | _ => []

def registryAfter (hub : Hub) : Step → Registry
  | .register h => hub.registry.register h
  | .builtin b =>
      if isAbsent hub b then hub.registry
      else hub.registry.register (b.handler hub.selector)
  | _ => hub.registry

def channelAfter (hub : Hub) : Step → Channel
  | .emit t => if hub.senderHeld then hub.channel.offer [t] else hub.channel
  | .tryReceive | .receive => hub.channel.shortened 1
  | .pump => hub.channel.shortened hub.channel.queue.length
  | .run => hub.channel.run
  | .dropReceiver => hub.channel.dropReceiver
  | _ => hub.channel

def senderAfter (hub : Hub) : Step → Bool
  | .dropSender => false
  | _ => hub.senderHeld

def timerAfter (hub : Hub) : Step → Bool
  | .dropTimer => false
  | _ => hub.timerHeld

def acted (hub : Hub) (step : Step) : Hub :=
  { hub with
    now := hub.now + elapsed step
    registry := registryAfter hub step
    channel := channelAfter hub step
    senderHeld := senderAfter hub step
    timerHeld := timerAfter hub step }.planned (ordered hub step)

/-! ## Taking by hand -/

theorem uttered_withChannel (hub : Hub) (c : Channel) (voice : Voice) (text : String)
    (failure : SpeakerError → Record) :
    (hub.withChannel c).uttered voice text failure =
      (hub.uttered voice text failure).withChannel c := by
  have hcall : ((hub.withChannel c).output voice).speak text
      (hub.withChannel c).world = (hub.output voice).speak text hub.world := by
    cases voice <;> rfl
  unfold Hub.uttered
  rw [Hub.speak_apply, Hub.speak_apply, hcall]
  cases ((hub.output voice).speak text hub.world).1 <;> rfl

theorem delivered_withChannel (hub : Hub) (c : Channel) (t : Trigger) :
    (hub.withChannel c).delivered t = (hub.delivered t).withChannel c := by
  unfold Hub.delivered
  cases hhold : hub.center.hold? t with
  | some center =>
      have hhold' : (hub.withChannel c).center.hold? t = some center := hhold
      rw [Hub.deliver_of_hold hhold, Hub.deliver_of_hold hhold']
      rfl
  | none =>
      have hhold' : (hub.withChannel c).center.hold? t = none := hhold
      rw [Hub.deliver_of_not_hold hhold, Hub.deliver_of_not_hold hhold']
      exact uttered_withChannel hub c hub.triggerVoice t.message _

theorem channel_delivered (hub : Hub) (t : Trigger) :
    (hub.delivered t).channel = hub.channel :=
  (Hub.quiet_deliver t hub).view_eq Hub.channel fun _ _ _ _ => rfl

theorem pump_of_held {hub : Hub} (h : hub.channel.receiver = .held) {limit : Nat}
    (hlimit : limit ≤ hub.channel.queue.length) :
    pump limit hub =
      (limit, (hub.channel.queue.take limit).foldl Hub.delivered
        (hub.withChannel (hub.channel.shortened limit))) := by
  induction limit generalizing hub with
  | zero =>
      have hsame : hub.channel.shortened 0 = hub.channel := by
        simp [Channel.shortened]
      rw [hsame]
      rfl
  | succ limit ih =>
      cases hqueue : hub.channel.queue with
      | nil =>
          rw [hqueue] at hlimit
          cases hlimit
      | cons t rest =>
          -- the center does not see the channel, so the rest may be taken before or after
          let next := (hub.withChannel (hub.channel.shortened 1)).delivered t
          have hnext : next.channel = { hub.channel with queue := rest } := by
            rw [channel_delivered]
            change hub.channel.shortened 1 = _
            rw [Channel.shortened, if_pos h, hqueue]
            rfl
          have hlimit' : limit ≤ next.channel.queue.length := by
            rw [hnext]
            rw [hqueue] at hlimit
            exact Nat.le_of_succ_le_succ hlimit
          have hrest := ih (hnext ▸ h : next.channel.receiver = .held) hlimit'
          have hshort : next.channel.shortened limit =
              hub.channel.shortened (limit + 1) := by
            rw [hnext]
            simp [Channel.shortened, h, hqueue]
          have hcomm : next.withChannel (hub.channel.shortened (limit + 1)) =
              (hub.withChannel (hub.channel.shortened (limit + 1))).delivered t :=
            (delivered_withChannel _ _ t).symm
          have hpump : pump (limit + 1) hub = ((pump limit next).1 + 1, (pump limit next).2) := by
            simp [pump, Hub.take_of_held h, hqueue, next, Hub.delivered]
          rw [hpump, hrest, hshort, hcomm, hnext]
          rfl

theorem pump_of_not_held {hub : Hub} (h : hub.channel.receiver ≠ .held)
    (limit : Nat) : pump limit hub = (0, hub) := by
  cases limit with
  | zero => rfl
  | succ limit => simp [pump, Hub.take_of_not_held h]

theorem poll_of_held {hub : Hub} (h : hub.channel.receiver = .held) :
    poll hub =
      (match hub.channel.queue with
        | t :: _ => .ready t
        | [] => if hub.hasSender then .pending else .closed,
        hub.withChannel (hub.channel.shortened 1)) := by
  cases hqueue : hub.channel.queue with
  | nil =>
      have hsame := Channel.shortened_of_nil hqueue 1
      cases hsender : hub.hasSender <;>
        simp [poll, Hub.take_of_held h, hqueue, hsame, hsender, Hub.withChannel]
  | cons t rest => simp [poll, Hub.take_of_held h, hqueue]

/-! ## One step -/

theorem quiet_act (step : Step) (hub : Hub) : (acted hub step).Quiet (act step hub).2 := by
  unfold act
  rw [Hub.bind_apply, Hub.get_apply]
  have hsame := (Hub.Quiet.refl hub).of_planned_nil
  cases step with
  | names | contains | count | definitions | compile | outputs | state | advance
    | dropSender | dropTimer | dropReceiver => exact (Hub.Quiet.refl _).of_planned_nil
  | setSpeakerFault | setPublishFaults | setListenFault | addReplies =>
      -- the world changes, its journal does not
      refine Hub.Quiet.of_planned_nil ⟨_, _, _, ?_, rfl⟩
      exact (List.append_nil _).symm
  | register h => exact (Hub.quiet_register h hub).of_planned_nil
  | builtin b =>
      dsimp only [acted, registryAfter]
      split
      · exact hsame
      · exact (Hub.quiet_register _ hub).of_planned_nil
  | dispatch i => exact Hub.quiet_dispatch i hub
  | call b i =>
      dsimp only [acted, ordered]
      split
      · exact hsame
      · rw [Hub.bind_apply, Hub.handle_apply]
        exact Hub.quiet_handled b.behaviour i hub
  | update => exact (Hub.quiet_update hub).of_planned_nil
  | request request => exact Hub.quiet_serve request hub
  | emit t =>
      dsimp only [acted, channelAfter]
      cases hub.senderHeld with
      | true => exact (Hub.quiet_emit t hub).of_planned_nil
      | false => exact hsame
  | tryReceive =>
      dsimp only [acted, channelAfter]
      rw [Hub.bind_apply]
      by_cases hheld : hub.channel.receiver = .held
      · rw [Hub.take_of_held hheld]
        exact (Hub.Quiet.refl _).of_planned_nil
      · rw [Hub.take_of_not_held hheld, Channel.shortened, if_neg hheld]
        exact hsame
  | receive =>
      dsimp only [acted, channelAfter]
      split
      · next hheld =>
          rw [Hub.bind_apply, poll_of_held hheld]
          exact (Hub.Quiet.refl _).of_planned_nil
      · next hheld =>
          rw [Channel.shortened, if_neg hheld]
          exact hsame
  | pump =>
      dsimp only [acted, channelAfter]
      rw [Hub.bind_apply]
      by_cases hheld : hub.channel.receiver = .held
      · rw [pump_of_held hheld (Nat.le_refl _)]
        exact (Hub.quiet_foldl_delivered _ _).of_planned_nil
      · rw [pump_of_not_held hheld, Channel.shortened, if_neg hheld]
        exact hsame
  | run =>
      dsimp only [acted, channelAfter]
      split
      · exact (Hub.Quiet.refl _).of_planned_nil
      · next hheld =>
          rw [Channel.run, if_neg hheld]
          exact hsame
  | trigger t => exact (Hub.quiet_deliver t hub).of_planned_nil
  | select name =>
      dsimp only [acted, channelAfter]
      cases hub.selector.select? name with
      | none => exact hsame
      | some selector =>
          have hselect : hub.Quiet { hub with selector } :=
            ⟨_, selector, _, (List.append_nil _).symm, rfl⟩
          refine (hselect.trans ?_).of_planned_nil
          exact Hub.quiet_logged { hub with selector } _ rfl
  | speak text =>
      have hspeak := (hub.output .selected).isQuiet_speak text hub.world
      exact (Hub.quiet_of_world hspeak).of_planned_nil

theorem channel_act (step : Step) (hub : Hub) :
    (act step hub).2.channel = channelAfter hub step :=
  (quiet_act step hub).view_eq Hub.channel fun _ _ _ _ => rfl

/-! ## A step that has settled -/

def performed (hub : Hub) (step : Step) : Hub := (perform step hub).2

@[simp] theorem perform_apply (step : Step) (hub : Hub) :
    perform step hub = ((act step hub).1, (Hub.settle (act step hub).2).2) := by
  simp [perform]

theorem performed_eq (hub : Hub) (step : Step) :
    performed hub step = (Hub.settle (act step hub).2).2 := by
  simp [performed]

def fired (hub : Hub) (step : Step) : List Task := (act step hub).2.fired

theorem fired_eq (hub : Hub) (step : Step) : fired hub step = (acted hub step).fired :=
  (quiet_act step hub).view_eq Hub.fired fun _ _ _ _ => rfl

theorem marked_performed (hub : Hub) (step : Step) :
    (acted hub step).settled.Marked
      ((fired hub step).map fun task => task.job.mark hub.listener)
      (performed hub step) := by
  have hact := quiet_act step hub
  have hlistener : (act step hub).2.listener = hub.listener := hact.listener_eq
  have hsettle := Hub.marked_settle (act step hub).2
  rw [hlistener] at hsettle
  rw [performed_eq]
  exact hact.settled.trans hsettle

def channelDue (hub : Hub) (step : Step) : Channel :=
  (Hub.runDue (act step hub).2).2.channel

theorem channelDue_eq (hub : Hub) (step : Step) :
    channelDue hub step =
      (channelAfter hub step).offer
        ((fired hub step).flatMap fun task => task.job.reminders) := by
  rw [channelDue, Hub.channel_runDue, channel_act]
  rfl

theorem queue_performed (hub : Hub) (step : Step) :
    (performed hub step).channel.queue = (channelDue hub step).drained.queue := by
  rw [(marked_performed hub step).view_eq Hub.channel fun _ _ _ _ => rfl,
    channelDue_eq, fired_eq]
  exact Hub.queue_settled (acted hub step)

@[simp] theorem receiver_channelDue (hub : Hub) (step : Step) :
    (channelDue hub step).receiver = (channelAfter hub step).receiver := by
  rw [channelDue_eq, Channel.receiver_offer]

theorem receiver_performed (hub : Hub) (step : Step) :
    (performed hub step).channel.receiver =
      if (channelAfter hub step).receiver = .running ∧
          (performed hub step).hasSender = false then .finished
      else (channelAfter hub step).receiver := by
  have hafter := marked_performed hub step
  rw [hafter.view_eq Hub.channel fun _ _ _ _ => rfl,
    hafter.view_eq Hub.hasSender fun _ _ _ _ => rfl]
  exact Hub.receiver_settled (acted hub step)

theorem run_cons (step : Step) (steps : List Step) (hub : Hub) :
    run (step :: steps) hub =
      ((perform step hub).1 :: (run steps (performed hub step)).1,
        (run steps (performed hub step)).2) := by
  simp [run, performed]

theorem run_snd (steps : List Step) (hub : Hub) :
    (run steps hub).2 = steps.foldl performed hub := by
  induction steps generalizing hub with
  | nil => rfl
  | cons step steps ih =>
      rw [run_cons, List.foldl_cons]
      exact ih (performed hub step)

end Session

end VoiceHub
