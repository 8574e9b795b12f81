import Mathlib.Data.List.Forall2
import VoiceHub.Proofs.Hub.Beside
import VoiceHub.Proofs.Session.Steps

/-!
# Outputs that fail

Two sessions take the same steps, and the outputs and the listener may fail in the
one as they like and in the other as they like.  Nobody but the log and whoever
speaks directly is told: both sessions call the same and end up the same.
-/

namespace VoiceHub

namespace World

/-! ## Worlds that differ in their outputs -/

/-- Both worlds saw the same calls and take the same publications.  Nothing is said of the
log, of the outputs and of the listener. -/
structure Alike (w w' : World) : Prop where
  calls_eq : w'.calls = w.calls
  publishFaults_eq : w'.publishFaults = w.publishFaults
  network_eq : w'.network = w.network
  exchange_eq : ∀ n (request : OutRequest), ¬ request.IsOutput →
    w'.exchangeMishap n request = w.exchangeMishap n request

namespace Alike

variable {w w' : World}

theorem noted (h : Alike w w') (event : Event) :
    Alike (note event w).2 (note event w').2 := by
  refine ⟨?_, h.publishFaults_eq, h.network_eq, h.exchange_eq⟩
  change (w'.journal ++ [event]).filter _ = (w.journal ++ [event]).filter _
  rw [List.filter_append, List.filter_append]
  exact congrArg (· ++ _) h.calls_eq

theorem logged_left (h : Alike w w') (r : Record) : Alike (w.logged r) w' :=
  ⟨h.calls_eq.trans (calls_logged w r).symm, h.publishFaults_eq, h.network_eq, h.exchange_eq⟩

theorem logged_right (h : Alike w w') (r : Record) : Alike w (w'.logged r) :=
  ⟨(calls_logged w' r).trans h.calls_eq, h.publishFaults_eq, h.network_eq, h.exchange_eq⟩

theorem callCount_eq (h : Alike w w') : w'.callCount = w.callCount := by
  have hcount (w : World) : w.callCount = w.calls.length := List.countP_eq_length_filter
  rw [hcount, hcount, h.calls_eq]

end Alike

theorem linked_alike : Linked Alike where
  note event _ _ h := ⟨rfl, h.noted event⟩
  network_eq _ _ h := h.network_eq
  withNetwork _ _ _ h := ⟨h.calls_eq, h.publishFaults_eq, rfl, h.exchange_eq⟩

theorem keeps_send_alike {request : OutRequest} (h : ¬ request.IsOutput) :
    Keeps Alike (send request) := by
  refine linked_alike.keeps_send fun w w' replies hw => ?_
  unfold exchange
  rw [hw.callCount_eq, hw.exchange_eq _ _ h]

/-- A failing output takes the worlds no further apart, whatever it answers. -/
theorem follows_speak_alike (output : Output) (text : String) :
    Follows Alike (output.speak text) := by
  cases output with
  | device index =>
      exact (linked_alike.note (.speak index text)).bind_follows fun _ => Follows.read _
  | backend b =>
      have hpost := Backend.follows_send (fun _ => linked_alike.note _)
        (linked_alike.follows_send
          { method := "POST", url := b.endpoint "text-to-speech", body := text })
      exact (hpost.bind fun _ _ => rfl).bind fun _ _ => rfl

theorem follows_listen_alike (service : Service) : Follows Alike service.listen := by
  cases service with
  | device => exact (linked_alike.note .listen).bind_follows fun _ => Follows.read _
  | backend b =>
      have hpost := Backend.follows_send (fun _ => linked_alike.note _)
        (linked_alike.follows_send
          { method := "POST", url := b.endpoint "listen-for-command" })
      exact (hpost.bind fun _ _ => rfl).bind fun _ _ => rfl

theorem companions_alike : Companions Alike where
  log record := linked_alike.note (.log record)
  speak output text failure :=
    (follows_speak_alike output text).orTell (fun _ _ r h => h.logged_left r)
      (fun _ _ r h => h.logged_right r) failure
  listen service failure :=
    (follows_listen_alike service).orTell (fun _ _ r h => h.logged_left r)
      (fun _ _ r h => h.logged_right r) failure
  publish service call := by
    cases service with
    | device =>
        refine (linked_alike.note (.publish call)).bind fun _ => Keeps.read fun w w' h => ?_
        rw [h.publishFaults_eq]
    | backend b =>
        exact b.keeps_publish (fun _ => linked_alike.note _) (fun _ => keeps_send_alike) call

end World

namespace Session

open Hub

/-- The steps are the same, except that outputs and the listener may be made to fail
differently. -/
inductive Step.Alike : Step → Step → Prop where
  | same (step : Step) : Alike step step
  | speakerFault (device device' : Nat) (fault fault' : Option SpeakerError) :
      Alike (.setSpeakerFault device fault) (.setSpeakerFault device' fault')
  | listenFault (fault fault' : Option String) :
      Alike (.setListenFault fault) (.setListenFault fault')

def Step.isSpeak : Step → Bool
  | .speak _ => true
  | _ => false

/-! ## One step -/

theorem keeps_pump (limit : Nat) : Keeps (Beside World.Alike) (pump limit) := by
  induction limit with
  | zero => exact .pure 0
  | succ limit ih =>
      refine keeps_take.bind fun taken => ?_
      cases taken with
      | none => exact .pure 0
      | some t =>
          exact (keeps_deliver World.companions_alike t).bind fun _ => ih.bind_pure _

theorem keeps_poll : Keeps (Beside World.Alike) poll := by
  refine keeps_take.bind fun taken => ?_
  cases taken with
  | some t => exact .pure _
  | none => exact keeps_get (fun _ _ => rfl) fun _ => .pure _

theorem keeps_act {step : Step} (h : step.isSpeak = false) :
    Keeps (Beside World.Alike) (act step) := by
  have halike := World.companions_alike
  cases step with
  | speak text => cases h
  | register handler =>
      exact keeps_get (fun _ _ => rfl) fun _ => (keeps_register halike handler).bind_pure _
  | builtin b =>
      refine keeps_get (fun _ _ => rfl) fun hub => ?_
      dsimp only
      split
      · exact .pure _
      · exact (keeps_register halike _).bind_pure _
  | dispatch i =>
      exact keeps_get (fun _ _ => rfl) fun _ => (keeps_dispatch halike i).bind_pure _
  | call b i =>
      refine keeps_get (fun _ _ => rfl) fun hub => ?_
      dsimp only
      split
      · exact .pure _
      · exact (keeps_handle halike b.behaviour i).bind_pure _
  | names | contains | count | definitions | compile | outputs | state =>
      exact keeps_get (fun _ _ => rfl) fun _ => .pure _
  | update =>
      exact keeps_get (fun _ _ => rfl) fun _ => (keeps_update halike).bind_pure _
  | request request =>
      exact keeps_get (fun _ _ => rfl) fun _ => (keeps_serve halike request).bind_pure _
  | emit t =>
      refine keeps_get (fun _ _ => rfl) fun hub => ?_
      dsimp only
      split
      · exact (keeps_emit halike t).bind_pure _
      · exact .pure _
  | tryReceive => exact keeps_get (fun _ _ => rfl) fun _ => keeps_take.bind_pure _
  | receive =>
      refine keeps_get (fun _ _ => rfl) fun hub => ?_
      dsimp only
      split
      · exact keeps_poll.bind_pure _
      · exact .pure _
  | pump =>
      exact keeps_get (fun _ _ => rfl) fun hub =>
        (keeps_pump hub.channel.queue.length).bind_pure _
  | trigger t =>
      exact keeps_get (fun _ _ => rfl) fun _ => (keeps_deliver halike t).bind_pure _
  | advance milliseconds =>
      exact keeps_get (fun _ _ => rfl) fun _ => (keeps_modify _ fun _ _ => rfl).bind_pure _
  | dropSender | dropTimer | dropReceiver =>
      rintro hub hub' ⟨w, hw, rfl⟩
      exact ⟨rfl, w, hw, rfl⟩
  | run =>
      rintro hub hub' ⟨w, hw, rfl⟩
      unfold act
      rw [bind_apply, get_apply, bind_apply, get_apply]
      dsimp only
      split
      · exact ⟨rfl, w, hw, rfl⟩
      · exact ⟨rfl, w, hw, rfl⟩
  | select name =>
      rintro hub hub' ⟨w, hw, rfl⟩
      unfold act
      rw [bind_apply, get_apply, bind_apply, get_apply]
      dsimp only
      cases hub.selector.select? name with
      | none => exact ⟨rfl, w, hw, rfl⟩
      | some selector => exact ⟨rfl, _, hw.noted _, rfl⟩
  | setSpeakerFault | setListenFault =>
      rintro hub hub' ⟨w, hw, rfl⟩
      refine ⟨rfl, _, ?_, rfl⟩
      exact ⟨hw.calls_eq, hw.publishFaults_eq, hw.network_eq, hw.exchange_eq⟩
  | setPublishFaults =>
      rintro hub hub' ⟨w, hw, rfl⟩
      refine ⟨rfl, _, ?_, rfl⟩
      exact ⟨hw.calls_eq, rfl, hw.network_eq, hw.exchange_eq⟩
  | addReplies replies =>
      rintro hub hub' ⟨w, hw, rfl⟩
      refine ⟨rfl, _, ?_, rfl⟩
      have hnetwork := congrArg (addReplies replies) hw.network_eq
      exact ⟨hw.calls_eq, hw.publishFaults_eq, hnetwork, hw.exchange_eq⟩

theorem beside_act {step step' : Step} (hstep : step.Alike step') {hub hub' : Hub}
    (hb : Beside World.Alike hub hub') :
    (step.isSpeak = false → (act step' hub').1 = (act step hub).1) ∧
      Beside World.Alike (act step hub).2 (act step' hub').2 := by
  cases hstep with
  | same =>
      cases hspeak : step.isSpeak with
      | false =>
          obtain ⟨hanswer, hafter⟩ := keeps_act hspeak hb
          exact ⟨fun _ => hanswer, hafter⟩
      | true =>
          refine ⟨nofun, ?_⟩
          cases step with
          | speak text =>
              obtain ⟨w, hw, rfl⟩ := hb
              refine ⟨_, ?_, rfl⟩
              exact World.follows_speak_alike (hub.output .selected) text hw
          | _ => cases hspeak
  | speakerFault | listenFault =>
      obtain ⟨w, hw, rfl⟩ := hb
      refine ⟨fun _ => rfl, _, ?_, rfl⟩
      exact ⟨hw.calls_eq, hw.publishFaults_eq, hw.network_eq, hw.exchange_eq⟩

theorem beside_perform {step step' : Step} (hstep : step.Alike step') {hub hub' : Hub}
    (hb : Beside World.Alike hub hub') :
    (step.isSpeak = false → (perform step' hub').1 = (perform step hub).1) ∧
      Beside World.Alike (perform step hub).2 (perform step' hub').2 := by
  obtain ⟨hanswer, hafter⟩ := beside_act hstep hb
  rw [perform_apply, perform_apply]
  exact ⟨hanswer, (keeps_settle World.companions_alike hafter).2⟩

/-! ## A whole session -/

theorem beside_run {steps steps' : List Step} (hsteps : List.Forall₂ Step.Alike steps steps')
    {hub hub' : Hub} (hb : Beside World.Alike hub hub') :
    (∀ (k : Nat) (step : Step), steps[k]? = some step → step.isSpeak = false →
      ∃ answer, (run steps hub).1[k]? = some answer ∧
        (run steps' hub').1[k]? = some answer) ∧
      Beside World.Alike (run steps hub).2 (run steps' hub').2 := by
  induction hsteps generalizing hub hub' with
  | nil => exact ⟨nofun, hb⟩
  | @cons first first' steps steps' hfirst hrest ih =>
      obtain ⟨hanswer, hafter⟩ := beside_perform hfirst hb
      obtain ⟨hanswers, hended⟩ := ih hafter
      rw [run_cons, run_cons]
      refine ⟨fun k step hk hspeak => ?_, hended⟩
      cases k with
      | zero =>
          obtain rfl : first = step := Option.some.inj hk
          exact ⟨_, rfl, congrArg some (hanswer hspeak)⟩
      | succ k => exact hanswers k step hk hspeak

/-- Whether, when and how outputs and the listener fail makes no difference to the answers,
to the calls and to what the session leaves behind. -/
theorem outputs_do_not_interfere (hub : Hub) {w : World} (hworld : hub.world.Alike w)
    {steps steps' : List Step} (hsteps : List.Forall₂ Step.Alike steps steps') :
    let ended := run steps hub
    let ended' := run steps' { hub with world := w }
    (∀ (k : Nat) (step : Step), steps[k]? = some step → step.isSpeak = false →
      ∃ answer, ended.1[k]? = some answer ∧ ended'.1[k]? = some answer) ∧
      ∃ w', ended.2.world.Alike w' ∧ ended'.2 = { ended.2 with world := w' } :=
  beside_run hsteps ⟨w, hworld, rfl⟩

def bedtime (fault : Option SpeakerError) : List Step :=
  let nap (amount : String) : Intent :=
    { name := Timer.setIntent, text := "set a timer"
      parameters := Dict.ofList
        [(Timer.amountParameter, amount), (Timer.unitParameter, "seconds")] }
  [.call .timer (nap "1"), .call .timer (nap "2"), .run, .advance 1000, .advance 1000,
    .setSpeakerFault 0 fault, .speak "Good night"]

def bedroom (w : World) : Hub :=
  start w ⟨21, 30⟩ (.ofOutput "Bedroom" (.device 0)) none .selected 0

/-- Only the second call fails. -/
def stumbling : World :=
  { speakerMishap := fun n => if n = 2 then some (.output "crackle") else none }

theorem outputs_do_not_interfere_bedtime :
    let steps := bedtime none
    let steps' := bedtime (some (.unavailable "asleep"))
    List.Forall₂ Step.Alike steps steps' ∧ World.Alike {} stumbling ∧
      (run steps (bedroom {})).2.world.journal ≠
        (run steps' (bedroom stumbling)).2.world.journal ∧
      (run steps' (bedroom stumbling)).2.world.calls =
        [.speak 0 "Timer expired", .speak 0 "Timer expired", .speak 0 "Good night"] ∧
      Beside World.Alike (run steps (bedroom {})).2 (run steps' (bedroom stumbling)).2 := by
  intro steps steps'
  have halike : World.Alike {} stumbling := ⟨rfl, rfl, rfl, fun _ _ _ => rfl⟩
  have hsteps : List.Forall₂ Step.Alike steps steps' :=
    .cons (.same _) (.cons (.same _) (.cons (.same _) (.cons (.same _) (.cons (.same _)
      (.cons (.speakerFault 0 0 _ _) (.cons (.same _) .nil))))))
  obtain ⟨-, hended⟩ := outputs_do_not_interfere (bedroom {}) halike hsteps
  exact ⟨hsteps, halike, by decide +kernel, by decide +kernel, hended⟩

end Session

end VoiceHub
