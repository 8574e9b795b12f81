import VoiceHub.Proofs.Hub.Serving
import VoiceHub.Proofs.Hub.Settling
import VoiceHub.Proofs.World.Pairs

/-!
# Two hubs beside each other

Two hubs differ in their worlds alone, and the worlds go together.  Each part of the
hub answers the same in both and leaves them beside each other: it looks at no
world, and what fails outside is told in the log.
-/

namespace VoiceHub

namespace Hub

def Beside (R : World → World → Prop) (hub hub' : Hub) : Prop :=
  ∃ w, R hub.world w ∧ hub' = { hub with world := w }

variable {R : World → World → Prop}

/-! ## Steps that do not see the world -/

section Blind

theorem Beside.view_eq {hub hub' : Hub} {α : Type} (h : Beside R hub hub')
    (view : Hub → α) (hview : ∀ (hub : Hub) w, view { hub with world := w } = view hub) :
    view hub' = view hub := by
  obtain ⟨w, -, rfl⟩ := h
  exact hview hub w

theorem Beside.map {hub hub' : Hub} (h : Beside R hub hub') (change : Hub → Hub)
    (hchange : ∀ (hub : Hub) w,
      change { hub with world := w } = { change hub with world := w }) :
    Beside R (change hub) (change hub') := by
  obtain ⟨w, hw, rfl⟩ := h
  have hworld : (change hub).world = hub.world :=
    calc (change hub).world
        = (change { hub with world := hub.world }).world := rfl
      _ = hub.world := by rw [hchange]
  exact ⟨w, hworld ▸ hw, hchange hub w⟩

theorem keeps_modify (change : Hub → Hub)
    (hchange : ∀ (hub : Hub) w,
      change { hub with world := w } = { change hub with world := w }) :
    Keeps (Beside R) (modify change : HubM PUnit) :=
  fun _ _ h => ⟨rfl, h.map change hchange⟩

theorem keeps_get {β : Type} {next : Hub → HubM β}
    (hview : ∀ (hub : Hub) w, next { hub with world := w } = next hub)
    (hnext : ∀ hub, Keeps (Beside R) (next hub)) : Keeps (Beside R) (get >>= next) := by
  intro hub hub' h
  change Paired (Beside R) (next hub hub) (next hub' hub')
  rw [h.view_eq next hview]
  exact hnext hub h

theorem keeps_outside {α : Type} {act : Act α} (h : Keeps R act) :
    Keeps (Beside R) (outside act) := by
  rintro hub hub' ⟨w, hw, rfl⟩
  obtain ⟨hanswer, hafter⟩ := h hw
  exact ⟨hanswer, (act w).2, hafter, rfl⟩

theorem keeps_take : Keeps (Beside R) take := by
  intro hub hub' h
  have hchannel : hub'.channel = hub.channel := h.view_eq channel fun _ _ => rfl
  by_cases hheld : hub.channel.receiver = .held
  · have hheld' : hub'.channel.receiver = .held := hchannel ▸ hheld
    rw [take_of_held hheld, take_of_held hheld', hchannel]
    exact ⟨rfl, h.map (fun hub => hub.withChannel _) fun _ _ => rfl⟩
  · have hheld' : hub'.channel.receiver ≠ .held := hchannel ▸ hheld
    rw [take_of_not_held hheld, take_of_not_held hheld']
    exact ⟨rfl, h⟩

theorem keeps_schedule (delay : Nat) (job : Job) :
    Keeps (Beside R) (schedule delay job) :=
  keeps_modify _ fun _ _ => rfl

end Blind

/-! ## Parts that call -/

theorem uttered_eq (hub : Hub) (voice : Voice) (text : String)
    (failure : SpeakerError → Record) :
    hub.uttered voice text failure =
      { hub with world := (((hub.output voice).speak text).orTell failure hub.world).2 } := by
  unfold uttered
  rw [Act.orTell_snd, speak_apply]
  cases ((hub.output voice).speak text hub.world).1 <;> rfl

def followUpRecord : Record :=
  { level := .debug, origin := .followUp, message := "Listening for follow-up command" }

def listenFailure (e : String) : Record :=
  { level := .error, origin := .followUp
    message := "Failed to start listening for a follow-up command: " ++ e }

theorem perform_followUp (hub : Hub) :
    perform .followUp hub =
      outside (hub.listener.listen.orTell listenFailure) (hub.logged followUpRecord) := by
  have houtside {α : Type} (act : Act α) (hub : Hub) :
      outside act hub = ((act hub.world).1, { hub with world := (act hub.world).2 }) := rfl
  have hlistener : (hub.logged followUpRecord).listener = hub.listener := rfl
  rw [← hlistener]
  simp only [perform, followUpRecord, bind_apply, log_apply, get_apply, houtside,
    Act.orTell_snd]
  generalize hub.logged _ = told
  cases (told.listener.listen told.world).1 <;> rfl

section Dispatch

variable (h : World.Companions R)

include h

theorem keeps_log (level : Level) (origin : Origin) (message : String)
    (fields : List (String × FieldValue)) :
    Keeps (Beside R) (log level origin message fields) :=
  keeps_outside (h.log _)

theorem Beside.logged {hub hub' : Hub} (hb : Beside R hub hub') (r : Record) :
    Beside R (hub.logged r) (hub'.logged r) :=
  (keeps_log h r.level r.origin r.message r.fields hb).2

theorem Beside.uttered {hub hub' : Hub} (hb : Beside R hub hub') (voice : Voice)
    (text : String) (failure : SpeakerError → Record) :
    Beside R (hub.uttered voice text failure) (hub'.uttered voice text failure) := by
  obtain ⟨w, hw, rfl⟩ := hb
  have houtput : ({ hub with world := w } : Hub).output voice = hub.output voice := by
    cases voice <;> rfl
  rw [uttered_eq, uttered_eq, houtput]
  exact ⟨_, (h.speak (hub.output voice) text failure hw).2, rfl⟩

theorem keeps_deliver (t : Trigger) : Keeps (Beside R) (deliver t) := by
  intro hub hub' hb
  have hcenter : hub'.center = hub.center := hb.view_eq center fun _ _ => rfl
  cases hhold : hub.center.hold? t with
  | some center =>
      rw [deliver_of_hold hhold, deliver_of_hold (hcenter ▸ hhold)]
      exact ⟨rfl, (hb.logged h _).map (fun hub => { hub with center }) fun _ _ => rfl⟩
  | none =>
      have hvoice : hub'.triggerVoice = hub.triggerVoice :=
        hb.view_eq triggerVoice fun _ _ => rfl
      rw [deliver_of_not_hold hhold, deliver_of_not_hold (hcenter ▸ hhold), hvoice]
      exact ⟨rfl, hb.uttered h _ _ _⟩

theorem keeps_emit (t : Trigger) : Keeps (Beside R) (emit t) := by
  refine keeps_get (fun _ _ => rfl) fun hub => ?_
  cases hub.channel.emit? t with
  | some channel => exact (keeps_modify _ fun _ _ => rfl).bind_pure _
  | none => exact (keeps_log h _ _ _ _).bind_pure _

theorem keeps_handle (b : Behaviour) (i : Intent) : Keeps (Beside R) (handle b i) := by
  refine keeps_get (fun _ _ => rfl) fun hub => ?_
  cases b with
  | timeOfDay | unknown | custom respond => exact .pure _
  | timer =>
      dsimp only
      cases Timer.seconds i with
      | error failure => exact .pure _
      | ok seconds => exact (keeps_schedule _ _).bind_pure _
  | notifications =>
      dsimp only
      cases hub.center.answer i with
      | error failure => exact .pure _
      | ok answer => exact (keeps_modify _ fun _ _ => rfl).bind_pure _
  | speakerSelect =>
      dsimp only
      cases hub.selector.answer i with
      | error failure => exact .pure _
      | ok answer =>
          refine (keeps_modify _ fun _ _ => rfl).bind fun _ => ?_
          exact (keeps_log h _ _ _ _).bind_pure _

theorem keeps_invoke (handler : Handler) (i : Intent) :
    Keeps (Beside R) (invoke handler i) := by
  refine (keeps_log h _ _ _ _).bind fun _ => ?_
  refine (keeps_handle h handler.behaviour i).bind fun outcome => ?_
  cases outcome with
  | ok response => exact .pure _
  | error failure =>
      cases failure with
      | error e => exact (keeps_log h _ _ _ _).bind_pure _
      | panic message => exact (keeps_log h _ _ _ _).bind_pure _

theorem keeps_speakAnswer (i : Intent) (response : Response) :
    Keeps (Beside R) (speakAnswer i response) := by
  intro hub hub' hb
  have hvoice : hub'.answerVoice = hub.answerVoice :=
    hb.view_eq answerVoice fun _ _ => rfl
  rw [speakAnswer_apply, speakAnswer_apply]
  unfold answered
  rw [hvoice]
  refine ⟨rfl, ?_⟩
  cases hub.answerVoice with
  | none => exact hb
  | some voice =>
      dsimp only
      split
      · exact hb
      · exact hb.uttered h _ _ _

theorem keeps_dispatch (i : Intent) : Keeps (Beside R) (dispatch i) := by
  refine keeps_get (fun _ _ => rfl) fun hub => ?_
  cases hub.registry.route? i.name with
  | some handler =>
      refine (keeps_invoke h handler i).bind fun response => ?_
      exact (keeps_speakAnswer h i response).bind_pure _
  | none =>
      refine (keeps_log h _ _ _ _).bind fun _ => ?_
      refine (Keeps.pure _).bind fun response => ?_
      exact (keeps_speakAnswer h i response).bind_pure _

end Dispatch

section Settling

variable (h : World.Companions R)

include h

theorem keeps_perform (job : Job) : Keeps (Beside R) (perform job) := by
  cases job with
  | timer seconds =>
      exact (keeps_log h _ _ _ _).bind fun _ => (keeps_emit h _).bind_pure _
  | followUp =>
      intro hub hub' hb
      have hlistener : hub'.listener = hub.listener := hb.view_eq listener fun _ _ => rfl
      rw [perform_followUp, perform_followUp, hlistener]
      exact keeps_outside (h.listen hub.listener listenFailure) (hb.logged h followUpRecord)

theorem keeps_runDue : Keeps (Beside R) runDue := by
  rintro hub hub' ⟨w, hw, rfl⟩
  have hjobs := Keeps.forM (fun task : Task => keeps_perform h task.job) hub.fired
  exact hjobs ⟨w, hw, rfl⟩

theorem keeps_deliverQueued : Keeps (Beside R) deliverQueued := by
  rintro hub hub' ⟨w, hw, rfl⟩
  unfold deliverQueued
  rw [bind_apply, get_apply, bind_apply, get_apply]
  dsimp only
  split
  · exact Keeps.forM (keeps_deliver h) hub.channel.queue ⟨w, hw, rfl⟩
  · exact ⟨rfl, w, hw, rfl⟩

theorem keeps_closeChannel : Keeps (Beside R) closeChannel := by
  refine keeps_get (fun _ _ => rfl) fun hub => ?_
  split
  · exact (keeps_log h _ _ _ _).bind fun _ => keeps_modify _ fun _ _ => rfl
  · exact .pure _

theorem keeps_settle : Keeps (Beside R) settle :=
  (keeps_runDue h).bind fun _ => (keeps_deliverQueued h).bind fun _ => keeps_closeChannel h

end Settling

section Serving

variable (h : World.Companions R)

include h

theorem keeps_register (handler : Handler) : Keeps (Beside R) (register handler) := by
  refine keeps_get (fun _ _ => rfl) fun hub => ?_
  refine Keeps.bind ?_ fun _ => keeps_modify _ fun _ _ => rfl
  exact Keeps.forM (fun record => keeps_outside (h.log record)) _

theorem keeps_update : Keeps (Beside R) update :=
  keeps_get (fun _ _ => rfl) fun _ => keeps_outside (h.keeps_update _ _)

theorem keeps_respond (p : Payload) : Keeps (Beside R) (respond p) := by
  unfold respond
  split
  · refine (keeps_dispatch h p.toIntent).bind fun response => ?_
    split
    · refine keeps_get (fun _ _ => rfl) fun hub => ?_
      exact (keeps_schedule _ _).bind_pure _
    · exact .pure _
  · exact .pure _

theorem keeps_receive (body : String) : Keeps (Beside R) (receive body) := by
  refine (keeps_log h _ _ _ _).bind fun _ => ?_
  cases Payload.ofText body with
  | error e => exact .pure _
  | ok p =>
      refine (keeps_respond h p).bind fun response => ?_
      exact (keeps_log h _ _ _ _).bind_pure _

theorem keeps_receiveBytes (body : List UInt8) :
    Keeps (Beside R) (receiveBytes body) := by
  unfold receiveBytes
  split
  · exact .pure _
  · cases Utf8.decode body with
    | error e => exact .pure _
    | ok text => exact keeps_receive h text

theorem keeps_answer (body : List UInt8) (route : Route) :
    Keeps (Beside R) (answer body route) := by
  cases route with
  | health | intents => exact keeps_get (fun _ _ => rfl) fun _ => .pure _
  | intent => exact keeps_receiveBytes h body
  | grammar =>
      refine keeps_get (fun _ _ => rfl) fun hub => ?_
      cases hub.grammar <;> exact .pure _
  | publish =>
      refine (keeps_update h).bind fun result => ?_
      cases result <;> exact .pure _

theorem keeps_serve (request : Http.Request) : Keeps (Beside R) (serve request) := by
  unfold serve
  cases Route.ofPath? request.path with
  | none => exact .pure _
  | some route =>
      dsimp only
      split
      · exact .pure _
      · exact (keeps_answer h request.body route).bind_pure _

end Serving

end Hub

end VoiceHub
