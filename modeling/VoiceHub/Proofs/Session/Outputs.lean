import VoiceHub.Proofs.Dispatch.Confinement
import VoiceHub.Proofs.Setup.Directions

/-!
# The outputs of a session

Nothing that is done to a hub adds an output, drops one or binds it anew, or changes the
definitions that offer them.  All that ever moves is the place of the current output, and
one handler and one step move it.
-/

namespace VoiceHub

namespace Hub

/-! ## What keeps the outputs -/

/-- Whatever the part does, it leaves the outputs and their definitions as they are. -/
def Steady {α : Type} (part : HubM α) : Prop :=
  ∀ hub, (part hub).2.selector.offer = hub.selector.offer

section Steady

variable {α β : Type}

theorem steady_of_selector {part : HubM α} (h : ∀ hub, (part hub).2.selector = hub.selector) :
    Steady part := by
  intro hub
  rw [h]

theorem Steady.pure (a : α) : Steady (Pure.pure a : HubM α) := by
  intro hub
  rfl

theorem Steady.bind {part : HubM α} {next : α → HubM β} (h : Steady part)
    (hnext : ∀ a, Steady (next a)) : Steady (part >>= next) := by
  intro hub
  rw [bind_apply, hnext, h]

theorem Steady.bind_pure {part : HubM α} (h : Steady part) (f : α → β) :
    Steady (part >>= fun a => Pure.pure (f a)) := by
  apply h.bind
  intro a
  exact .pure _

theorem Steady.forM {part : α → HubM PUnit} (h : ∀ a, Steady (part a)) (as : List α) :
    Steady (as.forM part) := by
  induction as with
  | nil => exact .pure _
  | cons a as ih =>
      apply (h a).bind
      intro _
      exact ih

theorem steady_get {next : Hub → HubM α}
    (h : ∀ hub, (next hub hub).2.selector.offer = hub.selector.offer) :
    Steady (get >>= next) := by
  intro hub
  exact h hub

theorem steady_modify {change : Hub → Hub} (h : ∀ hub, (change hub).selector = hub.selector) :
    Steady (modify change : HubM PUnit) := by
  apply steady_of_selector
  exact h

theorem steady_outside (act : Act α) : Steady (outside act) := by
  apply steady_of_selector
  intro hub
  rfl

theorem steady_log (level : Level) (origin : Origin) (message : String)
    (fields : List (String × FieldValue)) : Steady (log level origin message fields) :=
  steady_outside _

theorem steady_speak (voice : Voice) (text : String) : Steady (speak voice text) := by
  apply steady_get
  intro hub
  exact steady_outside _ hub

theorem steady_deliver (t : Trigger) : Steady (deliver t) := by
  apply steady_get
  intro hub
  cases hub.center.hold? t with
  | some center => rfl
  | none =>
      refine Steady.bind (steady_speak _ _) (fun result => ?_) hub
      cases result with
      | ok _ => exact .pure _
      | error e => exact steady_log _ _ _ _

theorem steady_emit (t : Trigger) : Steady (emit t) := by
  apply steady_get
  intro hub
  cases hub.channel.emit? t with
  | some channel => rfl
  | none => rfl

theorem steady_take : Steady take := by
  apply steady_get
  intro hub
  cases hub.channel.take? with
  | some taken => rfl
  | none => rfl

theorem steady_schedule (delay : Nat) (job : Job) : Steady (schedule delay job) := by
  apply steady_modify
  intro hub
  rfl

theorem steady_perform (job : Job) : Steady (perform job) := by
  cases job with
  | timer seconds =>
      apply (steady_log _ _ _ _).bind
      intro _
      exact (steady_emit _).bind_pure _
  | followUp =>
      apply (steady_log _ _ _ _).bind
      intro _
      apply steady_get
      intro hub
      refine Steady.bind (steady_outside _) (fun result => ?_) hub
      cases result with
      | ok _ => exact .pure _
      | error e => exact steady_log _ _ _ _

theorem steady_settle : Steady settle := by
  have hdue : Steady runDue := by
    apply steady_get
    intro hub
    rw [bind_apply]
    exact Steady.forM (fun task : Task => steady_perform task.job) _ _
  have hqueued : Steady deliverQueued := by
    apply steady_get
    intro hub
    split
    · rw [bind_apply]
      exact Steady.forM steady_deliver _ _
    · rfl
  have hclosed : Steady closeChannel := by
    apply steady_get
    intro hub
    split <;> rfl
  exact hdue.bind fun _ => hqueued.bind fun _ => hclosed

/-! ## Intents and requests -/

theorem steady_register (h : Handler) : Steady (register h) := by
  apply steady_get
  intro hub
  rw [bind_apply]
  exact Steady.forM (fun record => steady_outside (World.note (.log record))) _ _

theorem steady_handle (b : Behaviour) (i : Intent) : Steady (handle b i) := by
  intro hub
  rw [handle_apply]
  unfold handled
  cases b with
  | timeOfDay | timer | unknown | custom respond => rfl
  | notifications =>
      dsimp only
      split <;> rfl
  | speakerSelect =>
      dsimp only
      split
      · next selector hanswer =>
          obtain ⟨place, hplace, rfl⟩ := Selector.eq_of_answer hanswer
          rfl
      · rfl

theorem steady_dispatch (i : Intent) : Steady (dispatch i) := by
  have hanswer (response : Response) : Steady (speakAnswer i response) := by
    intro hub
    rw [speakAnswer_apply]
    obtain ⟨w, hw⟩ := answered_eq i hub response
    rw [hw]
  have hinvoke (h : Handler) : Steady (invoke h i) := by
    intro hub
    simp only [invoke_apply]
    obtain ⟨w, hw⟩ := reported_eq i (handle h.behaviour i (hub.logged (dispatchRecord h i))).2 h
      (handle h.behaviour i (hub.logged (dispatchRecord h i))).1
    rw [hw]
    exact steady_handle h.behaviour i (hub.logged (dispatchRecord h i))
  apply steady_get
  intro hub
  cases hub.registry.route? i.name with
  | some h => exact ((hinvoke h).bind fun response => (hanswer response).bind_pure _) hub
  | none =>
      apply (steady_log _ _ _ _).bind
      intro _
      apply (Steady.pure _).bind
      intro response
      exact (hanswer response).bind_pure _

theorem steady_update : Steady update := by
  apply steady_get
  intro hub
  exact steady_outside _ hub

theorem steady_serve (request : Http.Request) : Steady (serve request) := by
  have hrespond (p : Payload) : Steady (respond p) := by
    unfold respond
    split
    · apply (steady_dispatch _).bind
      intro response
      split
      · apply steady_get
        intro hub
        exact (steady_schedule _ _).bind_pure _ hub
      · exact .pure _
    · exact .pure _
  have hreceive (body : String) : Steady (receive body) := by
    apply (steady_log _ _ _ _).bind
    intro _
    cases Payload.ofText body with
    | error e => exact .pure _
    | ok p =>
        apply (hrespond p).bind
        intro response
        exact (steady_log _ _ _ _).bind_pure _
  have hbytes : Steady (receiveBytes request.body) := by
    unfold receiveBytes
    split
    · exact .pure _
    · cases Utf8.decode request.body with
      | error e => exact .pure _
      | ok text => exact hreceive text
  intro hub
  by_cases hposts : Route.ofPath? request.path = some .intent ∧ request.method = "POST"
  · rw [serve_of_posts hposts.1 hposts.2]
    exact hbytes hub
  · rcases serve_of_not_posts hposts hub with hsame | ⟨route, hroute, hanswer⟩
    · rw [hsame]
    · rw [hanswer]
      rcases snd_answer hroute request.body hub with hread | hupdated
      · rw [hread]
      · rw [hupdated]
        exact steady_update hub

end Steady

end Hub

namespace Session

open Hub

theorem steady_pump (limit : Nat) : Steady (pump limit) := by
  induction limit with
  | zero => exact .pure _
  | succ limit ih =>
      apply steady_take.bind
      intro taken
      cases taken with
      | none => exact .pure _
      | some t =>
          apply (steady_deliver t).bind
          intro _
          exact ih.bind_pure _

theorem steady_act (step : Step) : Steady (act step) := by
  apply steady_get
  intro hub
  cases step with
  | names | contains | count | definitions | compile | outputs | state | dropSender | dropTimer
    | dropReceiver | advance => rfl
  | setSpeakerFault | setPublishFaults | setListenFault | addReplies => rfl
  | register h => exact (steady_register h).bind_pure _ hub
  | builtin b =>
      dsimp only
      split
      · rfl
      · exact (steady_register _).bind_pure _ hub
  | dispatch i => exact (steady_dispatch i).bind_pure _ hub
  | call b i =>
      dsimp only
      split
      · rfl
      · exact (steady_handle b.behaviour i).bind_pure _ hub
  | update => exact steady_update.bind_pure _ hub
  | request request => exact (steady_serve request).bind_pure _ hub
  | emit t =>
      dsimp only
      split
      · exact (steady_emit t).bind_pure _ hub
      · rfl
  | tryReceive => exact steady_take.bind_pure _ hub
  | receive =>
      dsimp only
      split
      · next hheld =>
          rw [bind_apply, poll_of_held hheld]
          rfl
      · rfl
  | pump => exact (steady_pump _).bind_pure _ hub
  | run =>
      dsimp only
      split <;> rfl
  | trigger t => exact (steady_deliver t).bind_pure _ hub
  | select name =>
      dsimp only
      cases hselect : hub.selector.select? name with
      | none => rfl
      | some selected => exact Selector.offer_select? hselect
  | speak text => exact (steady_speak _ text).bind_pure _ hub

theorem steady_run (steps : List Step) : Steady (run steps) := by
  induction steps with
  | nil => exact .pure _
  | cons step steps ih =>
      have hperform : Steady (perform step) := by
        apply (steady_act step).bind
        intro answer
        exact steady_settle.bind_pure _
      apply hperform.bind
      intro answer
      exact ih.bind_pure _

end Session

end VoiceHub
