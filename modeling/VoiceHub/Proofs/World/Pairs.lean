import VoiceHub.Proofs.World.Marks

/-!
# Two worlds side by side

A part of the hub is run from two states that go together.  It keeps them together
if they still do afterwards and its answer is the same; it only lets one follow the other
if the answers may differ.  A call whose failure is told in the log and goes no further
has no answer left that could differ.
-/

namespace VoiceHub

/-! ## Running a part twice -/

section Pairs

variable {σ α β : Type} {R : σ → σ → Prop}

def Paired (R : σ → σ → Prop) (left right : α × σ) : Prop :=
  right.1 = left.1 ∧ R left.2 right.2

def Keeps (R : σ → σ → Prop) (part : StateM σ α) : Prop :=
  ∀ ⦃s s' : σ⦄, R s s' → Paired R (part s) (part s')

def Follows (R : σ → σ → Prop) (part : StateM σ α) : Prop :=
  ∀ ⦃s s' : σ⦄, R s s' → R (part s).2 (part s').2

theorem Keeps.follows {part : StateM σ α} (h : Keeps R part) : Follows R part :=
  fun _ _ hs => (h hs).2

theorem Keeps.pure (a : α) : Keeps R (Pure.pure a : StateM σ α) :=
  fun _ _ hs => ⟨rfl, hs⟩

theorem Keeps.bind {part : StateM σ α} {next : α → StateM σ β} (h : Keeps R part)
    (hnext : ∀ a, Keeps R (next a)) : Keeps R (part >>= next) := by
  intro s s' hs
  obtain ⟨hanswer, hafter⟩ := h hs
  change Paired R (next (part s).1 (part s).2) (next (part s').1 (part s').2)
  rw [hanswer]
  exact hnext _ hafter

theorem Keeps.bind_pure {part : StateM σ α} (h : Keeps R part) (f : α → β) :
    Keeps R (part >>= fun a => Pure.pure (f a)) :=
  h.bind fun a => .pure (f a)

theorem Keeps.forM {part : α → StateM σ PUnit} (h : ∀ a, Keeps R (part a))
    (as : List α) : Keeps R (as.forM part) := by
  induction as with
  | nil => exact .pure PUnit.unit
  | cons a as ih => exact (h a).bind fun _ => ih

theorem Keeps.read {view : σ → α} (h : ∀ ⦃s s'⦄, R s s' → view s' = view s) :
    Keeps R (get >>= fun s => Pure.pure (view s) : StateM σ α) :=
  fun _ _ hs => ⟨h hs, hs⟩

theorem Follows.read (view : σ → α) :
    Follows R (get >>= fun s => Pure.pure (view s) : StateM σ α) :=
  fun _ _ hs => hs

theorem Keeps.bind_follows {part : StateM σ α} {next : α → StateM σ β}
    (h : Keeps R part) (hnext : ∀ a, Follows R (next a)) : Follows R (part >>= next) := by
  intro s s' hs
  obtain ⟨hanswer, hafter⟩ := h hs
  change R (next (part s).1 (part s).2).2 (next (part s').1 (part s').2).2
  rw [hanswer]
  exact hnext _ hafter

/-- What follows may read the answer and leaves the state as it is. -/
theorem Follows.bind {part : StateM σ α} {next : α → StateM σ β} (h : Follows R part)
    (hnext : ∀ a s, (next a s).2 = s) : Follows R (part >>= next) := by
  intro s s' hs
  change R (next (part s).1 (part s).2).2 (next (part s').1 (part s').2).2
  rw [hnext, hnext]
  exact h hs

end Pairs

/-! ## Calls -/

/-- A call whose failure is told in the log and goes no further. -/
def Act.orTell {ε : Type} (act : Act (Except ε Unit)) (failure : ε → Record) :
    Act Unit := do
  match ← act with
  | .ok () => return ()
  | .error e => World.note (.log (failure e))

theorem Act.orTell_snd {ε : Type} (act : Act (Except ε Unit)) (failure : ε → Record)
    (w : World) :
    (act.orTell failure w).2 =
      match (act w).1 with
      | .ok () => (act w).2
      | .error e => (act w).2.logged (failure e) := by
  have hbind : act.orTell failure w =
      (match (act w).1 with
        | .ok () => (pure () : Act Unit)
        | .error e => World.note (.log (failure e))) (act w).2 := rfl
  rw [hbind]
  cases (act w).1 <;> rfl

section Calls

variable {R : World → World → Prop}

theorem Keeps.orTell {ε : Type} {act : Act (Except ε Unit)} (h : Keeps R act)
    (hlog : ∀ record, Keeps R (World.note (.log record))) (failure : ε → Record) :
    Keeps R (act.orTell failure) := by
  refine h.bind fun result => ?_
  cases result with
  | ok _ => exact .pure ()
  | error e => exact hlog (failure e)

/-- If what the log says on either side is free, a failure may be told on one side. -/
theorem Follows.orTell {ε : Type} {act : Act (Except ε Unit)} (h : Follows R act)
    (hleft : ∀ ⦃w w'⦄ record, R w w' → R (w.logged record) w')
    (hright : ∀ ⦃w w'⦄ record, R w w' → R w (w'.logged record))
    (failure : ε → Record) : Keeps R (act.orTell failure) := by
  intro w w' hw
  refine ⟨rfl, ?_⟩
  have hafter := h hw
  rw [Act.orTell_snd, Act.orTell_snd]
  cases (act w).1 with
  | ok _ =>
      cases (act w').1 with
      | ok _ => exact hafter
      | error e => exact hright (failure e) hafter
  | error e =>
      cases (act w').1 with
      | ok _ => exact hleft (failure e) hafter
      | error e' => exact hleft (failure e) (hright (failure e') hafter)

/-! ## Requests -/

theorem World.send_apply (request : OutRequest) (w : World) :
    World.send request w =
      match w.network with
      | .unreachable => (none, w)
      | .serving replies =>
          let asked : World :=
            { w with
              journal := w.journal ++ [.request request]
              network := .serving replies.tail }
          (some (asked.exchange request replies), asked) := by
  unfold World.send
  change (match w.network with
    | .unreachable => (pure none : Act (Option Exchange))
    | .serving replies => _) w = _
  cases w.network <;> rfl

/-- The worlds note the same calls and have one network. -/
structure World.Linked (R : World → World → Prop) : Prop where
  note : ∀ event, Keeps R (World.note event)
  network_eq : ∀ ⦃w w'⦄, R w w' → w'.network = w.network
  withNetwork : ∀ ⦃w w'⦄ network, R w w' →
    R { w with network := network } { w' with network := network }

namespace World.Linked

theorem follows_send (h : Linked R) (request : OutRequest) :
    Follows R (World.send request) := by
  intro w w' hw
  rw [send_apply, send_apply, h.network_eq hw]
  cases w.network with
  | unreachable => exact hw
  | serving replies =>
      exact h.withNetwork (.serving replies.tail) (h.note (.request request) hw).2

theorem keeps_send (h : Linked R) {request : OutRequest}
    (hexchange : ∀ ⦃w w'⦄ replies, R w w' →
      w'.exchange request replies = w.exchange request replies) :
    Keeps R (World.send request) := by
  intro w w' hw
  refine ⟨?_, h.follows_send request hw⟩
  rw [send_apply, send_apply, h.network_eq hw]
  cases w.network with
  | unreachable => rfl
  | serving replies =>
      have hasked := h.withNetwork (.serving replies.tail) (h.note (.request request) hw).2
      exact congrArg some (hexchange replies hasked)

end World.Linked

/-! ## The backend -/

def OutRequest.IsOutput (request : OutRequest) : Prop :=
  ∃ b : Backend, request.url = b.endpoint "text-to-speech" ∨
    request.url = b.endpoint "listen-for-command"

namespace Backend

theorem not_isOutput (b : Backend) (path body : String) (contentType : Option String)
    (h : path.toList.getLast?.any fun c => c ≠ 'h' ∧ c ≠ 'd') :
    ¬ OutRequest.IsOutput { method := "POST", url := b.endpoint path, contentType, body } := by
  obtain ⟨last, hpath, hlast⟩ := (Option.any_eq_true _ _).mp h
  obtain ⟨hspeak, hlisten⟩ := of_decide_eq_true hlast
  rintro ⟨b', heq | heq⟩
  · exact endpoint_ne b b' hpath (by decide) hspeak heq
  · exact endpoint_ne b b' hpath (by decide) hlisten heq

theorem keeps_send {request : OutRequest}
    (hlog : ∀ record, Keeps R (World.note (.log record)))
    (hsend : Keeps R (World.send request)) : Keeps R (send request) := by
  refine (hlog _).bind fun _ => ?_
  split
  · exact .pure _
  · split
    · exact .pure _
    · refine (hlog _).bind fun _ => ?_
      refine hsend.bind fun exchange => ?_
      split
      · split <;> exact .pure _
      · exact .pure _

theorem follows_send {request : OutRequest}
    (hlog : ∀ record, Keeps R (World.note (.log record)))
    (hsend : Follows R (World.send request)) : Follows R (send request) := by
  refine (hlog _).bind_follows fun _ => ?_
  split
  · exact (Keeps.pure _).follows
  · split
    · exact (Keeps.pure _).follows
    · refine (hlog _).bind_follows fun _ => ?_
      refine hsend.bind fun exchange w => ?_
      split
      · split <;> rfl
      · rfl

/-- What is published rests on the replies to its own requests. -/
theorem keeps_publish (b : Backend)
    (hlog : ∀ record, Keeps R (World.note (.log record)))
    (hsend : ∀ request : OutRequest, ¬ request.IsOutput → Keeps R (World.send request))
    (call : PublishCall) : Keeps R (b.publish call) := by
  cases call with
  | slots slots =>
      have hpost := hsend _ (b.not_isOutput "slots?overwrite_all=true" slots.upload
        (some "application/json") (by decide))
      exact ((keeps_send hlog hpost).bind_pure _).bind_pure _
  | sentences text =>
      have hpost := hsend _ (b.not_isOutput "sentences" text none (by decide))
      exact ((keeps_send hlog hpost).bind_pure _).bind_pure _
  | train =>
      have hpost := hsend _ (b.not_isOutput "train?nocache=true" "" none (by decide))
      refine (keeps_send hlog hpost).bind fun result => ?_
      cases result with
      | error e => exact .pure _
      | ok message => exact (hlog _).bind_pure _

end Backend

end Calls

/-! ## Worlds that go together -/

/-- Nothing that the hub does to two worlds takes them apart or tells it which of the
two it is in. -/
structure World.Companions (R : World → World → Prop) : Prop where
  log : ∀ record, Keeps R (World.note (.log record))
  speak : ∀ (output : Output) (text : String) (failure : SpeakerError → Record),
    Keeps R ((output.speak text).orTell failure)
  listen : ∀ (service : Service) (failure : String → Record),
    Keeps R (service.listen.orTell failure)
  publish : ∀ (service : Service) (call : PublishCall), Keeps R (service.publish call)

namespace World.Companions

variable {R : World → World → Prop}

theorem keeps_record (h : Companions R) (r : PublishReport)
    (result : Except PublishError Unit) : Keeps R (r.record result) := by
  cases result with
  | ok _ => exact .pure _
  | error e => exact (h.log _).bind_pure _

theorem keeps_recorded (h : Companions R) {α : Type} (service : Service) (call : PublishCall)
    (r : PublishReport) (next : StepOutcome × PublishReport → α) :
    Keeps R (service.publish call >>= fun result =>
      r.record result >>= fun outcome => pure (next outcome)) :=
  (h.publish service call).bind fun result => (h.keeps_record r result).bind_pure _

theorem keeps_publishGrammar (h : Companions R) (g : Grammar) (service : Service) :
    Keeps R (g.publish service) := by
  unfold Grammar.publish
  split
  · exact (h.log _).bind_pure _
  · refine Keeps.bind ?_ fun r => Keeps.bind ?_ fun r => ?_
    · unfold Grammar.publishSlots
      split
      · exact .pure _
      · exact (h.log _).bind fun _ => h.keeps_recorded service _ _ _
    · unfold Grammar.publishSentences
      split
      · exact .pure _
      · exact (h.log _).bind fun _ => h.keeps_recorded service _ _ _
    · exact (h.log _).bind fun _ => h.keeps_recorded service _ _ _

theorem keeps_update (h : Companions R) (definitions : List Definition) (service : Service) :
    Keeps R (Grammar.update definitions service) := by
  unfold Grammar.update
  cases Grammar.compile definitions with
  | error e => exact .pure _
  | ok g => exact (h.log _).bind fun _ => (h.keeps_publishGrammar g service).bind_pure _

end World.Companions

end VoiceHub
