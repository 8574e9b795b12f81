import VoiceHub.Proofs.World.Pairs

/-!
# Which URLs are called

A request is announced in the log under its URL before it is sent, and may then
be sent to that URL.  Speaking, publishing and listening at a backend each ask for
an endpoint of their own below its root, and tell nothing else that counts here.
-/

namespace VoiceHub

/-- Records of this origin tell neither of a selection nor of a request. -/
def Origin.isAside : Origin → Bool
  | .selector => false
  | .backend => false
  | _ => true

namespace Event

def Asks (url : String) : Event → Prop
  | .log r => r = Backend.requestRecord url
  | .request sent => sent.url = url
  | _ => False

def selected? : Event → Option String
  | .log { origin := .selector, fields := [(_, .plain name)], .. } => some name
  | _ => none

structure StaysWithin (urls : String → Prop) (e : Event) : Prop where
  selected : e.selected? = none
  asked : ∀ url, e.Asks url → urls url

theorem eq_requestRecord_of_asks {r : Record} {url : String} (h : (Event.log r).Asks url) :
    r = Backend.requestRecord url := h

variable {urls : String → Prop}

theorem StaysWithin.mono {urls' : String → Prop} {e : Event} (h : e.StaysWithin urls)
    (hurls : ∀ url, urls url → urls' url) : e.StaysWithin urls' :=
  ⟨h.selected, fun url hasks => hurls url (h.asked url hasks)⟩

theorem staysWithin_log {r : Record} (h : r.origin.isAside = true) :
    (Event.log r).StaysWithin urls := by
  obtain ⟨level, origin, message, fields⟩ := r
  refine ⟨?_, fun url hasks => ?_⟩
  · cases origin with
    | selector => cases h
    | _ => rfl
  · rw [eq_requestRecord_of_asks hasks] at h
    cases h

end Event

namespace Act

/-- Whatever comes to the journal is of this kind. -/
def Adds {α : Type} (kind : Event → Prop) (act : Act α) : Prop :=
  ∀ w, ∃ events, (act w).2.journal = w.journal ++ events ∧ ∀ e ∈ events, kind e

variable {α β : Type} {kind : Event → Prop}

theorem adds_of_journal_eq {act : Act α} (h : ∀ w, (act w).2.journal = w.journal) :
    Adds kind act :=
  fun w => ⟨[], by rw [h, List.append_nil], nofun⟩

theorem Adds.pure (a : α) : Adds kind (Pure.pure a : Act α) :=
  adds_of_journal_eq fun _ => rfl

theorem Adds.bind {act : Act α} {next : α → Act β} (h : Adds kind act)
    (hnext : ∀ a, Adds kind (next a)) : Adds kind (act >>= next) := by
  intro w
  obtain ⟨events, hjournal, hevents⟩ := h w
  obtain ⟨later, hafter, hlater⟩ := hnext (act w).1 (act w).2
  refine ⟨events ++ later, ?_, List.forall_mem_append.mpr ⟨hevents, hlater⟩⟩
  rw [← List.append_assoc, ← hjournal]
  exact hafter

theorem Adds.bind_pure {act : Act α} (h : Adds kind act) (f : α → β) :
    Adds kind (act >>= fun a => Pure.pure (f a)) :=
  h.bind fun a => .pure (f a)

theorem Adds.mono {kind' : Event → Prop} {act : Act α} (h : Adds kind act)
    (hkind : ∀ e, kind e → kind' e) : Adds kind' act := by
  intro w
  obtain ⟨events, hjournal, hevents⟩ := h w
  exact ⟨events, hjournal, fun e he => hkind e (hevents e he)⟩

theorem adds_note {e : Event} (h : kind e) : Adds kind (World.note e) :=
  fun _ => ⟨[e], rfl, by simpa using h⟩

theorem Adds.orTell {ε : Type} {act : Act (Except ε Unit)} (h : Adds kind act)
    {failure : ε → Record} (hfailure : ∀ e, kind (.log (failure e))) :
    Adds kind (act.orTell failure) := by
  refine h.bind fun result => ?_
  cases result with
  | ok _ => exact .pure ()
  | error e => exact adds_note (hfailure e)

end Act

/-! ## Backends -/

def PublishCall.path : PublishCall → String
  | .slots _ => "slots?overwrite_all=true"
  | .sentences _ => "sentences"
  | .train => "train?nocache=true"

namespace Backend

open Act

theorem adds_send (request : OutRequest) :
    Adds (Event.StaysWithin (· = request.url)) (send request) := by
  have hannounced : (Event.log (requestRecord request.url)).StaysWithin (· = request.url) := by
    refine ⟨rfl, fun url hasks => ?_⟩
    have hmessage := congrArg Record.message (Event.eq_requestRecord_of_asks hasks)
    exact ((String.append_right_inj _).mp hmessage).symm
  have hsent : Adds (Event.StaysWithin (· = request.url)) (World.send request) := by
    refine Adds.bind (adds_of_journal_eq fun _ => rfl) fun w => ?_
    cases w.network with
    | unreachable => exact .pure none
    | serving replies =>
        refine (adds_note ⟨rfl, fun url hasks => hasks.symm⟩).bind fun _ => ?_
        exact Adds.bind (adds_of_journal_eq fun _ => rfl) fun _ =>
          adds_of_journal_eq fun _ => rfl
  refine (adds_note hannounced).bind fun _ => ?_
  cases (Url.parse? request.url).map Url.withoutCredentials with
  | none => exact .pure _
  | some target =>
      dsimp only
      split
      · exact .pure _
      · refine (adds_note (Event.staysWithin_log rfl)).bind fun _ => ?_
        refine hsent.bind fun exchange => ?_
        split
        · split <;> exact .pure _
        · exact .pure _

theorem adds_speak (b : Backend) (text : String) :
    Adds (Event.StaysWithin (· = b.endpoint "text-to-speech")) (b.speak text) :=
  ((adds_send _).bind_pure _).bind_pure _

theorem adds_listen (b : Backend) :
    Adds (Event.StaysWithin (· = b.endpoint "listen-for-command")) b.listen :=
  ((adds_send _).bind_pure _).bind_pure _

theorem adds_publish (b : Backend) (call : PublishCall) :
    Adds (Event.StaysWithin (· = b.endpoint call.path)) (b.publish call) := by
  cases call with
  | slots slots => exact ((adds_send _).bind_pure _).bind_pure _
  | sentences text => exact ((adds_send _).bind_pure _).bind_pure _
  | train =>
      refine (adds_send _).bind fun result => ?_
      cases result with
      | error e => exact .pure _
      | ok message =>
          refine (adds_note ⟨rfl, fun url hasks => ?_⟩).bind_pure _
          -- the message ends in what the backend sent, so only its start tells
          have hhead := congrArg (fun r : Record => r.message.toList.head?)
            (Event.eq_requestRecord_of_asks hasks)
          simp [requestRecord] at hhead

end Backend

namespace Grammar

open Act

def PublishesTo (b : Backend) (url : String) : Prop :=
  ∃ call : PublishCall, url = b.endpoint call.path

variable (b : Backend)

theorem adds_recorded {α : Type} (call : PublishCall) (r : PublishReport)
    {next : StepOutcome × PublishReport → Act α}
    (h : ∀ outcome, Adds (Event.StaysWithin (PublishesTo b)) (next outcome)) :
    Adds (Event.StaysWithin (PublishesTo b))
      ((Service.backend b).publish call >>= fun result => r.record result >>= next) := by
  have hcall := (b.adds_publish call).mono fun e he =>
    he.mono fun url hurl => (⟨call, hurl⟩ : PublishesTo b url)
  refine hcall.bind fun result => Adds.bind ?_ h
  cases result with
  | ok _ => exact .pure _
  | error e => exact (adds_note (Event.staysWithin_log rfl)).bind fun _ => .pure _

theorem adds_update (definitions : List Definition) :
    Adds (Event.StaysWithin (PublishesTo b)) (update definitions (.backend b)) := by
  have hlog (message : String) (fields : List (String × FieldValue)) (level : Level) :
      Adds (Event.StaysWithin (PublishesTo b)) (World.log level .publishing message fields) :=
    adds_note (Event.staysWithin_log rfl)
  unfold update
  cases compile definitions with
  | error e => exact .pure _
  | ok g =>
      refine (hlog _ _ _).bind fun _ => Adds.bind_pure ?_ _
      unfold publish publishSlots publishSentences publishTraining
      split
      · exact (hlog _ _ _).bind fun _ => .pure _
      · refine Adds.bind ?_ fun r => Adds.bind ?_ fun r => ?_
        · split
          · exact .pure _
          · exact (hlog _ _ _).bind fun _ => adds_recorded b _ _ fun _ => .pure _
        · split
          · exact .pure _
          · exact (hlog _ _ _).bind fun _ => adds_recorded b _ _ fun _ => .pure _
        · exact (hlog _ _ _).bind fun _ => adds_recorded b _ _ fun _ => .pure _

end Grammar

end VoiceHub
