import VoiceHub.Hub
import VoiceHub.Proofs.World.Marks

/-!
# What the hub says aloud

A part of the hub is run by what it answers and the hub that it leaves behind.
Speaking is one call of the output and touches the world alone; a call that fails
is told in the log and changes nothing else.
-/

namespace VoiceHub

namespace Hub

/-! ## Running a part of the hub -/

section Running

variable {α β : Type}

@[simp] theorem bind_apply (part : HubM α) (next : α → HubM β) (hub : Hub) :
    (part >>= next) hub = next (part hub).1 (part hub).2 := rfl

@[simp] theorem pure_apply (a : α) (hub : Hub) : (pure a : HubM α) hub = (a, hub) := rfl

@[simp] theorem map_apply (f : α → β) (part : HubM α) (hub : Hub) :
    (f <$> part) hub = (f (part hub).1, (part hub).2) := rfl

@[simp] theorem get_apply (hub : Hub) : (get : HubM Hub) hub = (hub, hub) := rfl

@[simp] theorem set_apply (hub' hub : Hub) :
    (set hub' : HubM PUnit) hub = ((), hub') := rfl

@[simp] theorem modify_apply (change : Hub → Hub) (hub : Hub) :
    (modify change : HubM PUnit) hub = ((), change hub) := rfl

end Running

def logged (hub : Hub) (r : Record) : Hub :=
  { hub with world.journal := hub.world.journal ++ [.log r] }

@[simp] theorem log_apply (level : Level) (origin : Origin) (message : String)
    (fields : List (String × FieldValue)) (hub : Hub) :
    log level origin message fields hub =
      ((), hub.logged { level, origin, message, fields }) := rfl

/-! ## What may differ without a plan

Of a hub that speaks, listens or is asked, the center, the selection and the world
outside can change at any time.  The rest is its plan: what is registered, queued
and left to do later. -/

/-- The hubs have one plan, and the marks are what the world has on top. -/
def Marked (hub : Hub) (marks : List Event) (hub' : Hub) : Prop :=
  ∃ c s w, w.marks hub.listener = hub.world.marks hub.listener ++ marks ∧
    hub' = { hub with center := c, selector := s, world := w }

def Quiet (hub hub' : Hub) : Prop := hub.Marked [] hub'

section Plan

variable {hub hub' hub'' : Hub} {marks marks' : List Event}

theorem Marked.trans (h : hub.Marked marks hub') (h' : hub'.Marked marks' hub'') :
    hub.Marked (marks ++ marks') hub'' := by
  obtain ⟨c, s, w, hmarks, rfl⟩ := h
  obtain ⟨c', s', w', hmarks', rfl⟩ := h'
  refine ⟨c', s', w', ?_, rfl⟩
  rw [hmarks', hmarks, List.append_assoc]

theorem Marked.trans_quiet (h : hub.Marked marks hub') (h' : hub'.Quiet hub'') :
    hub.Marked marks hub'' :=
  marks.append_nil ▸ Marked.trans h h'

/-- Whatever is seen of the plan alone is the same. -/
theorem Marked.view_eq {α : Type} (h : hub.Marked marks hub') (view : Hub → α)
    (hview : ∀ (hub : Hub) c s w,
      view { hub with center := c, selector := s, world := w } = view hub) :
    view hub' = view hub := by
  obtain ⟨c, s, w, -, rfl⟩ := h
  exact hview hub c s w

theorem Marked.listener_eq (h : hub.Marked marks hub') :
    hub'.listener = hub.listener :=
  h.view_eq listener fun _ _ _ _ => rfl

theorem Quiet.trans (h : hub.Quiet hub') (h' : hub'.Quiet hub'') :
    hub.Quiet hub'' :=
  Marked.trans h h'

theorem quiet_of_world {w : World} (h : hub.world.Quiet w) :
    hub.Quiet { hub with world := w } :=
  ⟨_, _, w, by rw [h, List.append_nil], rfl⟩

theorem Quiet.refl (hub : Hub) : hub.Quiet hub :=
  quiet_of_world (World.Quiet.refl hub.world)

end Plan

theorem quiet_logged (hub : Hub) (r : Record) (h : r.origin.canMark = false) :
    hub.Quiet (hub.logged r) :=
  quiet_of_world (Act.isQuiet_log r.message r.fields h hub.world)

/-! ## One call of the speaker -/

theorem speak_apply (voice : Voice) (text : String) (hub : Hub) :
    speak voice text hub =
      (((hub.output voice).speak text hub.world).1,
        { hub with world := ((hub.output voice).speak text hub.world).2 }) := rfl

/-- The hub after one call of the speaker, with a record if the call fails. -/
def uttered (hub : Hub) (voice : Voice) (text : String)
    (failure : SpeakerError → Record) : Hub :=
  match speak voice text hub with
  | (.ok (), hub) => hub
  | (.error e, hub) => hub.logged (failure e)

theorem quiet_uttered (hub : Hub) (voice : Voice) (text : String)
    {failure : SpeakerError → Record} (h : ∀ e, (failure e).origin.canMark = false) :
    hub.Quiet (hub.uttered voice text failure) := by
  have hspeak := quiet_of_world ((hub.output voice).isQuiet_speak text hub.world)
  unfold uttered
  rw [speak_apply]
  cases ((hub.output voice).speak text hub.world).1 with
  | ok _ => exact hspeak
  | error e => exact hspeak.trans (quiet_logged _ _ (h e))

@[simp] theorem center_uttered (hub : Hub) (voice : Voice) (text : String)
    (failure : SpeakerError → Record) :
    (hub.uttered voice text failure).center = hub.center := by
  unfold uttered
  rw [speak_apply]
  cases ((hub.output voice).speak text hub.world).1 <;> rfl

def spoken (hub : Hub) : List (Nat × String) :=
  hub.world.journal.filterMap fun event =>
    match event with
    | .speak device text => some (device, text)
    | _ => none

@[simp] theorem spoken_logged (hub : Hub) (r : Record) :
    (hub.logged r).spoken = hub.spoken := by
  simp [spoken, logged]

/-- On a device a text is said exactly once, whether or not the device fails. -/
theorem spoken_uttered {hub : Hub} {voice : Voice} {device : Nat}
    (h : hub.output voice = .device device) (text : String)
    (failure : SpeakerError → Record) :
    (hub.uttered voice text failure).spoken =
      hub.spoken ++ [(device, text)] := by
  have hspeak : (speak voice text hub).2.spoken =
      hub.spoken ++ [(device, text)] := by
    rw [speak_apply, h]
    change (hub.world.journal ++ [Event.speak device text]).filterMap _ = _
    simp [spoken]
  unfold uttered
  split
  · next hub' heq =>
      rw [← hspeak, heq]
  · next e hub' heq =>
      rw [spoken_logged, ← hspeak, heq]

/-! ## Triggers and answers -/

def holdingRecord : Record :=
  { level := .info, origin := .notifications, message := "Holding notification" }

def triggerFailure (e : SpeakerError) : Record :=
  { level := .error, origin := .notifications
    message := "Failed to speak trigger: " ++ e.message }

theorem deliver_of_hold {hub : Hub} {t : Trigger} {center : NotificationCenter}
    (h : hub.center.hold? t = some center) :
    deliver t hub = ((), { hub.logged holdingRecord with center }) := by
  simp [deliver, h, holdingRecord]

theorem deliver_of_not_hold {hub : Hub} {t : Trigger}
    (h : hub.center.hold? t = none) :
    deliver t hub =
      ((), hub.uttered hub.triggerVoice t.message triggerFailure) := by
  cases hspeak : ((hub.output hub.triggerVoice).speak t.message hub.world).1 <;>
    simp [deliver, uttered, h, speak_apply, hspeak, triggerFailure]

theorem quiet_deliver (t : Trigger) (hub : Hub) : hub.Quiet (deliver t hub).2 := by
  cases hhold : hub.center.hold? t with
  | some center =>
      rw [deliver_of_hold hhold]
      refine (quiet_logged hub holdingRecord rfl).trans ?_
      exact ⟨center, _, _, (List.append_nil _).symm, rfl⟩
  | none =>
      rw [deliver_of_not_hold hhold]
      exact quiet_uttered hub hub.triggerVoice t.message fun _ => rfl

def answerFailure (i : Intent) (e : SpeakerError) : Record :=
  { level := .error, origin := .registry
    message := "Failed to speak response: " ++ e.message
    fields := [("intent", .quoted i.name)] }

def answered (hub : Hub) (i : Intent) (response : Response) : Hub :=
  match hub.answerVoice with
  | none => hub
  | some voice =>
      if response.text = "" then hub
      else hub.uttered voice response.text (answerFailure i)

@[simp] theorem speakAnswer_apply (i : Intent) (response : Response) (hub : Hub) :
    speakAnswer i response hub = ((), hub.answered i response) := by
  cases hvoice : hub.answerVoice with
  | none => simp [speakAnswer, answered, hvoice]
  | some voice =>
      by_cases htext : response.text = ""
      · simp [speakAnswer, answered, hvoice, htext]
      · cases hspeak : ((hub.output voice).speak response.text hub.world).1 <;>
          simp [speakAnswer, answered, uttered, speak_apply, hvoice, htext, hspeak,
            answerFailure]

theorem quiet_answered (hub : Hub) (i : Intent) (response : Response) :
    hub.Quiet (hub.answered i response) := by
  unfold answered
  cases hub.answerVoice with
  | none => exact .refl hub
  | some voice =>
      dsimp only
      split
      · exact .refl hub
      · exact quiet_uttered hub voice response.text fun _ => rfl

end Hub

end VoiceHub
