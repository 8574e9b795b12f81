import VoiceHub.Publishing

/-!
# Marks of delayed work

An expired timer is told in the log, and a follow-up asks the listener once.  Both
leave a mark in the journal.  Whatever else is done to the world outside, speech,
publishing and requests of any kind, leaves none.
-/

namespace VoiceHub

/-- Only records of timers and of the backend can be marks. -/
def Origin.canMark : Origin → Bool
  | .timer => true
  | .backend => true
  | _ => false

def Backend.requestRecord (url : String) : Record :=
  { level := .debug, origin := .backend, message := "Rhasspy request: " ++ url }

def Service.listenMark : Service → Event
  | .device => .listen
  | .backend b => .log (Backend.requestRecord (b.endpoint "listen-for-command"))

namespace Event

def isMark (listener : Service) (e : Event) : Bool :=
  e = listener.listenMark ||
    match e with
    | .log r => r.origin = .timer
    | _ => false

theorem isMark_listenMark (listener : Service) :
    listener.listenMark.isMark listener = true := by
  simp [isMark]

theorem not_isMark_log {r : Record} (htimer : r.origin ≠ .timer)
    (hlisten : ∀ b : Backend,
      r ≠ Backend.requestRecord (b.endpoint "listen-for-command"))
    (listener : Service) : (Event.log r).isMark listener = false := by
  cases listener with
  | device => simp [isMark, Service.listenMark, htimer]
  | backend b => simp [isMark, Service.listenMark, htimer, hlisten b]

theorem not_isMark_speak (device : Nat) (text : String) (listener : Service) :
    (Event.speak device text).isMark listener = false := by
  cases listener <;> simp [isMark, Service.listenMark]

theorem not_isMark_publish (call : PublishCall) (listener : Service) :
    (Event.publish call).isMark listener = false := by
  cases listener <;> simp [isMark, Service.listenMark]

theorem not_isMark_request (request : OutRequest) (listener : Service) :
    (Event.request request).isMark listener = false := by
  cases listener <;> simp [isMark, Service.listenMark]

end Event

namespace World

def logged (w : World) (r : Record) : World :=
  { w with journal := w.journal ++ [.log r] }

def calls (w : World) : List Event := w.journal.filter Event.isCall

@[simp] theorem calls_logged (w : World) (r : Record) : (w.logged r).calls = w.calls := by
  simp [calls, logged, Event.isCall]

@[simp] theorem callCount_logged (w : World) (r : Record) :
    (w.logged r).callCount = w.callCount := by
  simp [callCount, logged, Event.isCall]

@[simp] theorem log_apply (level : Level) (origin : Origin) (message : String)
    (fields : List (String × FieldValue)) (w : World) :
    log level origin message fields w = ((), w.logged { level, origin, message, fields }) :=
  rfl

def marks (listener : Service) (w : World) : List Event :=
  w.journal.filter (Event.isMark listener)

def Quiet (w w' : World) : Prop :=
  ∀ listener, w'.marks listener = w.marks listener

theorem Quiet.refl (w : World) : Quiet w w := fun _ => rfl

theorem Quiet.trans {w w' w'' : World} (h : Quiet w w') (h' : Quiet w' w'') :
    Quiet w w'' :=
  fun listener => (h' listener).trans (h listener)

end World

namespace Act

def IsQuiet {α : Type} (act : Act α) : Prop := ∀ w, World.Quiet w (act w).2

variable {α β : Type}

@[simp] theorem bind_apply (act : Act α) (next : α → Act β) (w : World) :
    (act >>= next) w = next (act w).1 (act w).2 := rfl

theorem IsQuiet.pure (a : α) : IsQuiet (Pure.pure a : Act α) :=
  fun w => World.Quiet.refl w

theorem IsQuiet.bind {act : Act α} {next : α → Act β} (h : IsQuiet act)
    (hnext : ∀ a, IsQuiet (next a)) : IsQuiet (act >>= next) :=
  fun w => (h w).trans (hnext (act w).1 (act w).2)

theorem bind_pure_snd (act : Act α) (f : α → β) (w : World) :
    ((act >>= fun a => Pure.pure (f a)) w).2 = (act w).2 := rfl

theorem IsQuiet.bind_pure {act : Act α} (h : IsQuiet act) (f : α → β) :
    IsQuiet (act >>= fun a => Pure.pure (f a)) :=
  h.bind fun a => .pure (f a)

theorem isQuiet_note {e : Event} (h : ∀ listener, e.isMark listener = false) :
    IsQuiet (World.note e) := by
  intro w listener
  change (w.journal ++ [e]).filter _ = w.journal.filter _
  simp [h listener]

theorem isQuiet_log {level : Level} {origin : Origin} (message : String)
    (fields : List (String × FieldValue)) (h : origin.canMark = false) :
    IsQuiet (World.log level origin message fields) := by
  refine isQuiet_note (Event.not_isMark_log ?_ fun b heq => ?_)
  · rintro rfl
    cases h
  · have horigin : origin = .backend := congrArg Record.origin heq
    rw [horigin] at h
    cases h

theorem isQuiet_worldSpeak (device : Nat) (text : String) :
    IsQuiet (World.speak device text) := by
  refine (isQuiet_note (Event.not_isMark_speak device text)).bind fun _ => ?_
  exact fun w => World.Quiet.refl w

theorem isQuiet_worldPublish (call : PublishCall) :
    IsQuiet (World.publish call) := by
  refine (isQuiet_note (Event.not_isMark_publish call)).bind fun _ => ?_
  exact fun w => World.Quiet.refl w

theorem isQuiet_modify {change : World → World}
    (h : ∀ w, (change w).journal = w.journal) :
    IsQuiet (modify change : Act PUnit) := by
  intro w listener
  change (change w).journal.filter _ = w.journal.filter _
  rw [h]

theorem isQuiet_worldSend (request : OutRequest) : IsQuiet (World.send request) := by
  refine IsQuiet.bind (fun w => World.Quiet.refl w) fun w => ?_
  cases w.network with
  | unreachable => exact .pure none
  | serving replies =>
      refine (isQuiet_note (Event.not_isMark_request request)).bind fun _ => ?_
      refine IsQuiet.bind ?_ fun _ => fun w => World.Quiet.refl w
      exact isQuiet_modify fun _ => rfl

end Act

namespace Backend

theorem endpoint_ne {path path' : String} {last last' : Char} (b b' : Backend)
    (h : path.toList.getLast? = some last) (h' : path'.toList.getLast? = some last')
    (hne : last ≠ last') : b.endpoint path ≠ b'.endpoint path' := by
  intro heq
  have hends := congrArg (fun url : String => url.toList.getLast?) heq
  simp only [endpoint, String.toList_append, List.append_assoc,
    List.getLast?_append, h, h', Option.some_or, Option.some.injEq] at hends
  exact hne hends

theorem endpoint_ne_listen {path : String} (b b' : Backend)
    (h : path.toList.getLast?.any (· ≠ 'd')) :
    b.endpoint path ≠ b'.endpoint "listen-for-command" := by
  obtain ⟨last, hpath, hlast⟩ := (Option.any_eq_true _ _).mp h
  exact endpoint_ne b b' hpath (by decide) (of_decide_eq_true hlast)

/-- A request leaves its announcement and, beyond that, no mark. -/
theorem quiet_send (request : OutRequest) (w : World) :
    World.Quiet
      { w with journal := w.journal ++ [.log (requestRecord request.url)] }
      (send request w).2 := by
  unfold send
  refine (?_ : Act.IsQuiet _) _
  cases (Url.parse? request.url).map Url.withoutCredentials with
  | none => exact .pure _
  | some target =>
      dsimp only
      split
      · exact .pure _
      · refine (Act.isQuiet_log _ _ rfl).bind fun _ => ?_
        refine (Act.isQuiet_worldSend request).bind fun exchange => ?_
        split
        · split <;> exact .pure _
        · exact .pure _

theorem isQuiet_post (b : Backend) {path : String}
    (h : path.toList.getLast?.any (· ≠ 'd')) (body : String)
    (contentType : Option String) :
    Act.IsQuiet (b.post path body contentType) := by
  intro w listener
  have hmark : (Event.log (requestRecord (b.endpoint path))).isMark listener =
      false := by
    refine Event.not_isMark_log (by simp [requestRecord])
      (fun b' heq => ?_) listener
    have hmessage := congrArg Record.message heq
    exact endpoint_ne_listen b b' h ((String.append_right_inj _).mp hmessage)
  have hsend := quiet_send
    { method := "POST", url := b.endpoint path, contentType, body } w listener
  refine hsend.trans ?_
  simp [World.marks, hmark]

theorem isQuiet_speak (b : Backend) (text : String) :
    Act.IsQuiet (b.speak text) :=
  ((b.isQuiet_post (by decide) text none).bind_pure _).bind_pure _

theorem isQuiet_publish (b : Backend) (call : PublishCall) :
    Act.IsQuiet (b.publish call) := by
  cases call with
  | slots slots =>
      exact ((b.isQuiet_post (by decide) slots.upload _).bind_pure _).bind_pure _
  | sentences text =>
      exact ((b.isQuiet_post (by decide) text _).bind_pure _).bind_pure _
  | train =>
      refine Act.IsQuiet.bind ?_ fun result => ?_
      · exact b.isQuiet_post (by decide) _ _
      · cases result with
        | error e => exact .pure _
        | ok message =>
            refine (Act.isQuiet_note ?_).bind_pure _
            -- the message ends in what the backend sent, so only its start tells
            refine Event.not_isMark_log nofun fun b' heq => ?_
            have hmessage := congrArg (fun r => r.message.toList.head?) heq
            simp [requestRecord] at hmessage

theorem marks_listen (b : Backend) (w : World) :
    (b.listen w).2.marks (.backend b) =
      w.marks (.backend b) ++ [Service.listenMark (.backend b)] := by
  let request : OutRequest :=
    { method := "POST", url := b.endpoint "listen-for-command" }
  have hlisten : (b.listen w).2 = (send request w).2 := by
    unfold listen listenForCommand post
    rw [Act.bind_pure_snd, Act.bind_pure_snd]
  rw [hlisten, quiet_send request w]
  change (w.journal ++ [Service.listenMark (.backend b)]).filter _ = _
  rw [List.filter_append]
  simp [World.marks, Event.isMark_listenMark]

end Backend

theorem Output.isQuiet_speak (output : Output) (text : String) :
    Act.IsQuiet (output.speak text) := by
  cases output with
  | device index => exact Act.isQuiet_worldSpeak index text
  | backend b => exact b.isQuiet_speak text

namespace Service

theorem isQuiet_publish (service : Service) (call : PublishCall) :
    Act.IsQuiet (service.publish call) := by
  cases service with
  | device => exact Act.isQuiet_worldPublish call
  | backend b => exact b.isQuiet_publish call

theorem marks_listen (listener : Service) (w : World) :
    (listener.listen w).2.marks listener =
      w.marks listener ++ [listener.listenMark] := by
  cases listener with
  | device =>
      change (w.journal ++ [Service.listenMark .device]).filter _ = _
      simp [World.marks, Event.isMark_listenMark]
  | backend b => exact b.marks_listen w

end Service

namespace Grammar

theorem isQuiet_record (r : PublishReport) (result : Except PublishError Unit) :
    Act.IsQuiet (r.record result) := by
  cases result with
  | ok _ => exact .pure _
  | error e =>
      exact (Act.isQuiet_log _ _ rfl).bind fun _ => .pure _

theorem isQuiet_recorded {α : Type} (service : Service) (call : PublishCall)
    (r : PublishReport) {next : StepOutcome × PublishReport → Act α}
    (h : ∀ outcome, Act.IsQuiet (next outcome)) :
    Act.IsQuiet (service.publish call >>= fun result => r.record result >>= next) :=
  (service.isQuiet_publish call).bind fun result => (isQuiet_record r result).bind h

theorem isQuiet_publishSlots (g : Grammar) (service : Service)
    (r : PublishReport) : Act.IsQuiet (g.publishSlots service r) := by
  unfold publishSlots
  split
  · exact .pure _
  · refine (Act.isQuiet_log _ _ rfl).bind fun _ => ?_
    exact isQuiet_recorded service _ r fun _ => .pure _

theorem isQuiet_publishSentences (g : Grammar) (service : Service)
    (r : PublishReport) : Act.IsQuiet (g.publishSentences service r) := by
  unfold publishSentences
  split
  · exact .pure _
  · refine (Act.isQuiet_log _ _ rfl).bind fun _ => ?_
    exact isQuiet_recorded service _ r fun _ => .pure _

theorem isQuiet_publishTraining (service : Service) (r : PublishReport) :
    Act.IsQuiet (publishTraining service r) := by
  refine (Act.isQuiet_log _ _ rfl).bind fun _ => ?_
  exact isQuiet_recorded service _ r fun _ => .pure _

theorem isQuiet_publish (g : Grammar) (service : Service) :
    Act.IsQuiet (g.publish service) := by
  unfold publish
  split
  · exact (Act.isQuiet_log _ _ rfl).bind fun _ => .pure _
  · refine (isQuiet_publishSlots g service _).bind fun r => ?_
    refine (isQuiet_publishSentences g service r).bind fun r => ?_
    exact isQuiet_publishTraining service r

theorem isQuiet_update (definitions : List Definition) (service : Service) :
    Act.IsQuiet (update definitions service) := by
  unfold update
  cases compile definitions with
  | error e => exact .pure _
  | ok g =>
      refine (Act.isQuiet_log _ _ rfl).bind fun _ => ?_
      exact (isQuiet_publish g service).bind fun _ => .pure _

end Grammar

end VoiceHub
