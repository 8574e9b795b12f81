import VoiceHub.Proofs.Hub.Beside
import VoiceHub.Proofs.Json.Artifacts
import VoiceHub.Proofs.Registry
import VoiceHub.Proofs.Text.Encoding
import VoiceHub.Session

/-!
# An intent that is posted

A body is no payload, a payload without a name or an utterance, or one to dispatch.
Only the last makes the hub do anything but tell the log: it is one dispatch, as if
nobody had posted, and a follow-up if the answer asks for one.
-/

namespace VoiceHub

namespace World

/-! ## Another past

Two worlds noted the same since a moment, and as many calls before it. -/

def Since (past past' : List Event) (w w' : World) : Prop :=
  ∃ events, w.journal = past ++ events ∧ w' = { w with journal := past' ++ events }

section Since

variable {past past' : List Event}

theorem linked_since : Linked (Since past past') where
  note event := by
    rintro w w' ⟨events, hjournal, rfl⟩
    refine ⟨rfl, events ++ [event], ?_, ?_⟩
    · change w.journal ++ [event] = _
      rw [hjournal, List.append_assoc]
    · rw [← List.append_assoc]
      rfl
  network_eq := by
    rintro w w' ⟨events, -, rfl⟩
    rfl
  withNetwork := by
    rintro w w' network ⟨events, hjournal, rfl⟩
    exact ⟨events, hjournal, rfl⟩

variable (hcount : past'.countP Event.isCall = past.countP Event.isCall)

include hcount

/-- Whatever depends on the past by the number of its calls is the same. -/
theorem Since.view_eq {α : Type} {w w' : World} (h : Since past past' w w')
    (view : World → α)
    (hview : ∀ (w : World) journal,
      journal.countP Event.isCall = w.journal.countP Event.isCall →
        view { w with journal := journal } = view w) : view w' = view w := by
  obtain ⟨events, hjournal, rfl⟩ := h
  apply hview
  rw [hjournal, List.countP_append, List.countP_append, hcount]

theorem companions_since : Companions (Since past past') := by
  -- what fails or is replied depends on the past by the number of its calls alone
  have hlog record : Keeps (Since past past') (note (.log record)) :=
    linked_since.note (.log record)
  have hsend request : Keeps (Since past past') (send request) := by
    refine linked_since.keeps_send fun w w' replies h => ?_
    apply h.view_eq hcount (·.exchange request replies)
    intro w journal hcalls
    simp only [exchange, callCount, hcalls]
  have hspeak device text : Keeps (Since past past') (World.speak device text) := by
    refine (linked_since.note (.speak device text)).bind fun _ => Keeps.read fun w w' h => ?_
    apply h.view_eq hcount fun w => ofFault (w.speakerFailure device)
    intro w journal hcalls
    simp only [speakerFailure, callCount, hcalls]
  have hlisten : Keeps (Since past past') World.listen := by
    refine (linked_since.note .listen).bind fun _ => Keeps.read fun w w' h => ?_
    apply h.view_eq hcount fun w => ofFault w.listenFailure
    intro w journal hcalls
    simp only [listenFailure, callCount, hcalls]
  have hpublish call : Keeps (Since past past') (World.publish call) := by
    refine (linked_since.note (.publish call)).bind fun _ => Keeps.read ?_
    rintro w w' ⟨events, -, rfl⟩
    rfl
  refine ⟨hlog, fun output text failure => ?_, fun service failure => ?_,
    fun service call => ?_⟩
  · cases output with
    | device index => exact (hspeak index text).orTell hlog failure
    | backend b =>
        have hpost := Backend.keeps_send hlog (hsend
          { method := "POST", url := b.endpoint "text-to-speech", body := text })
        exact ((hpost.bind_pure _).bind_pure _).orTell hlog failure
  · cases service with
    | device => exact hlisten.orTell hlog failure
    | backend b =>
        have hpost := Backend.keeps_send hlog (hsend
          { method := "POST", url := b.endpoint "listen-for-command" })
        exact ((hpost.bind_pure _).bind_pure _).orTell hlog failure
  · cases service with
    | device => exact hpublish call
    | backend b => exact b.keeps_publish hlog (fun request _ => hsend request) call

end Since

end World

namespace Hub

theorem dispatch_logged (i : Intent) (hub : Hub) (r : Record) :
    ∃ events,
      (dispatch i hub).2.world.journal = hub.world.journal ++ events ∧
      dispatch i (hub.logged r) =
        ((dispatch i hub).1,
          { (dispatch i hub).2 with
            world.journal := hub.world.journal ++ [.log r] ++ events }) := by
  have hcount : (hub.world.journal ++ [Event.log r]).countP Event.isCall =
      hub.world.journal.countP Event.isCall := by
    simp [Event.isCall]
  have hbeside : Beside (World.Since hub.world.journal (hub.world.journal ++ [.log r]))
      hub (hub.logged r) :=
    ⟨_, ⟨[], (List.append_nil _).symm, rfl⟩, by simp [logged]⟩
  obtain ⟨hreply, w, ⟨events, hjournal, rfl⟩, hafter⟩ :=
    keeps_dispatch (World.companions_since hcount) i hbeside
  refine ⟨events, hjournal, ?_⟩
  exact Prod.ext hreply hafter

/-! ## A body that is posted -/

def receivedRecord (body : String) : Record :=
  { level := .info, origin := .routes, message := "Received intent: " ++ body }

def responseRecord (response : String) : Record :=
  { level := .info, origin := .routes, message := "Response: " ++ response }

def replyAnswer (intentName response : String) : Http.Answer :=
  let reply : Reply :=
    { intent := intentName, seconds := Reply.roundedSeconds 0 0, response }
  Http.json 200 reply.toJson

theorem respond_of_recognized {p : Payload} (h : p.isRecognized = true) (hub : Hub) :
    respond p hub =
      ((dispatch p.toIntent hub).1.text,
        (dispatch p.toIntent hub).2.planned
          (if (dispatch p.toIntent hub).1.continues then [hub.followUpTask] else [])) := by
  have hplan := quiet_dispatch p.toIntent hub
  have hnow : (dispatch p.toIntent hub).2.now = hub.now :=
    hplan.view_eq now fun _ _ _ _ => rfl
  have hdelay : (dispatch p.toIntent hub).2.followUpDelay = hub.followUpDelay :=
    hplan.view_eq followUpDelay fun _ _ _ _ => rfl
  have hfollowUp : (dispatch p.toIntent hub).2.followUpTask = hub.followUpTask := by
    unfold followUpTask
    rw [hnow, hdelay]
  rw [← hfollowUp]
  unfold respond
  rw [if_pos h, bind_apply]
  cases (dispatch p.toIntent hub).1.continues with
  | true => rfl
  | false =>
      have hnone := (dispatch p.toIntent hub).2.planned_nil.symm
      exact congrArg (Prod.mk _) hnone

theorem respond_of_not_recognized {p : Payload} (h : p.isRecognized = false) (hub : Hub) :
    respond p hub = ("", hub) := by
  simp [respond, h]

theorem receive_of_ofText {body : String} {p : Payload} (h : Payload.ofText body = .ok p)
    (hub : Hub) :
    receive body hub =
      let responded := respond p (hub.logged (receivedRecord body))
      (replyAnswer p.name responded.1, responded.2.logged (responseRecord responded.1)) := by
  simp [receive, h, receivedRecord, responseRecord, replyAnswer]

theorem receive_of_error {body : String} {e : Json.ReadError}
    (h : Payload.ofText body = .error e) (hub : Hub) :
    receive body hub =
      (Http.json 400 (Http.failure ("Invalid intent payload: " ++ e.message)),
        hub.logged (receivedRecord body)) := by
  simp [receive, h, receivedRecord, ApiError.answer, ApiError.status, ApiError.message]

/-- What posting a body amounts to. -/
structure Received (body : String) (hub : Hub) (served : Http.Answer × Hub) : Prop where
  malformed : ∀ e, Payload.ofText body = .error e →
    served.1.Refuses 400 ("Invalid intent payload: " ++ e.message) ∧
      served.2 = hub.logged (receivedRecord body)
  /-- Without a name or an utterance there is nothing to dispatch. -/
  unrecognized : ∀ p, Payload.ofText body = .ok p →
    p.intentName = none ∨ p.intentName = some "" ∨ p.text = "" →
    served.1.Replies (p.intentName.getD "") "" ∧
      served.2 = (hub.logged (receivedRecord body)).logged (responseRecord "")
  /-- What is done is done by one dispatch, between two records, and a follow-up. -/
  recognized : ∀ p name, Payload.ofText body = .ok p →
    p.intentName = some name → name ≠ "" → p.text ≠ "" →
    ∃ response after events,
      dispatch p.toIntent hub = (response, after) ∧
      after.world.journal = hub.world.journal ++ events ∧
      served.1.Replies name response.text ∧
      served.2 =
        { after with
          world.journal := hub.world.journal ++
            [.log (receivedRecord body)] ++ events ++ [.log (responseRecord response.text)]
          tasks := after.tasks ++
            if response.continues then [hub.followUpTask] else [] }

theorem received (body : String) (hub : Hub) : Received body hub (receive body hub) where
  malformed e herror := by
    rw [receive_of_error herror]
    exact ⟨Http.Answer.refuses_json _ _, rfl⟩
  unrecognized p hp hempty := by
    have hnot : p.isRecognized = false := by
      unfold Payload.isRecognized Payload.name
      rcases hempty with hname | hname | htext
      · simp [hname]
      · simp [hname]
      · simp [htext]
    rw [receive_of_ofText hp, respond_of_not_recognized hnot]
    exact ⟨Http.Answer.replies_json _, rfl⟩
  recognized p name hp hname hne htext := by
    have hrecognized : p.isRecognized = true := by
      simp [Payload.isRecognized, Payload.name, hname, hne, htext]
    obtain ⟨events, hjournal, hdispatch⟩ :=
      dispatch_logged p.toIntent hub (receivedRecord body)
    have hpname : p.name = name := by
      rw [Payload.name, hname, Option.getD_some]
    refine ⟨(dispatch p.toIntent hub).1, (dispatch p.toIntent hub).2, events, rfl,
      hjournal, ?_⟩
    rw [receive_of_ofText hp, respond_of_recognized hrecognized, hdispatch, hpname]
    exact ⟨Http.Answer.replies_json _, rfl⟩

end Hub

structure Http.Request.PostsIntent (request : Http.Request) (body : String) : Prop where
  method_eq : request.method = "POST"
  path_eq : request.path = "/api/intent"
  body_eq : request.body = Utf8.encode body
  length_le : (Utf8.encode body).length ≤ Hub.bodyLimit

namespace Hub

theorem serve_of_postsIntent {request : Http.Request} {body : String}
    (h : request.PostsIntent body) (hub : Hub) : serve request hub = receive body hub := by
  have hroute : Route.ofPath? request.path = some .intent := by
    rw [h.path_eq]
    decide
  rw [serve_of_posts hroute h.method_eq, h.body_eq, receiveBytes,
    if_neg (Nat.not_lt.mpr h.length_le), Utf8.decode_encode]

end Hub

end VoiceHub
