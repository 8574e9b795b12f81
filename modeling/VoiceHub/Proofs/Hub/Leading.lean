import VoiceHub.Proofs.Hub.Receiving
import VoiceHub.Proofs.Setup.Builtins
import VoiceHub.Proofs.Setup.Directions

/-!
# From selection to selection

The journal of a hub tells which output is selected at every event, and so where a
request at that event has to go.  Each part of the hub keeps to that: only the
handler that selects moves the selection, and it asks for nothing.
-/

namespace VoiceHub

/-! ## Reading the journal -/

def selectedAfter (selected : String) (events : List Event) : String :=
  (events.filterMap Event.selected?).getLast?.getD selected

theorem selectedAfter_cons (selected : String) (e : Event) (events : List Event) :
    selectedAfter selected (e :: events) =
      selectedAfter (e.selected?.getD selected) events := by
  unfold selectedAfter
  cases hselected : e.selected? with
  | none => rw [List.filterMap_cons_none hselected, Option.getD_none]
  | some name =>
      rw [List.filterMap_cons_some hselected, List.getLast?_cons, Option.getD_some,
        Option.getD_some]

namespace Config

variable (c : Config)

/-- Each request goes where it should while the output is selected that the events
before it leave selected. -/
def Directed : String → List Event → Prop
  | _, [] => True
  | selected, e :: events =>
      (∀ url, e.Asks url → Calls c selected url) ∧
        Directed (e.selected?.getD selected) events

variable {c}

theorem directed_append {selected : String} {events later : List Event} :
    c.Directed selected (events ++ later) ↔
      c.Directed selected events ∧ c.Directed (selectedAfter selected events) later := by
  induction events generalizing selected with
  | nil => exact (and_iff_right trivial).symm
  | cons e events ih =>
      rw [List.cons_append, Directed, Directed, ih, selectedAfter_cons, and_assoc]

theorem directed_of_staysWithin {selected : String} {events : List Event}
    (h : ∀ e ∈ events, e.StaysWithin (Calls c selected)) :
    events.filterMap Event.selected? = [] ∧ c.Directed selected events := by
  induction events with
  | nil => exact ⟨rfl, trivial⟩
  | cons e events ih =>
      obtain ⟨he, hevents⟩ := List.forall_mem_cons.mp h
      obtain ⟨hnone, hdirected⟩ := ih hevents
      refine ⟨by rw [List.filterMap_cons_none he.selected, hnone], he.asked, ?_⟩
      rw [he.selected]
      exact hdirected

end Config

namespace Hub

/-! ## What a part of the hub leaves as it is -/

structure Wiring where
  registry : Registry
  outputs : Dict Output
  answerVoice : Option Voice
  triggerVoice : Voice
  publisher : Service
  listener : Service

def wiring (hub : Hub) : Wiring :=
  { registry := hub.registry, outputs := hub.selector.outputs
    answerVoice := hub.answerVoice, triggerVoice := hub.triggerVoice
    publisher := hub.publisher, listener := hub.listener }

end Hub

def Config.wiring (c : Config) : Hub.Wiring :=
  { registry := .ofHandlers (Hub.builtinHandlers c.selector), outputs := c.selector.outputs
    answerVoice := some .selected, triggerVoice := .selected
    publisher := .backend c.backend, listener := .backend c.backend }

namespace Hub

/-- From the one hub to the other these outputs were selected, in this order, and every
request went where it should. -/
structure Led (c : Config) (chosen : List String) (hub hub' : Hub) : Prop where
  wiring : hub'.wiring = hub.wiring
  current : hub'.selector.currentName = chosen.getLast?.getD hub.selector.currentName
  journal : ∃ events, hub'.world.journal = hub.world.journal ++ events ∧
    events.filterMap Event.selected? = chosen ∧
    c.Directed hub.selector.currentName events

section Led

variable {c : Config} {chosen chosen' : List String} {hub hub' hub'' : Hub}

/-- Whatever of the plan has changed, nothing was called. -/
theorem led_of_eq (hwiring : hub'.wiring = hub.wiring)
    (hcurrent : hub'.selector.currentName = hub.selector.currentName)
    (hjournal : hub'.world.journal = hub.world.journal) : Led c [] hub hub' where
  wiring := hwiring
  current := hcurrent
  journal := ⟨[], by rw [hjournal, List.append_nil], rfl, trivial⟩

theorem Led.refl (hub : Hub) : Led c [] hub hub := led_of_eq rfl rfl rfl

theorem Led.trans (h : Led c chosen hub hub') (h' : Led c chosen' hub' hub'') :
    Led c (chosen ++ chosen') hub hub'' where
  wiring := h'.wiring.trans h.wiring
  current := by
    rw [h'.current, h.current, List.getLast?_append, Option.getD_or]
  journal := by
    obtain ⟨events, hjournal, hchosen, hdirected⟩ := h.journal
    obtain ⟨later, hafter, hchosen', hlater⟩ := h'.journal
    refine ⟨events ++ later, ?_, ?_, Config.directed_append.mpr ⟨hdirected, ?_⟩⟩
    · rw [hafter, hjournal, List.append_assoc]
    · rw [List.filterMap_append, hchosen, hchosen']
    · rw [selectedAfter, hchosen, ← h.current]
      exact hlater

theorem Led.trans_nil (h : Led c chosen hub hub') (h' : Led c [] hub' hub'') :
    Led c chosen hub hub'' :=
  chosen.append_nil ▸ h.trans h'

theorem led_outside {α : Type} {act : Act α} {hub : Hub}
    (h : act.Adds (Event.StaysWithin (Config.Calls c hub.selector.currentName))) :
    Led c [] hub (outside act hub).2 where
  wiring := rfl
  current := rfl
  journal := by
    obtain ⟨events, hjournal, hevents⟩ := h hub.world
    exact ⟨events, hjournal, Config.directed_of_staysWithin hevents⟩

theorem led_logged (hub : Hub) {r : Record} (h : r.origin.isAside = true) :
    Led c [] hub (hub.logged r) :=
  led_outside (Act.adds_note (Event.staysWithin_log h))

theorem led_selected {selected : Selector} (h : selected.outputs = hub.selector.outputs) :
    Led c [selected.currentName] hub
      ({ hub with selector := selected }.logged (selectionRecord selected)) where
  wiring := congrArg (fun outputs => { hub.wiring with outputs }) h
  current := rfl
  journal := by
    refine ⟨[.log (selectionRecord selected)], rfl, rfl, fun url hasks => ?_, trivial⟩
    cases congrArg Record.origin (Event.eq_requestRecord_of_asks hasks)

end Led

/-! ## Who selects -/

def selections (s : Selector) (i : Intent) : Behaviour → List String
  | .speakerSelect => (s.chosen? i).toList
  | _ => []

end Hub

/-- The output that an intent selects in the hub of a configuration. -/
def Config.chosen? (c : Config) (i : Intent) : Option String :=
  if i.name = Selector.selectIntent then c.selector.chosen? i else none

theorem Config.selections_of_owner (c : Config) {i : Intent} {b : Builtin}
    (h : Builtin.owner? i.name = some b) :
    Hub.selections c.selector i b.behaviour = (c.chosen? i).toList := by
  have hmem := Builtin.owner?_eq_some_iff.mp h
  unfold chosen?
  cases b with
  | speakerSelect =>
      have hname : i.name = Selector.selectIntent := List.mem_singleton.mp hmem
      rw [if_pos hname]
      rfl
  | timeOfDay | timer | notifications | unknown =>
      rw [if_neg]
      · rfl
      · intro hname
        rw [hname] at hmem
        exact absurd hmem (by decide)

theorem Config.chosen?_of_unowned (c : Config) {i : Intent}
    (h : Builtin.owner? i.name = none) : c.chosen? i = none := by
  refine if_neg fun hname => ?_
  rw [hname] at h
  exact absurd h (by decide)

namespace Hub

/-! ## Parts of the hub -/

section Parts

variable {c : Config} {hub : Hub} (h : hub.wiring = c.wiring)

include h

theorem output_selected :
    hub.output .selected = .backend (c.backendOf hub.selector.currentName) :=
  c.currentOutput_of_outputs (congrArg Wiring.outputs h)

theorem led_speak (text : String) : Led c [] hub (speak .selected text hub).2 := by
  have hcall : speak .selected text hub = outside ((hub.output .selected).speak text) hub :=
    rfl
  rw [hcall, output_selected h]
  refine led_outside ((Backend.adds_speak _ text).mono fun e he => he.mono ?_)
  rintro url rfl
  exact .speech

theorem led_uttered (text : String) {failure : SpeakerError → Record}
    (hfailure : ∀ e, (failure e).origin.isAside = true) :
    Led c [] hub (hub.uttered .selected text failure) := by
  have hspeak := led_speak h text
  unfold uttered
  generalize speak .selected text hub = spoken at hspeak ⊢
  obtain ⟨result, after⟩ := spoken
  cases result with
  | ok _ => exact hspeak
  | error e => exact hspeak.trans_nil (led_logged after (hfailure e))

theorem led_deliver (t : Trigger) : Led c [] hub (deliver t hub).2 := by
  cases hhold : hub.center.hold? t with
  | some center =>
      rw [deliver_of_hold hhold]
      exact (led_logged hub rfl).trans_nil (led_of_eq rfl rfl rfl)
  | none =>
      have hvoice : hub.triggerVoice = .selected := congrArg Wiring.triggerVoice h
      rw [deliver_of_not_hold hhold, hvoice]
      exact led_uttered h _ fun _ => rfl

theorem led_answered (i : Intent) (response : Response) :
    Led c [] hub (hub.answered i response) := by
  have hvoice : hub.answerVoice = some .selected := congrArg Wiring.answerVoice h
  unfold answered
  rw [hvoice]
  dsimp only
  split
  · exact .refl hub
  · exact led_uttered h _ fun _ => rfl

theorem led_update : Led c [] hub (update hub).2 := by
  have hpublisher : hub.publisher = .backend c.backend := congrArg Wiring.publisher h
  have hcall : update hub =
      outside (Grammar.update hub.registry.definitions hub.publisher) hub := rfl
  rw [hcall, hpublisher]
  refine led_outside ?_
  refine (Grammar.adds_update _ _).mono fun e he => he.mono ?_
  rintro url ⟨call, rfl⟩
  exact .publishing call

omit h in
theorem led_emit (t : Trigger) : Led c [] hub (emit t hub).2 := by
  rw [emit_apply]
  split
  · exact led_of_eq rfl rfl rfl
  · exact led_logged hub rfl

omit h in
theorem led_take : Led c [] hub (take hub).2 := by
  by_cases hheld : hub.channel.receiver = .held
  · rw [take_of_held hheld]
    exact led_of_eq rfl rfl rfl
  · rw [take_of_not_held hheld]
    exact .refl hub

theorem led_perform (job : Job) : Led c [] hub (perform job hub).2 := by
  cases job with
  | timer seconds =>
      have htold := @led_logged c hub
        { level := .info, origin := .timer, message := Timer.expiry
          fields := [("seconds", .number seconds)] } rfl
      exact htold.trans_nil (led_emit (.reminder Timer.expiry))
  | followUp =>
      have hlistener : hub.listener = .backend c.backend := congrArg Wiring.listener h
      rw [perform_followUp, hlistener]
      have htold : Led c [] hub (hub.logged followUpRecord) := led_logged hub rfl
      refine htold.trans_nil (led_outside (Act.Adds.orTell ?_ fun e => ?_))
      · refine c.backend.adds_listen.mono fun e he => he.mono ?_
        rintro url rfl
        exact .listening
      · exact Event.staysWithin_log rfl

theorem led_performAll (tasks : List Task) :
    Led c [] hub (tasks.forM (fun task => perform task.job) hub).2 := by
  induction tasks generalizing hub with
  | nil => exact .refl hub
  | cons task tasks ih =>
      have hfirst := led_perform h task.job
      exact hfirst.trans_nil (ih (hfirst.wiring.trans h))

theorem led_foldl_delivered (ts : List Trigger) :
    Led c [] hub (ts.foldl delivered hub) := by
  induction ts generalizing hub with
  | nil => exact .refl hub
  | cons t ts ih =>
      have hfirst := led_deliver h t
      exact hfirst.trans_nil (ih (hfirst.wiring.trans h))

theorem led_runDue : Led c [] hub (runDue hub).2 := by
  have hplan : Led c [] hub { hub with tasks := hub.pending } := led_of_eq rfl rfl rfl
  exact hplan.trans_nil (led_performAll (hplan.wiring.trans h) hub.fired)

theorem led_deliverQueued : Led c [] hub (deliverQueued hub).2 := by
  rw [deliverQueued_apply]
  dsimp only
  split
  · have hplan : Led c [] hub { hub with channel.queue := [] } := led_of_eq rfl rfl rfl
    exact hplan.trans_nil (led_foldl_delivered (hplan.wiring.trans h) hub.channel.queue)
  · exact .refl hub

omit h in
theorem led_closeChannel : Led c [] hub (closeChannel hub).2 := by
  rw [closeChannel_apply]
  dsimp only
  split
  · exact (led_logged hub rfl).trans_nil (led_of_eq rfl rfl rfl)
  · exact .refl hub

theorem led_settle : Led c [] hub (settle hub).2 := by
  have hdue := led_runDue h
  have hrun := led_deliverQueued (hdue.wiring.trans h)
  exact (hdue.trans_nil hrun).trans_nil led_closeChannel

/-! ## Intents -/

theorem led_handled (b : Behaviour) (i : Intent) :
    Led c (selections c.selector i b) hub (hub.handled b i) := by
  have hplan (tasks : List Task) : Led c [] hub (hub.planned tasks) := led_of_eq rfl rfl rfl
  unfold handled
  cases b with
  | timeOfDay | timer | unknown | custom respond => exact hplan _
  | notifications =>
      dsimp only
      split
      · exact led_of_eq rfl rfl rfl
      · exact .refl hub
  | speakerSelect =>
      have houtputs : hub.selector.outputs = c.selector.outputs := congrArg Wiring.outputs h
      dsimp only [selections]
      rw [← Selector.chosen?_congr houtputs]
      cases hchosen : hub.selector.chosen? i with
      | none =>
          obtain ⟨failure, hanswer⟩ := Selector.answer_of_not_chosen hchosen
          rw [hanswer]
          exact .refl hub
      | some name =>
          obtain ⟨selected, hanswer, hsame, hname⟩ := Selector.answer_of_chosen hchosen
          rw [hanswer]
          exact hname ▸ led_selected hsame

theorem route?_of_wiring (intentName : String) :
    hub.registry.route? intentName =
      (Builtin.owner? intentName).map (Builtin.handler c.selector) := by
  have hregistry : hub.registry = .ofHandlers (builtinHandlers c.selector) :=
    congrArg Wiring.registry h
  rw [hregistry, route?_ofHandlers_builtinHandlers c.isRebuilt_selector]

theorem led_replied (i : Intent) : Led c (c.chosen? i).toList hub (hub.replied i).2 := by
  unfold replied
  rw [route?_of_wiring h]
  cases howner : Builtin.owner? i.name with
  | none =>
      rw [c.chosen?_of_unowned howner]
      exact led_logged hub rfl
  | some b =>
      have htold : Led c [] hub (hub.logged (dispatchRecord (b.handler c.selector) i)) :=
        led_logged hub rfl
      have hhandled := led_handled (htold.wiring.trans h) b.behaviour i
      dsimp only [Option.map_some]
      rw [invoke_apply, handle_apply, Builtin.behaviour_handler, ← c.selections_of_owner howner]
      refine (htold.trans hhandled).trans_nil ?_
      dsimp only
      cases hub.logged _ |>.outcome b.behaviour i with
      | ok response => exact .refl _
      | error failure => exact led_logged _ rfl

theorem led_dispatch (i : Intent) : Led c (c.chosen? i).toList hub (dispatch i hub).2 := by
  have hreplied := led_replied h i
  rw [dispatch_apply]
  exact hreplied.trans_nil (led_answered (hreplied.wiring.trans h) i _)

end Parts

/-! ## Requests -/

section Requests

variable {c : Config} {hub : Hub} (h : hub.wiring = c.wiring)

include h

theorem led_respond (p : Payload) :
    Led c (p.asked?.bind c.chosen?).toList hub (respond p hub).2 := by
  unfold Payload.asked?
  cases hrecognized : p.isRecognized with
  | true =>
      rw [respond_of_recognized hrecognized, if_pos rfl]
      exact (led_dispatch h p.toIntent).trans_nil (led_of_eq rfl rfl rfl)
  | false =>
      rw [respond_of_not_recognized hrecognized, if_neg (by decide)]
      exact .refl hub

theorem led_receive (body : String) :
    Led c ((Payload.askedIn? body).bind c.chosen?).toList hub (receive body hub).2 := by
  have htold : Led c [] hub (hub.logged (receivedRecord body)) := led_logged hub rfl
  unfold Payload.askedIn?
  cases hpayload : Payload.ofText body with
  | error e =>
      rw [receive_of_error hpayload]
      exact htold
  | ok p =>
      rw [receive_of_ofText hpayload]
      exact (htold.trans (led_respond (htold.wiring.trans h) p)).trans_nil (led_logged _ rfl)

theorem led_receiveBytes (body : List UInt8) :
    Led c ((Payload.askedInBytes? body).bind c.chosen?).toList hub
      (receiveBytes body hub).2 := by
  unfold receiveBytes Payload.askedInBytes?
  by_cases hlength : bodyLimit < body.length
  · rw [if_pos hlength, if_neg (Nat.not_le.mpr hlength)]
    exact .refl hub
  · rw [if_neg hlength, if_pos (Nat.not_lt.mp hlength)]
    cases Utf8.decode body with
    | error e => exact .refl hub
    | ok text => exact led_receive h text

theorem led_answer {route : Route} (hroute : route ≠ .intent) (body : List UInt8) :
    Led c [] hub (answer body route hub).2 := by
  rcases snd_answer hroute body hub with hread | hupdated
  · rw [hread]
    exact .refl hub
  · rw [hupdated]
    exact led_update h

theorem led_serve (request : Http.Request) :
    Led c (request.asked?.bind c.chosen?).toList hub (serve request hub).2 := by
  unfold Http.Request.asked?
  by_cases hposts : Route.ofPath? request.path = some .intent ∧ request.method = "POST"
  · rw [serve_of_posts hposts.1 hposts.2, if_pos hposts]
    exact led_receiveBytes h request.body
  · rw [if_neg hposts]
    rcases serve_of_not_posts hposts hub with hsame | ⟨route, hroute, hanswer⟩
    · rw [hsame]
      exact .refl hub
    · rw [hanswer]
      exact led_answer h hroute request.body

end Requests

end Hub

end VoiceHub
