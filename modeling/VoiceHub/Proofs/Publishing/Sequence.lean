import VoiceHub.Proofs.Grammar.References
import VoiceHub.Proofs.Hub.Speaking
import VoiceHub.Proofs.Json.Artifacts
import VoiceHub.Proofs.Registry
import VoiceHub.Routes
import VoiceHub.Session

/-!
# The calls of a publication

Publishing makes each of its calls once and in a fixed order, whatever the calls
before returned.  Which calls these are depends on the grammar alone.  The report
says step by step whether there was a call and what it returned.
-/

namespace VoiceHub

def World.published (w : World) : List PublishCall :=
  w.journal.filterMap fun event =>
    match event with
    | .publish call => some call
    | _ => none

inductive PublishStep where
  | slots
  | sentences
  | training
  deriving DecidableEq, Repr

def PublishCall.step : PublishCall → PublishStep
  | .slots _ => .slots
  | .sentences _ => .sentences
  | .train => .training

structure Attempt where
  call : PublishCall
  result : Except PublishError Unit

namespace Attempt

def outcome (a : Attempt) : StepOutcome :=
  match a.result with
  | .ok () => .succeeded
  | .error _ => .failed

def failure? (a : Attempt) : Option String :=
  match a.result with
  | .ok () => none
  | .error e => some e.message

theorem outcome_ne_skipped (a : Attempt) : a.outcome ≠ .skipped := by
  unfold outcome
  split <;> simp

theorem outcome_eq_succeeded_iff {a : Attempt} :
    a.outcome = .succeeded ↔ a.result = .ok () := by
  unfold outcome
  cases a.result <;> simp

theorem outcome_eq_failed_iff {a : Attempt} :
    a.outcome = .failed ↔ ∃ e, a.result = .error e := by
  unfold outcome
  cases a.result <;> simp

theorem failure?_eq_none_iff {a : Attempt} : a.failure? = none ↔ a.result = .ok () := by
  unfold failure?
  cases a.result <;> simp

end Attempt

/-! ## The report -/

namespace PublishReport

def outcome (r : PublishReport) : PublishStep → StepOutcome
  | .slots => r.slots
  | .sentences => r.sentences
  | .training => r.training

def withOutcome (r : PublishReport) (o : StepOutcome) : PublishStep → PublishReport
  | .slots => { r with slots := o }
  | .sentences => { r with sentences := o }
  | .training => { r with training := o }

def noting (r : PublishReport) (a : Attempt) : PublishReport :=
  { r with errors := r.errors ++ a.failure?.toList }.withOutcome a.outcome a.call.step

theorem errors_noting (r : PublishReport) (a : Attempt) :
    (r.noting a).errors = r.errors ++ a.failure?.toList := by
  unfold noting
  cases a.call.step <;> rfl

theorem outcome_noting (r : PublishReport) (a : Attempt) (step : PublishStep) :
    (r.noting a).outcome step =
      if a.call.step = step then a.outcome else r.outcome step := by
  unfold noting
  cases a.call.step <;> cases step <;> rfl

/-- The report says of every step what became of its call. -/
structure Mirrors (r : PublishReport) (attempts : List Attempt) : Prop where
  skipped : ∀ step, r.outcome step = .skipped ↔ ∀ a ∈ attempts, a.call.step ≠ step
  succeeded : ∀ step, r.outcome step = .succeeded ↔
    ∃ a ∈ attempts, a.call.step = step ∧ a.result = .ok ()
  failed : ∀ step, r.outcome step = .failed ↔
    ∃ a ∈ attempts, a.call.step = step ∧ ∃ e, a.result = .error e
  errors : r.errors = attempts.filterMap Attempt.failure?

theorem mirrors_nil : Mirrors {} [] where
  skipped step := by cases step <;> simp [outcome]
  succeeded step := by cases step <;> simp [outcome]
  failed step := by cases step <;> simp [outcome]
  errors := rfl

theorem exists_attempt_append_iff {attempts : List Attempt} {a : Attempt}
    (hnew : ∀ b ∈ attempts, b.call.step ≠ a.call.step) (step : PublishStep)
    (p : Attempt → Prop) :
    (∃ b ∈ attempts ++ [a], b.call.step = step ∧ p b) ↔
      if a.call.step = step then p a
      else ∃ b ∈ attempts, b.call.step = step ∧ p b := by
  split
  · next hstep =>
      subst hstep
      constructor
      · rintro ⟨b, hb, hsame, hp⟩
        rcases List.mem_append.mp hb with hold | hlast
        · exact absurd hsame (hnew b hold)
        · rwa [List.mem_singleton.mp hlast] at hp
      · intro hp
        exact ⟨a, by simp, rfl, hp⟩
  · next hstep => simp [or_and_right, exists_or, hstep]

theorem mirrors_noting {r : PublishReport} {attempts : List Attempt} {a : Attempt}
    (h : r.Mirrors attempts) (hnew : ∀ b ∈ attempts, b.call.step ≠ a.call.step) :
    (r.noting a).Mirrors (attempts ++ [a]) where
  skipped step := by
    rw [outcome_noting]
    split
    · next hstep => simp [a.outcome_ne_skipped, hstep]
    · next hstep =>
        rw [h.skipped]
        constructor
        · intro hskipped b hb
          rcases List.mem_append.mp hb with hold | hlast
          · exact hskipped b hold
          · rwa [List.mem_singleton.mp hlast]
        · intro hskipped b hb
          exact hskipped b (List.mem_append_left _ hb)
  succeeded step := by
    rw [exists_attempt_append_iff hnew, outcome_noting]
    split
    · exact Attempt.outcome_eq_succeeded_iff
    · exact h.succeeded step
  failed step := by
    rw [exists_attempt_append_iff hnew, outcome_noting]
    split
    · exact Attempt.outcome_eq_failed_iff
    · exact h.failed step
  errors := by
    rw [errors_noting, h.errors, List.filterMap_append]
    cases hfailure : a.failure? <;> simp [hfailure]

/-- A report of attempts of different steps mirrors them all. -/
theorem mirrors_foldl_noting {r : PublishReport} {before : List Attempt}
    (h : r.Mirrors before) (attempts : List Attempt)
    (hsteps : ((before ++ attempts).map fun a => a.call.step).Nodup) :
    (attempts.foldl noting r).Mirrors (before ++ attempts) := by
  induction attempts generalizing r before with
  | nil => simpa using h
  | cons a attempts ih =>
      have hnew : ∀ b ∈ before, b.call.step ≠ a.call.step := by
        intro b hb heq
        simp only [List.map_append, List.map_cons, List.nodup_append] at hsteps
        exact hsteps.2.2 _ (List.mem_map_of_mem hb) _ (by simp) heq
      rw [List.append_cons] at hsteps ⊢
      exact ih (mirrors_noting h hnew) hsteps

theorem Mirrors.isSuccess_iff {r : PublishReport} {attempts : List Attempt}
    (h : r.Mirrors attempts) :
    r.isSuccess = true ↔ ∀ step, r.outcome step ≠ .failed := by
  rw [isSuccess, List.isEmpty_iff, h.errors, List.filterMap_eq_nil_iff]
  constructor
  · intro hnone step hfailed
    obtain ⟨a, ha, -, e, hresult⟩ := (h.failed step).mp hfailed
    have hok := Attempt.failure?_eq_none_iff.mp (hnone a ha)
    rw [hresult] at hok
    cases hok
  · intro hnone a ha
    cases hresult : a.result with
    | ok _ => exact Attempt.failure?_eq_none_iff.mpr hresult
    | error e =>
        have hfailed := (h.failed a.call.step).mpr ⟨a, ha, rfl, e, hresult⟩
        exact absurd hfailed (hnone _)

end PublishReport

/-! ## Calls one after the other -/

/-- The attempts lead from one world to the other.  Between them nothing is done but
telling the log. -/
inductive Leads (service : Service) : World → List Attempt → World → Prop where
  | done (w : World) : Leads service w [] w
  | told {w w' : World} {attempts : List Attempt} (r : Record)
      (horigin : r.origin = .publishing) (rest : Leads service (w.logged r) attempts w') :
      Leads service w attempts w'
  | called {w w' : World} {attempts : List Attempt} (call : PublishCall)
      (rest : Leads service (service.publish call w).2 attempts w') :
      Leads service w (⟨call, (service.publish call w).1⟩ :: attempts) w'

namespace Leads

variable {service : Service} {w w' w'' : World} {attempts later : List Attempt}

theorem trans (h : Leads service w attempts w') (h' : Leads service w' later w'') :
    Leads service w (attempts ++ later) w'' := by
  induction h with
  | done => exact h'
  | told r horigin _ ih => exact .told r horigin (ih h')
  | called call _ ih => exact .called call (ih h')

theorem published_eq (h : Leads .device w attempts w') :
    w'.published = w.published ++ attempts.map Attempt.call ∧
      ∀ a ∈ attempts, a.result = ofFault (w.publishFaults.of a.call) := by
  induction h with
  | done => simp
  | told r _ _ ih =>
      obtain ⟨hpublished, hresults⟩ := ih
      constructor
      · simpa [World.published, World.logged] using hpublished
      · exact hresults
  | @called w w' attempts call _ ih =>
      obtain ⟨hpublished, hresults⟩ := ih
      have hcall : (Service.device.publish call w).2.published = w.published ++ [call] := by
        change (w.journal ++ [Event.publish call]).filterMap _ = _
        simp [World.published]
      constructor
      · rw [hpublished, hcall]
        simp
      · intro a ha
        rcases List.mem_cons.mp ha with rfl | ha
        · rfl
        · exact hresults a ha

end Leads

/-- From the one report and world to the other the calls are made in order, and the
report notes each of them. -/
def Publishes (service : Service) (calls : List PublishCall)
    (before after : PublishReport × World) : Prop :=
  ∃ attempts, attempts.map Attempt.call = calls ∧
    Leads service before.2 attempts after.2 ∧
    after.1 = attempts.foldl PublishReport.noting before.1

namespace Publishes

variable {service : Service} {calls later : List PublishCall}
  {before middle after : PublishReport × World}

theorem refl (service : Service) (before : PublishReport × World) :
    Publishes service [] before before :=
  ⟨[], rfl, .done _, rfl⟩

theorem trans (h : Publishes service calls before middle)
    (h' : Publishes service later middle after) :
    Publishes service (calls ++ later) before after := by
  obtain ⟨attempts, rfl, hleads, hreport⟩ := h
  obtain ⟨attempts', rfl, hleads', hreport'⟩ := h'
  refine ⟨attempts ++ attempts', List.map_append, hleads.trans hleads', ?_⟩
  rw [hreport', hreport, List.foldl_append]

theorem record (service : Service) (call : PublishCall) (r : PublishReport) (w : World) :
    ∃ a w', a.call = call ∧ Leads service w [a] w' ∧
      (service.publish call >>= fun result => r.record result) w =
        ((a.outcome, { r with errors := r.errors ++ a.failure?.toList }), w') := by
  change ∃ a w', _ ∧ _ ∧
    r.record (service.publish call w).1 (service.publish call w).2 = _
  refine ⟨⟨call, (service.publish call w).1⟩, ?_⟩
  unfold Attempt.outcome Attempt.failure?
  cases hresult : (service.publish call w).1 with
  | ok _ =>
      refine ⟨(service.publish call w).2, rfl, ?_, ?_⟩
      · rw [← hresult]
        exact .called call (.done _)
      · have hsame : { r with errors := r.errors ++ [] } = r := by
          rw [List.append_nil]
        exact congrArg (fun r => ((StepOutcome.succeeded, r), _)) hsame.symm
  | error e =>
      refine ⟨(service.publish call w).2.logged
        { level := .error, origin := .publishing, message := e.message }, rfl, ?_, rfl⟩
      rw [← hresult]
      exact .called call (.told _ rfl (.done _))

theorem noting (service : Service) (call : PublishCall) (told : Record)
    (horigin : told.origin = .publishing) (r : PublishReport) (w : World) :
    Publishes service [call] (r, w)
      ((do
        World.note (.log told)
        let (outcome, r) ← r.record (← service.publish call)
        return r.withOutcome outcome call.step : Act PublishReport) w) := by
  obtain ⟨a, w', rfl, hleads, heq⟩ := record service call r (w.logged told)
  refine ⟨[a], rfl, .told told horigin ?_, ?_⟩
  · exact congrArg Prod.snd heq ▸ hleads
  · exact congrArg (fun ran => ran.1.2.withOutcome ran.1.1 a.call.step) heq

end Publishes

namespace Grammar

def calls (g : Grammar) : List PublishCall :=
  (if g.slots.entries = [] then [] else [.slots g.slots]) ++
    (if g.sentences = "" then [] else [.sentences g.sentences]) ++
      if g.slots.entries = [] ∧ g.sentences = "" then [] else [.train]

theorem isEmpty_iff {g : Grammar} :
    g.isEmpty = true ↔ g.slots.entries = [] ∧ g.sentences = "" := by
  simp [isEmpty]

theorem publishes_slots (g : Grammar) (service : Service) (r : PublishReport)
    (w : World) :
    Publishes service (if g.slots.entries = [] then [] else [.slots g.slots]) (r, w)
      (g.publishSlots service r w) := by
  unfold publishSlots
  by_cases hslots : g.slots.entries = []
  · rw [if_pos hslots, if_pos (Dict.isEmpty_iff.mpr hslots)]
    exact .refl service (r, w)
  · rw [if_neg hslots, if_neg (mt Dict.isEmpty_iff.mp hslots)]
    exact .noting service (.slots g.slots) _ rfl r w

theorem publishes_sentences (g : Grammar) (service : Service) (r : PublishReport)
    (w : World) :
    Publishes service (if g.sentences = "" then [] else [.sentences g.sentences]) (r, w)
      (g.publishSentences service r w) := by
  unfold publishSentences
  by_cases hsentences : g.sentences = ""
  · rw [if_pos hsentences, if_pos (String.isEmpty_iff.mpr hsentences)]
    exact .refl service (r, w)
  · rw [if_neg hsentences, if_neg (mt String.isEmpty_iff.mp hsentences)]
    exact .noting service (.sentences g.sentences) _ rfl r w

theorem publishes_training (service : Service) (r : PublishReport) (w : World) :
    Publishes service [.train] (r, w) (publishTraining service r w) :=
  .noting service .train _ rfl r w

theorem publishes_publish (g : Grammar) (service : Service) (w : World) :
    Publishes service g.calls ({}, w) (g.publish service w) := by
  unfold publish calls
  cases hempty : g.isEmpty with
  | true =>
      obtain ⟨hslots, hsentences⟩ := isEmpty_iff.mp hempty
      rw [if_pos hslots, if_pos hsentences, if_pos ⟨hslots, hsentences⟩]
      exact ⟨[], rfl, .told _ rfl (.done _), rfl⟩
  | false =>
      rw [if_neg (mt isEmpty_iff.mpr (ne_true_of_eq_false hempty))]
      have hslots := g.publishes_slots service {} w
      have hsentences := g.publishes_sentences service (g.publishSlots service {} w).1
        (g.publishSlots service {} w).2
      exact (hslots.trans hsentences).trans (publishes_training service _ _)

theorem nodup_steps_calls (g : Grammar) : (g.calls.map PublishCall.step).Nodup := by
  unfold calls
  by_cases hslots : g.slots.entries = [] <;> by_cases hsentences : g.sentences = "" <;>
    simp [hslots, hsentences, PublishCall.step]

/-! ## What there is to publish -/

section Compiled

variable {definitions : List Definition} {g : Grammar}

/-- A section has a header, so the text of a named definition is not empty. -/
theorem sentences_ne_empty (h : compile definitions = .ok g) {d : Definition}
    (hd : d ∈ definitions) (hnamed : d.name ≠ "") : g.sentences ≠ "" := by
  have hsection : renderDefinition g.slots d ∈
      (definitions.filter Definition.isNamed).map (renderDefinition g.slots) :=
    List.mem_map_of_mem (List.mem_filter.mpr ⟨hd, decide_eq_true hnamed⟩)
  obtain ⟨before, after, htext⟩ := standsIn_intercalate "\n\n" hsection
  obtain ⟨body, hheader⟩ := renderDefinition_header g.slots d
  rw [(compile_eq_ok_iff.mp h).2, renderDefinitions, htext, hheader]
  simp

theorem eq_empty_of_unnamed (h : compile definitions = .ok g)
    (hunnamed : ¬∃ d ∈ definitions, d.name ≠ "") : g.slots.entries = [] ∧ g.sentences = "" := by
  obtain ⟨hentered, hsentences⟩ := compile_eq_ok_iff.mp h
  have hnone : definitions.filter Definition.isNamed = [] := by
    simpa [Definition.isNamed] using hunnamed
  rw [namedWalk, hnone] at hentered
  rw [hnone] at hsentences
  exact ⟨by rw [← Except.ok.inj hentered]; rfl, hsentences⟩

theorem calls_of_compile (h : compile definitions = .ok g) :
    g.calls =
      if ∃ d ∈ definitions, d.name ≠ "" then
        (if g.slots.entries = [] then [] else [.slots g.slots]) ++
          [.sentences g.sentences, .train]
      else [] := by
  unfold calls
  by_cases hnamed : ∃ d ∈ definitions, d.name ≠ ""
  · have hsentences : g.sentences ≠ "" := by
      obtain ⟨d, hd, hdnamed⟩ := hnamed
      exact sentences_ne_empty h hd hdnamed
    have hsome : ¬(g.slots.entries = [] ∧ g.sentences = "") := fun hnone => hsentences hnone.2
    rw [if_neg hsentences, if_neg hsome, if_pos hnamed, List.append_assoc]
    rfl
  · obtain ⟨hslots, hsentences⟩ := eq_empty_of_unnamed h hnamed
    rw [if_neg hnamed, if_pos hslots, if_pos hsentences, if_pos ⟨hslots, hsentences⟩]
    rfl

end Compiled

end Grammar

/-! ## Publications -/

/-- The calls are made once each and in order, and the report mirrors what they
returned.  A device that is called has seen just these calls. -/
structure Sequenced (service : Service) (calls : List PublishCall) (w : World)
    (attempts : List Attempt) (r : PublishReport) (w' : World) : Prop where
  calls_eq : attempts.map Attempt.call = calls
  leads : Leads service w attempts w'
  mirrors : r.Mirrors attempts
  success : r.isSuccess = true ↔ ∀ step, r.outcome step ≠ .failed
  seen : service = .device →
    w'.published = w.published ++ calls ∧
      ∀ a ∈ attempts, a.result = ofFault (w.publishFaults.of a.call)

theorem Publishes.sequenced {service : Service} {calls : List PublishCall} {w w' : World}
    {r : PublishReport} (h : Publishes service calls ({}, w) (r, w'))
    (hsteps : (calls.map PublishCall.step).Nodup) :
    ∃ attempts, Sequenced service calls w attempts r w' := by
  obtain ⟨attempts, rfl, hleads, hreport⟩ := h
  rw [List.map_map] at hsteps
  have hmirrors : r.Mirrors attempts := by
    change r = _ at hreport
    rw [hreport]
    exact PublishReport.mirrors_foldl_noting PublishReport.mirrors_nil attempts hsteps
  refine ⟨attempts, rfl, hleads, hmirrors, hmirrors.isSuccess_iff, ?_⟩
  rintro rfl
  exact hleads.published_eq

theorem Grammar.sequenced_publish (g : Grammar) (service : Service) (w : World) :
    ∃ attempts, Sequenced service g.calls w attempts (g.publish service w).1
      (g.publish service w).2 :=
  (g.publishes_publish service w).sequenced g.nodup_steps_calls

namespace Hub

@[simp] theorem update_apply (hub : Hub) :
    update hub =
      ((Grammar.update hub.registry.definitions hub.publisher hub.world).1,
        { hub with
          world := (Grammar.update hub.registry.definitions hub.publisher hub.world).2 }) := rfl

theorem update_of_error {hub : Hub} {e : GrammarError} (h : hub.grammar = .error e) :
    update hub = (.error e, hub) := by
  rw [update_apply, Grammar.update]
  unfold grammar at h
  simp only [h]
  rfl

theorem update_of_ok {hub : Hub} {g : Grammar} (h : hub.grammar = .ok g) :
    ∃ told : Record, told.origin = .publishing ∧
      update hub =
        (.ok (g.publish hub.publisher (hub.world.logged told)).1,
          { hub with world := (g.publish hub.publisher (hub.world.logged told)).2 }) := by
  rw [update_apply, Grammar.update]
  unfold grammar at h
  simp only [h]
  exact ⟨_, rfl, rfl⟩

theorem serve_grammar {request : Http.Request} {hub : Hub} {g : Grammar}
    (hmethod : request.method = "GET") (hpath : request.path = "/api/grammar")
    (hg : hub.grammar = .ok g) :
    serve request hub = (Http.json 200 (Http.success g.toJson), hub) := by
  have hroute : Route.ofPath? "/api/grammar" = some .grammar := by decide
  have hallowed : Route.allows .grammar "GET" = true := by decide
  simp [serve, answer, hpath, hmethod, hroute, hallowed, hg]

/-- An update publishes just the grammar that the hub shows, if something is named in it,
and does nothing at all if it does not compile. -/
theorem update_sequenced (hub : Hub) :
    (∀ e, hub.grammar = .error e → update hub = (.error e, hub)) ∧
    (∀ g, hub.grammar = .ok g →
      (∀ request : Http.Request, request.method = "GET" → request.path = "/api/grammar" →
        (serve request hub).1.ShowsGrammar g ∧ (serve request hub).2 = hub) ∧
      Json.Says g.slots.upload g.slots.document ∧
      ∃ report w attempts,
        update hub = (.ok report, { hub with world := w }) ∧
        Sequenced hub.publisher
          (if ∃ d ∈ hub.registry.definitions, d.name ≠ "" then
            (if g.slots.entries = [] then [] else [.slots g.slots]) ++
              [.sentences g.sentences, .train]
          else [])
          hub.world attempts report w) ∧
    ∀ (g : Grammar) (service : Service) (w : World),
      ∃ attempts,
        Sequenced service
          ((if g.slots.entries = [] then [] else [.slots g.slots]) ++
            (if g.sentences = "" then [] else [.sentences g.sentences]) ++
              if g.slots.entries = [] ∧ g.sentences = "" then [] else [.train])
          w attempts (g.publish service w).1 (g.publish service w).2 := by
  refine ⟨fun e => update_of_error, fun g hg => ⟨?_, g.slots.says_upload, ?_⟩,
    Grammar.sequenced_publish⟩
  · intro request hmethod hpath
    rw [serve_grammar hmethod hpath hg]
    exact ⟨Http.Answer.showsGrammar_json g, rfl⟩
  · obtain ⟨told, horigin, hupdate⟩ := update_of_ok hg
    obtain ⟨attempts, hcalls, hleads, hreport⟩ :=
      g.publishes_publish hub.publisher (hub.world.logged told)
    have hpublishes : Publishes hub.publisher g.calls ({}, hub.world)
        (g.publish hub.publisher (hub.world.logged told)) :=
      ⟨attempts, hcalls, .told told horigin hleads, hreport⟩
    obtain ⟨attempts, hsequenced⟩ := hpublishes.sequenced g.nodup_steps_calls
    rw [Grammar.calls_of_compile hg] at hsequenced
    exact ⟨_, _, attempts, hupdate, hsequenced⟩

def stubbornHub : Hub :=
  let hub := Session.start
    { publishFaults :=
        { slots := some (.upload .slots "status 500"), train := some (.train "busy") } }
    ⟨12, 34⟩ (.ofOutput "Kitchen" (.device 0)) none .selected 0
  { hub with
    registry := .ofHandlers
      [{ name := "rooms", definitions := Grammar.crossedDefinitions, behaviour := .unknown }] }

def crossedSlotsText : String :=
  "\x7b\"Light_Room\":[\"attic\",\"bath\",\"cellar\",\"den\",\"hall\",\"kitchen\"]," ++
    "\"Room\":[\"first\",\"second\",\"third\",\"fourth\",\"fifth\",\"sixth\"]\x7d"

def grammarRequest : Http.Request := { method := "GET", target := "/api/grammar?pretty" }

theorem update_sequenced_stubborn :
    ∃ report w attempts,
      update stubbornHub = (.ok report, { stubbornHub with world := w }) ∧
        w.published =
          [.slots (Dict.ofList
              [("Light_Room", ["attic", "bath", "cellar", "den", "hall", "kitchen"]),
                ("Room", ["first", "second", "third", "fourth", "fifth", "sixth"])]),
            .sentences
              ("[Go]\nWhere = $Room\n\n$Light_Room\x7bLight_Room\x7d\n\n" ++
                "[Light]\n$Light_Room\x7bRoom\x7d"),
            .train] ∧
        report =
          { slots := .failed, sentences := .succeeded, training := .failed
            errors := ["Failed to upload slots: status 500", "Training failed: busy"] } ∧
        report.Mirrors attempts ∧
        Grammar.crossedGrammar.slots.upload = crossedSlotsText ∧
        (serve grammarRequest stubbornHub).1.ShowsGrammar Grammar.crossedGrammar ∧
        (serve grammarRequest stubbornHub).1.body =
          "\x7b\"success\":true,\"data\":\x7b\"slots\":" ++ crossedSlotsText ++
            ",\"sentences\":\"[Go]\\nWhere = $Room\\n\\n$Light_Room\x7bLight_Room\x7d" ++
            "\\n\\n[Light]\\n$Light_Room\x7bRoom\x7d\"\x7d\x7d" := by
  have hgrammar : stubbornHub.grammar = .ok Grammar.crossedGrammar := rfl
  obtain ⟨hshown, -, report, w, attempts, hupdate, hsequenced⟩ :=
    (update_sequenced stubbornHub).2.1 _ hgrammar
  refine ⟨report, w, attempts, hupdate, (hsequenced.seen rfl).1, ?_, hsequenced.mirrors,
    by decide +kernel, (hshown grammarRequest rfl (by decide +kernel)).1, by decide +kernel⟩
  exact Except.ok.inj (congrArg Prod.fst hupdate).symm

end Hub

end VoiceHub
