import VoiceHub.Proofs.Dict
import VoiceHub.Proofs.Grammar.References
import VoiceHub.Proofs.Hub.Serving
import VoiceHub.Session

/-!
# Routes and grammar agree

A name is routed to the last registered handler that declares it, and a name that
no handler declares is not routed.  The routes, the list of definitions and the grammar
are three views of the handlers that are registered, and each of them leaves out
unnamed definitions in its own way.  After any registrations they tell of the same
names: what has a section in the grammar is routed, and nothing else is.
-/

namespace VoiceHub

/-- The handler has a definition of the name; nothing declares the empty name. -/
def Handler.declares (h : Handler) (intentName : String) : Bool :=
  h.definitions.any fun d => d.isNamed && d.name = intentName

namespace Registry

def ofHandlers (handlers : List Handler) : Registry :=
  handlers.foldl register {}

theorem route?_foldl_add (h : Handler) (r : Registry) (ds : List Definition)
    (intentName : String) :
    (ds.foldl (add h) r).route? intentName =
      if ds.any fun d => d.isNamed && d.name = intentName then some h
      else r.route? intentName := by
  induction ds generalizing r with
  | nil => rfl
  | cons d ds ih =>
      rw [List.foldl_cons, ih, List.any_cons]
      cases hnamed : d.isNamed with
      | false => simp [add, hnamed]
      | true =>
          by_cases hname : d.name = intentName
          · simp [add, hnamed, hname, route?]
          · simp [add, hnamed, hname, route?, Ne.symm hname]

theorem route?_register (r : Registry) (h : Handler) (intentName : String) :
    (r.register h).route? intentName =
      if h.declares intentName then some h else r.route? intentName :=
  route?_foldl_add h r h.definitions intentName

theorem route?_foldl_register (handlers : List Handler) (r : Registry)
    (intentName : String) :
    (handlers.foldl register r).route? intentName =
      (handlers.reverse.find? fun h => h.declares intentName).or
        (r.route? intentName) := by
  induction handlers generalizing r with
  | nil => rfl
  | cons h handlers ih =>
      rw [List.foldl_cons, ih, route?_register, List.reverse_cons,
        List.find?_append]
      cases hdeclares : h.declares intentName <;> simp [hdeclares]

/-- The last registration of a name wins. -/
theorem route?_ofHandlers (handlers : List Handler) (intentName : String) :
    (ofHandlers handlers).route? intentName =
      handlers.reverse.find? fun h => h.declares intentName := by
  rw [ofHandlers, route?_foldl_register]
  exact Option.or_none

end Registry

end VoiceHub

namespace VoiceHub

theorem Handler.declares_iff {h : Handler} {intentName : String} :
    h.declares intentName = true ↔
      intentName ≠ "" ∧ ∃ d ∈ h.definitions, d.name = intentName := by
  simp only [declares, List.any_eq_true, Bool.and_eq_true, Definition.isNamed,
    decide_eq_true_eq]
  constructor
  · rintro ⟨d, hd, hnamed, rfl⟩
    exact ⟨hnamed, d, hd, rfl⟩
  · rintro ⟨hnamed, d, hd, rfl⟩
    exact ⟨d, hd, hnamed, rfl⟩

namespace Registry

variable {handlers : List Handler} {intentName : String}

/-! ## The views of a registry -/

@[simp] theorem handlers_foldl_register (handlers : List Handler) (r : Registry) :
    (handlers.foldl register r).handlers = r.handlers ++ handlers := by
  induction handlers generalizing r with
  | nil => simp
  | cons h handlers ih => simp [ih, register]

@[simp] theorem handlers_ofHandlers (handlers : List Handler) :
    (ofHandlers handlers).handlers = handlers :=
  handlers_foldl_register handlers {}

theorem route?_ofHandlers_eq_some_iff {h : Handler} :
    (ofHandlers handlers).route? intentName = some h ↔
      h.declares intentName = true ∧ ∃ before after,
        handlers = before ++ h :: after ∧
          ∀ later ∈ after, later.declares intentName = false := by
  rw [route?_ofHandlers, List.find?_eq_some_iff_append]
  apply and_congr_right
  intro _
  constructor
  · rintro ⟨after, before, hsplit, hlater⟩
    refine ⟨before.reverse, after.reverse, ?_, ?_⟩
    · rw [← List.reverse_reverse handlers, hsplit]
      simp
    · intro later hmem
      simpa using hlater later (List.mem_reverse.mp hmem)
  · rintro ⟨before, after, hsplit, hlater⟩
    refine ⟨after.reverse, before.reverse, ?_, ?_⟩
    · rw [hsplit]
      simp
    · intro later hmem
      simp [hlater later (List.mem_reverse.mp hmem)]

theorem contains_ofHandlers_iff :
    (ofHandlers handlers).contains intentName = true ↔
      ∃ h ∈ handlers, h.declares intentName = true := by
  rw [contains, route?_ofHandlers, List.find?_isSome]
  simp

theorem mem_intentNames_iff {r : Registry} :
    intentName ∈ r.intentNames ↔ r.contains intentName = true :=
  Dict.mem_sortedKeys.trans Dict.mem_keys_iff_contains

theorem mem_names_definitions_iff :
    intentName ∈ ((ofHandlers handlers).definitions.filter Definition.isNamed).map
        Definition.name ↔
      (ofHandlers handlers).contains intentName = true := by
  simp only [contains_ofHandlers_iff, Handler.declares_iff, definitions,
    handlers_ofHandlers, List.mem_map, List.mem_filter, List.mem_flatMap,
    Definition.isNamed, decide_eq_true_eq]
  constructor
  · rintro ⟨d, ⟨⟨h, hh, hd⟩, hnamed⟩, rfl⟩
    exact ⟨h, hh, hnamed, d, hd, rfl⟩
  · rintro ⟨h, hh, hnamed, d, hd, rfl⟩
    exact ⟨d, ⟨⟨h, hh, hd⟩, hnamed⟩, rfl⟩

end Registry

namespace Hub

/-! ## Registering one handler after the other -/

theorem registry_register (h : Handler) (hub : Hub) :
    (register h hub).2.registry = hub.registry.register h :=
  (quiet_register h hub).view_eq registry fun _ _ _ _ => rfl

theorem registry_forM_register (handlers : List Handler) (hub : Hub) :
    (handlers.forM register hub).2.registry =
      handlers.foldl Registry.register hub.registry := by
  induction handlers generalizing hub with
  | nil => rfl
  | cons h handlers ih =>
      have hrest := ih (register h hub).2
      rw [registry_register] at hrest
      exact hrest

theorem dispatch_of_route {i : Intent} {h : Handler} {hub : Hub}
    (hroute : hub.registry.route? i.name = some h) :
    dispatch i hub =
      (do
        let response ← invoke h i
        speakAnswer i response
        return response : HubM Response) hub := by
  simp only [dispatch, bind_apply, get_apply, hroute]

end Hub

namespace Registry

/-- What the views of a hub say of the handlers that are registered. -/
structure Agrees (handlers : List Handler) (hub : Hub) : Prop where
  routed : ∀ n, n ≠ "" →
    (hub.registry.contains n = true ↔
      ∃ h ∈ handlers, ∃ d ∈ h.definitions, d.name = n)
  last_wins : ∀ n h, n ≠ "" →
    (hub.registry.route? n = some h ↔
      ∃ before after, handlers = before ++ h :: after ∧
        (∃ d ∈ h.definitions, d.name = n) ∧
        ∀ later ∈ after, ∀ d ∈ later.definitions, d.name ≠ n)
  unnamed : hub.registry.route? "" = none
  ascending : hub.registry.intentNames.Pairwise (· < ·)
  listed : ∀ n, n ∈ hub.registry.intentNames ↔ hub.registry.contains n = true
  counted : hub.registry.handlerCount = handlers.length
  collected :
    hub.registry.definitions = (handlers.map Handler.definitions).flatten
  /-- The text has one section for each named definition, in order. -/
  sections : ∀ g, hub.grammar = .ok g →
    g.sentences = "\n\n".intercalate
        ((hub.registry.definitions.filter Definition.isNamed).map
          (Grammar.renderDefinition g.slots)) ∧
      ∀ d, ∃ body,
        Grammar.renderDefinition g.slots d = "[" ++ d.name ++ "]\n" ++ body
  named : ∀ n,
    n ∈ (hub.registry.definitions.filter Definition.isNamed).map Definition.name ↔
      n ∈ hub.registry.intentNames
  /-- No intent of a section is unknown, as long as the registry is this one. -/
  known : ∀ d ∈ hub.registry.definitions.filter Definition.isNamed,
    ∃ h ∈ handlers, (∃ own ∈ h.definitions, own.name = d.name) ∧
      ∀ (i : Intent) (later : Hub), i.name = d.name →
        later.registry = hub.registry →
        Hub.dispatch i later =
          (do
            let response ← Hub.invoke h i
            Hub.speakAnswer i response
            return response : HubM Response) later

theorem agrees {handlers : List Handler} {hub : Hub}
    (hregistry : hub.registry = ofHandlers handlers) : Agrees handlers hub where
  routed n hn := by
    simp only [hregistry, contains_ofHandlers_iff, Handler.declares_iff]
    simp [hn]
  last_wins n h hn := by
    have hdeclares : ∀ h : Handler,
        h.declares n = false ↔ ∀ d ∈ h.definitions, d.name ≠ n := by
      intro h
      rw [← Bool.not_eq_true, Handler.declares_iff]
      simp [hn]
    simp only [hregistry, route?_ofHandlers_eq_some_iff, Handler.declares_iff, hdeclares]
    constructor
    · rintro ⟨⟨-, hd⟩, before, after, hsplit, hlater⟩
      exact ⟨before, after, hsplit, hd, hlater⟩
    · rintro ⟨before, after, hsplit, hd, hlater⟩
      exact ⟨⟨hn, hd⟩, before, after, hsplit, hlater⟩
  unnamed := by
    rw [hregistry, route?_ofHandlers, List.find?_eq_none]
    intro h _
    simp [Handler.declares_iff]
  ascending := hub.registry.routes.pairwise_sortedKeys
  listed n := mem_intentNames_iff
  counted := by
    simp [handlerCount, hregistry]
  collected := by
    simp [definitions, hregistry, List.flatMap_def]
  sections g hg :=
    ⟨(Grammar.compile_eq_ok_iff.mp hg).2, Grammar.renderDefinition_header g.slots⟩
  named n := by
    rw [mem_intentNames_iff, hregistry, mem_names_definitions_iff]
  known d hd := by
    have hmem := List.mem_map_of_mem (f := Definition.name) hd
    rw [hregistry, mem_names_definitions_iff, contains] at hmem
    obtain ⟨h, hroute⟩ := Option.isSome_iff_exists.mp hmem
    obtain ⟨hdeclares, before, after, hsplit, -⟩ :=
      route?_ofHandlers_eq_some_iff.mp hroute
    refine ⟨h, ?_, (Handler.declares_iff.mp hdeclares).2, ?_⟩
    · rw [hsplit]
      exact List.mem_append_right before List.mem_cons_self
    · intro i later hname hlater
      apply Hub.dispatch_of_route
      rw [hlater, hregistry, hname, hroute]

/-- After any registrations the routes, the definitions and the grammar agree. -/
theorem routes_and_grammar_agree (handlers : List Handler) (hub : Hub) :
    Agrees handlers
      (handlers.forM Hub.register { hub with registry := {} }).2 :=
  agrees (Hub.registry_forM_register handlers { hub with registry := {} })

def rivals : List Handler :=
  [{ name := "old"
     definitions := [.simple "Lamp" "lamp on", .simple "" "hush", .simple "Lamp" "lamp off"]
     behaviour := .unknown },
    { name := "new", definitions := [.simple "Clock" "clock", .simple "Lamp" "light"]
      behaviour := .timeOfDay },
    { name := "shy", definitions := [.simple "" "hm"], behaviour := .unknown }]

theorem routes_and_grammar_agree_rivals :
    let hub := Session.start {} ⟨12, 34⟩ (.ofOutput "Kitchen" (.device 0)) none .selected 0
    let now := (rivals.forM Hub.register { hub with registry := {} }).2
    now.registry.intentNames = ["Clock", "Lamp"] ∧
      (now.registry.route? "Lamp").map Handler.name = some "new" ∧
      now.grammar.toOption.map Grammar.sentences =
        some "[Lamp]\nlamp on\n\n[Lamp]\nlamp off\n\n[Clock]\nclock\n\n[Lamp]\nlight" ∧
      Agrees rivals now := by
  intro hub now
  exact ⟨Dict.sortedKeys_eq (by decide +kernel) (by decide), by decide +kernel,
    by decide +kernel, routes_and_grammar_agree rivals hub⟩

end Registry

end VoiceHub
