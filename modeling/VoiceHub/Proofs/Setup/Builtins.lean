import VoiceHub.Proofs.Registry
import VoiceHub.Proofs.Session.Steps
import VoiceHub.Proofs.Setup.Directions

/-!
# The hub that a configuration sets up

Setting up is told in the log and does nothing else outside.  The built-in handlers
are registered once each, and no two of them declare one intent, so an intent leads
to the only handler that declares it, whatever the configuration.
-/

namespace VoiceHub

namespace Builtin

def intents : Builtin → List String
  | .timeOfDay => ["GetTime"]
  | .timer => [Timer.setIntent]
  | .notifications =>
      [NotificationCenter.holdIntent, NotificationCenter.resumeIntent,
        NotificationCenter.countIntent, NotificationCenter.firstIntent]
  | .speakerSelect => [Selector.selectIntent]
  | .unknown => []

def owner? (intentName : String) : Option Builtin :=
  all.find? fun b => intentName ∈ b.intents

theorem names_handler {s : Selector} (hs : s.IsRebuilt) (b : Builtin) :
    ((b.handler s).definitions.filter Definition.isNamed).map Definition.name =
      b.intents := by
  cases b with
  | speakerSelect =>
      change (s.definitions.filter Definition.isNamed).map Definition.name = _
      rw [hs]
      rfl
  | timeOfDay | timer | notifications | unknown => rfl

theorem behaviour_handler (s : Selector) (b : Builtin) :
    (b.handler s).behaviour = b.behaviour := by
  cases b <;> rfl

theorem declares_handler {s : Selector} (hs : s.IsRebuilt) (b : Builtin) (intentName : String) :
    (b.handler s).declares intentName = decide (intentName ∈ b.intents) := by
  rw [Bool.eq_iff_iff, Handler.declares, decide_eq_true_iff, ← names_handler hs]
  simp only [List.any_eq_true, Bool.and_eq_true, decide_eq_true_eq, List.mem_map,
    List.mem_filter, and_assoc]

theorem owner?_of_mem_intents {intentName : String} {b : Builtin}
    (h : intentName ∈ b.intents) : owner? intentName = some b := by
  have hall : ∀ other ∈ b.intents, owner? other = some b := by
    cases b <;> decide
  exact hall intentName h

theorem find?_eq_some_iff {handlers : List Builtin} (hall : ∀ b, b ∈ handlers)
    {intentName : String} {b : Builtin} :
    (handlers.find? fun b => intentName ∈ b.intents) = some b ↔ intentName ∈ b.intents := by
  constructor
  · intro h
    have hfound := List.find?_some h
    exact of_decide_eq_true hfound
  · intro h
    cases hfind : handlers.find? fun b => intentName ∈ b.intents with
    | none =>
        have hnone := List.find?_eq_none.mp hfind b (hall b)
        exact absurd (decide_eq_true h) hnone
    | some other =>
        have hfound := List.find?_some hfind
        have hother := owner?_of_mem_intents (of_decide_eq_true hfound)
        rw [← hother, owner?_of_mem_intents h]

theorem mem_all (b : Builtin) : b ∈ all := by
  cases b <;> decide

theorem owner?_eq_some_iff {intentName : String} {b : Builtin} :
    owner? intentName = some b ↔ intentName ∈ b.intents :=
  find?_eq_some_iff mem_all

theorem find?_reverse_all (intentName : String) :
    (all.reverse.find? fun b => intentName ∈ b.intents) = owner? intentName := by
  apply Option.ext
  intro b
  rw [owner?_eq_some_iff, find?_eq_some_iff fun b => List.mem_reverse.mpr (mem_all b)]

end Builtin

namespace Hub

section Registering

@[simp] theorem forM_note_apply (records : List Record) (hub : Hub) :
    (forM records fun record => outside (World.note (.log record)) : HubM PUnit) hub =
      ((), { hub with
        world.journal := hub.world.journal ++ records.map .log }) := by
  induction records generalizing hub with
  | nil =>
      rw [List.map_nil, List.append_nil]
      rfl
  | cons record records ih =>
      have hrest := ih (hub.logged record)
      rw [logged, List.append_assoc] at hrest
      exact hrest

@[simp] theorem register_apply (h : Handler) (hub : Hub) :
    register h hub =
      ((), { hub with
        registry := hub.registry.register h
        world.journal := hub.world.journal ++
          (Registry.registerRecords h hub.registry h.definitions).map .log }) := by
  simp [register]

theorem forM_register_apply (handlers : List Handler) (hub : Hub) :
    ∃ records : List Record, (∀ r ∈ records, r.origin = .registry) ∧
      (forM handlers register : HubM PUnit) hub =
        ((), { hub with
          registry := handlers.foldl Registry.register hub.registry
          world.journal := hub.world.journal ++ records.map .log }) := by
  induction handlers generalizing hub with
  | nil =>
      refine ⟨[], nofun, ?_⟩
      rw [List.map_nil, List.append_nil]
      rfl
  | cons h handlers ih =>
      obtain ⟨records, horigin, hrest⟩ := ih (register h hub).2
      refine ⟨Registry.registerRecords h hub.registry h.definitions ++ records, ?_, ?_⟩
      · intro r hr
        rcases List.mem_append.mp hr with hfirst | hlater
        · exact origin_of_mem_registerRecords hfirst
        · exact horigin r hlater
      · refine hrest.trans ?_
        rw [register_apply, List.map_append, ← List.append_assoc]
        rfl

end Registering

section Setup

variable (c : Config) (world : World) (clock : TimeOfDay)

def setupRecord (r : Registry) : Record :=
  { level := .info, origin := .setup
    message := "Registered intents: " ++ ", ".intercalate r.intentNames
    fields := [("handlers", .number r.handlerCount)] }

@[simp] theorem reportIntents_apply (hub : Hub) :
    reportIntents hub = ((), hub.logged (setupRecord hub.registry)) := by
  simp [reportIntents, setupRecord]

def builtinHandlers (s : Selector) : List Handler := Builtin.all.map (Builtin.handler s)

@[simp] theorem registerBuiltins_apply (hub : Hub) :
    registerBuiltins hub = (forM (builtinHandlers hub.selector) register : HubM PUnit) hub := by
  simp [registerBuiltins, builtinHandlers]

/-- A configuration decides the hub; only the log tells more. -/
theorem ofConfig_apply :
    ∃ records : List Record, (∀ r ∈ records, r.origin = .registry ∨ r.origin = .setup) ∧
      ofConfig c world clock =
        { c.bareHub world clock with
          registry := .ofHandlers (builtinHandlers c.selector)
          world.journal := world.journal ++ records.map .log } := by
  obtain ⟨records, horigin, hregister⟩ :=
    forM_register_apply (builtinHandlers c.selector) (c.bareHub world clock)
  let registry : Registry := .ofHandlers (builtinHandlers c.selector)
  refine ⟨records ++ [setupRecord registry], fun r hr => ?_, ?_⟩
  · rcases List.mem_append.mp hr with hfirst | hlast
    · exact .inl (horigin r hfirst)
    · rw [List.mem_singleton.mp hlast]
      exact .inr rfl
  · have hselector : (c.bareHub world clock).selector = c.selector := rfl
    simp only [ofConfig, StateT.run, bind_apply, registerBuiltins_apply, hselector,
      hregister, reportIntents_apply, List.map_append, ← List.append_assoc]
    rfl

theorem registry_ofConfig :
    (ofConfig c world clock).registry = .ofHandlers (builtinHandlers c.selector) := by
  obtain ⟨records, -, hhub⟩ := ofConfig_apply c world clock
  rw [hhub]

end Setup

theorem route?_ofHandlers_builtinHandlers {s : Selector} (hs : s.IsRebuilt)
    (intentName : String) :
    (Registry.ofHandlers (builtinHandlers s)).route? intentName =
      (Builtin.owner? intentName).map (Builtin.handler s) := by
  have hdeclares : (Handler.declares · intentName) ∘ Builtin.handler s =
      fun b => decide (intentName ∈ b.intents) :=
    funext fun b => Builtin.declares_handler hs b intentName
  rw [Registry.route?_ofHandlers, builtinHandlers, ← List.map_reverse, List.find?_map,
    ← Builtin.find?_reverse_all, ← hdeclares]

end Hub

namespace Session

def Step.registers : Step → Bool
  | .register _ => true
  | .builtin _ => true
  | _ => false

theorem registry_performed (hub : Hub) (step : Step) :
    (performed hub step).registry = registryAfter hub step :=
  (marked_performed hub step).view_eq Hub.registry fun _ _ _ _ => rfl

theorem registry_run {steps : List Step} (h : ∀ step ∈ steps, step.registers = false)
    (hub : Hub) : (run steps hub).2.registry = hub.registry := by
  rw [run_snd]
  induction steps generalizing hub with
  | nil => rfl
  | cons step steps ih =>
      have hstep : registryAfter hub step = hub.registry := by
        have hnone := h step List.mem_cons_self
        cases step with
        | register | builtin => cases hnone
        | _ => rfl
      rw [List.foldl_cons, ih (fun later hlater => h later (List.mem_cons_of_mem _ hlater)),
        registry_performed, hstep]

end Session

end VoiceHub
