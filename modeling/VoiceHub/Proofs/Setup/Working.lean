import Mathlib.Data.List.Sort
import VoiceHub.Proofs.Grammar.Extension
import VoiceHub.Proofs.Notifications.Holding
import VoiceHub.Proofs.Setup.Builtins
import VoiceHub.Proofs.Setup.Directions

/-!
# Every configuration works

Whatever speakers a configuration names, its hub routes the intents of the built-in
handlers, to handlers that know them, and its grammar compiles.  Only the list of
outputs depends on the configuration: it stands in the text as long as it is short,
and is the one slot otherwise.
-/

namespace VoiceHub

/-! ## Intents that a handler knows -/

theorem Intent.error_of_require {i : Intent} {parameter : String} {e : HandlerError}
    (h : i.require parameter = .error e) : e = .missingParameter parameter := by
  unfold Intent.require at h
  split at h
  · cases h
  · exact (Except.error.inj h).symm

theorem Timer.seconds_ne_unsupported (i : Intent) (n : String) :
    Timer.seconds i ≠ .error (.error (.unsupportedIntent n)) := by
  intro h
  unfold Timer.seconds at h
  split at h
  · next hamount =>
      rw [Intent.error_of_require hamount] at h
      cases h
  · split at h
    · cases h
    · split at h
      · next hunit =>
          rw [Intent.error_of_require hunit] at h
          cases h
      · split at h
        · cases h
        · split at h
          · split at h <;> cases h
          · cases h

theorem Selector.answer_ne_unsupported (s : Selector) (i : Intent) (n : String) :
    s.answer i ≠ .error (.error (.unsupportedIntent n)) := by
  intro h
  unfold Selector.answer at h
  split at h
  · next hname =>
      rw [Intent.error_of_require hname] at h
      cases h
  · split at h <;> cases h

theorem NotificationCenter.answer_ne_unsupported {i : Intent}
    (h : i.name ∈ Builtin.notifications.intents) (c : NotificationCenter) (n : String) :
    c.answer i ≠ .error (.error (.unsupportedIntent n)) := by
  intro hfailure
  rcases answer_eq_error_iff.mp hfailure with ⟨-, -, hempty⟩ | ⟨⟨hhold, hresume, hcount, hfirst⟩, -⟩
  · cases hempty
  · simp [Builtin.intents, hhold, hresume, hcount, hfirst] at h

theorem Builtin.outcome_ne_unsupported {b : Builtin} {i : Intent} (h : i.name ∈ b.intents)
    (hub : Hub) (n : String) :
    hub.outcome b.behaviour i ≠ .error (.error (.unsupportedIntent n)) := by
  have hmap {α : Type} {answer : Except Failure α} (f : α → Response)
      (hanswer : answer ≠ .error (.error (.unsupportedIntent n))) :
      answer.map f ≠ .error (.error (.unsupportedIntent n)) := by
    cases answer with
    | ok response => nofun
    | error failure => exact fun heq => hanswer (congrArg Except.error (Except.error.inj heq))
  unfold Hub.outcome
  cases b with
  | timeOfDay | unknown => nofun
  | timer => exact hmap _ (Timer.seconds_ne_unsupported i n)
  | notifications => exact hmap _ (NotificationCenter.answer_ne_unsupported h hub.center n)
  | speakerSelect => exact hmap _ (Selector.answer_ne_unsupported hub.selector i n)

namespace Hub

/-! ## Routes -/

def builtinIntents : List String :=
  ["GetFirstNotification", "GetNumberOfNotifications", "GetTime", "HoldNotifications",
    "ResumeNotifications", "SelectSpeaker", "SetTimer"]

theorem mem_builtinIntents_iff {intentName : String} :
    intentName ∈ builtinIntents ↔ ∃ b : Builtin, intentName ∈ b.intents := by
  have hperm : builtinIntents.Perm (Builtin.all.flatMap Builtin.intents) := by decide
  rw [hperm.mem_iff, List.mem_flatMap]
  constructor
  · rintro ⟨b, -, hb⟩
    exact ⟨b, hb⟩
  · rintro ⟨b, hb⟩
    exact ⟨b, Builtin.mem_all b, hb⟩

theorem intentNames_ofHandlers_builtinHandlers {s : Selector} (hs : s.IsRebuilt) :
    (Registry.ofHandlers (builtinHandlers s)).intentNames = builtinIntents := by
  refine (Dict.pairwise_sortedKeys _).eq_of_mem_iff (by decide) fun intentName => ?_
  rw [mem_builtinIntents_iff]
  refine Registry.mem_intentNames_iff.trans ?_
  rw [Registry.contains, route?_ofHandlers_builtinHandlers hs, Option.isSome_map,
    Option.isSome_iff_exists]
  simp only [Builtin.owner?_eq_some_iff]

/-! ## The grammar -/

def outputChoice (names : List String) : Occurrence :=
  { intent := Selector.selectIntent
    choice := { name := Selector.speakerParameter, returned := true, values := names } }

theorem isLarge_outputChoice_iff {names : List String} :
    (outputChoice names).choice.isLarge = true ↔ ¬ names.length ≤ 5 :=
  Choice.isLarge_iff.trans Nat.not_le.symm

def fixedDefinitions : List Definition :=
  Handler.timeOfDay.definitions ++ Timer.definitions ++ NotificationCenter.definitions

theorem filter_isNamed_builtins {s : Selector} (hs : s.IsRebuilt) :
    ((builtinHandlers s).flatMap Handler.definitions).filter Definition.isNamed =
      fixedDefinitions ++ s.definitions := by
  have hnamed : s.definitions.filter Definition.isNamed = s.definitions := by
    rw [hs]
    rfl
  have hsplit : ((builtinHandlers s).flatMap Handler.definitions).filter Definition.isNamed =
      fixedDefinitions ++ s.definitions.filter Definition.isNamed := by
    have hfixed : fixedDefinitions.filter Definition.isNamed = fixedDefinitions := by decide
    have hunknown : Handler.unknown.definitions.filter Definition.isNamed = [] := by decide
    rw [← hfixed]
    simp [builtinHandlers, Builtin.all, Builtin.handler, Handler.speakerSelect, hunknown,
      fixedDefinitions, Handler.timer, Handler.notifications]
  rw [hsplit, hnamed]

theorem walk_fixedDefinitions : walk fixedDefinitions = [] := by decide

theorem walk_builtins {s : Selector} (hs : s.IsRebuilt) :
    walk (fixedDefinitions ++ s.definitions) =
      if s.names.length ≤ 5 then [] else [outputChoice s.names] := by
  have hselect : walk s.definitions =
      ([(outputChoice s.names).choice].filter Choice.isLarge).map
        fun c => ⟨Selector.selectIntent, c⟩ := by
    rw [hs]
    exact List.append_nil _
  have hsplit : walk (fixedDefinitions ++ s.definitions) =
      walk fixedDefinitions ++ walk s.definitions := List.flatMap_append
  rw [hsplit, walk_fixedDefinitions, hselect, List.nil_append]
  split
  · next hshort =>
      rw [List.filter_cons_of_neg fun hlarge => isLarge_outputChoice_iff.mp hlarge hshort]
      rfl
  · next hlong =>
      rw [List.filter_cons_of_pos (isLarge_outputChoice_iff.mpr hlong)]
      rfl

def outputSlots (names : List String) : SlotDictionary :=
  if names.length ≤ 5 then Dict.empty else Dict.empty.insert Selector.speakerParameter names

def outputText (names : List String) : String :=
  if names.length ≤ 5 then "(" ++ " | ".intercalate names ++ ")" else "$Speaker"

def fixedText : String :=
  "[GetTime]\nWhat time is it\n\n" ++
    "[SetTimer]\nSet a timer for (0..60)\x7bAmount!int\x7d (seconds | minutes)\x7bTimeUnit\x7d " ++
    "[from now]\n\n" ++
    "[HoldNotifications]\nBlock notifications\n\n" ++
    "[ResumeNotifications]\nResume notifications\n\n" ++
    "[GetNumberOfNotifications]\nHow many notifications are in the queue\n\n" ++
    "[GetFirstNotification]\nTell me the first notification"

open Grammar

theorem renderDefinitions_fixed (slots : SlotDictionary) :
    renderDefinitions slots fixedDefinitions = fixedText := by
  have hempty : renderDefinitions slots fixedDefinitions =
      renderDefinitions Dict.empty fixedDefinitions := by
    refine renderDefinitions_congr fun o ho => ?_
    rw [walk_fixedDefinitions] at ho
    cases ho
  rw [hempty]
  decide +kernel

theorem renderChoice_outputs (names : List String) :
    renderChoice (outputSlots names) Selector.selectIntent (outputChoice names).choice =
      outputText names ++ "\x7bSpeaker\x7d" := by
  unfold renderChoice outputText outputSlots
  split
  · next hlarge =>
      have hlong := isLarge_outputChoice_iff.mp hlarge
      have hslot : SlotDictionary.resolve (Dict.empty.insert Selector.speakerParameter names)
          (outputChoice names) = some "Speaker" := by
        unfold SlotDictionary.resolve
        rw [Dict.find?_insert]
        exact if_pos rfl
      rw [if_neg hlong, if_neg hlong]
      change "$" ++ (SlotDictionary.resolve _ (outputChoice names)).getD _ ++ _ = _
      rw [hslot]
      rfl
  · next hsmall =>
      have hshort := Decidable.not_not.mp (mt isLarge_outputChoice_iff.mpr hsmall)
      rw [if_pos hshort]
      rfl

theorem renderDefinitions_select (slots : SlotDictionary) {s : Selector} (hs : s.IsRebuilt) :
    renderDefinitions slots s.definitions =
      "[SelectSpeaker]\nTalk to me on [the] " ++
        renderChoice slots Selector.selectIntent (outputChoice s.names).choice := by
  have hparts : renderDefinitions slots s.definitions =
      "[" ++ Selector.selectIntent ++ "]\n" ++ ("Talk to me on " ++ ("[the] " ++
        renderChoice slots Selector.selectIntent (outputChoice s.names).choice)) := by
    rw [hs]
    simp [renderDefinitions, Selector.rebuildDefinitions, renderDefinition, renderSentence, renderPart,
      renderLiteral, Part.isOptional, outputChoice]
  rw [hparts, ← String.append_assoc, ← String.append_assoc]
  rfl

theorem compile_builtins {s : Selector} (hs : s.IsRebuilt) :
    compile ((builtinHandlers s).flatMap Handler.definitions) =
      .ok
        { slots := outputSlots s.names
          sentences :=
            fixedText ++ "\n\n[SelectSpeaker]\nTalk to me on [the] " ++ outputText s.names ++
              "\x7bSpeaker\x7d" } := by
  rw [compile_eq_ok_iff, namedWalk, filter_isNamed_builtins hs, walk_builtins hs]
  constructor
  · unfold outputSlots
    split <;> rfl
  · have hgap : "\n\n[SelectSpeaker]\nTalk to me on [the] " =
        "\n\n" ++ "[SelectSpeaker]\nTalk to me on [the] " := by decide
    rw [renderDefinitions_append, if_pos ⟨by decide, hs ▸ List.cons_ne_nil _ _⟩,
      renderDefinitions_fixed,
      renderDefinitions_select _ hs, renderChoice_outputs, hgap]
    simp only [String.append_assoc]

/-! ## The hub of a configuration -/

/-- What a hub needs to be of use. -/
structure Works (c : Config) (hub : Hub) : Prop where
  /-- Exactly the intents of the built-in handlers are routed, -/
  routed : hub.registry.intentNames =
    ["GetFirstNotification", "GetNumberOfNotifications", "GetTime", "HoldNotifications",
      "ResumeNotifications", "SelectSpeaker", "SetTimer"]
  /-- each to the built-in handler that declares it, -/
  owned : ∀ intentName h, hub.registry.route? intentName = some h →
    ∃ b : Builtin, h = b.handler hub.selector ∧ intentName ∈ b.intents
  /-- which does not refuse it, whatever has happened to the hub. -/
  supported : ∀ (i : Intent) h (later : Hub) (n : String),
    hub.registry.route? i.name = some h →
      (handle h.behaviour i later).1 ≠ .error (.error (.unsupportedIntent n))
  /-- A dispatch asks it once, and what it answers or fails with is all that is made of it. -/
  dispatched : ∀ (i : Intent) h (later : Hub), later.registry = hub.registry →
    hub.registry.route? i.name = some h →
      ∃ outcome asked, handle h.behaviour i (later.logged (dispatchRecord h i)) = (outcome, asked) ∧
        (∀ n, outcome ≠ .error (.error (.unsupportedIntent n))) ∧
        dispatch i later =
          (outcome.reply i.text, (asked.reported h i outcome).answered i (outcome.reply i.text))
  outputs : hub.selector.names =
    c.defaultSpeaker :: c.speakers.sortedKeys.filter (· ≠ c.defaultSpeaker)
  ascending : hub.selector.names.tail.Pairwise (· < ·)
  distinct : hub.selector.names.Nodup
  compiles : ∃ g, hub.grammar = .ok g ∧
    g.slots.entries =
      (if hub.selector.names.length ≤ 5 then [] else [("Speaker", hub.selector.names)]) ∧
    g.sentences =
      fixedText ++ "\n\n[SelectSpeaker]\nTalk to me on [the] " ++
        (if hub.selector.names.length ≤ 5 then "(" ++ " | ".intercalate hub.selector.names ++ ")"
          else "$Speaker") ++ "\x7bSpeaker\x7d"

theorem every_config_works (c : Config) (world : World) (clock : TimeOfDay) :
    Works c (ofConfig c world clock) := by
  have hregistry := registry_ofConfig c world clock
  have hselector : (ofConfig c world clock).selector = c.selector := by
    obtain ⟨records, -, hhub⟩ := ofConfig_apply c world clock
    rw [hhub]
    rfl
  have howned (intentName : String) (h : Handler)
      (hroute : (ofConfig c world clock).registry.route? intentName = some h) :
      ∃ b : Builtin, h = b.handler c.selector ∧ intentName ∈ b.intents := by
    rw [hregistry, route?_ofHandlers_builtinHandlers c.isRebuilt_selector] at hroute
    obtain ⟨b, howner, hhandler⟩ := Option.map_eq_some_iff.mp hroute
    exact ⟨b, hhandler.symm, Builtin.owner?_eq_some_iff.mp howner⟩
  have hsupported (i : Intent) (h : Handler) (later : Hub) (n : String)
      (hroute : (ofConfig c world clock).registry.route? i.name = some h) :
      (handle h.behaviour i later).1 ≠ .error (.error (.unsupportedIntent n)) := by
    obtain ⟨b, rfl, hmem⟩ := howned i.name h hroute
    rw [handle_apply, Builtin.behaviour_handler]
    exact Builtin.outcome_ne_unsupported hmem later n
  constructor
  case routed =>
    rw [hregistry]
    exact intentNames_ofHandlers_builtinHandlers c.isRebuilt_selector
  case owned =>
    rw [hselector]
    exact howned
  case supported => exact hsupported
  case dispatched =>
    intro i h later hlater hroute
    let asked := handle h.behaviour i (later.logged (dispatchRecord h i))
    refine ⟨asked.1, asked.2, rfl, fun n => hsupported i h _ n hroute, ?_⟩
    rw [← hlater] at hroute
    rw [dispatch_apply, replied, hroute]
    dsimp only
    rw [invoke_apply]
  case outputs =>
    rw [hselector]
    exact c.names_selector
  case ascending =>
    rw [hselector, c.names_selector]
    exact c.speakers.pairwise_sortedKeys.filter _
  case distinct =>
    rw [hselector]
    exact c.nodup_names_selector
  case compiles =>
    have hgrammar := compile_builtins c.isRebuilt_selector
    rw [← Registry.handlers_ofHandlers (builtinHandlers c.selector), ← hregistry] at hgrammar
    rw [hselector]
    refine ⟨_, hgrammar, ?_, rfl⟩
    dsimp only [outputSlots]
    split <;> rfl

end Hub

end VoiceHub
