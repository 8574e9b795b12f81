import VoiceHub.Proofs.Grammar.Walk
import VoiceHub.Proofs.Slots.Assignment

/-!
# Slots and the references to them

The compiler meets every choice twice, to give slots and to write the text.
Both passes name the same slot for it, every slot of the dictionary is mentioned
in the text, and every mention is of a slot of the dictionary.
-/

namespace VoiceHub

namespace Grammar

variable {definitions : List Definition} {g : Grammar}
  {slots : SlotDictionary} {intent : String}

/-! ## Parts of a text -/

def StandsIn (part text : String) : Prop :=
  ∃ before after, text = before ++ part ++ after

theorem StandsIn.refl (text : String) : StandsIn text text :=
  ⟨"", "", by simp⟩

theorem StandsIn.trans {part middle text : String} (h : StandsIn part middle)
    (h' : StandsIn middle text) : StandsIn part text := by
  obtain ⟨before, after, rfl⟩ := h
  obtain ⟨before', after', rfl⟩ := h'
  exact ⟨before' ++ before, after ++ after', by simp [String.append_assoc]⟩

theorem StandsIn.append_right {part text : String} (h : StandsIn part text)
    (after : String) : StandsIn part (text ++ after) :=
  h.trans ⟨"", after, by simp⟩

theorem StandsIn.append_left {part text : String} (h : StandsIn part text)
    (before : String) : StandsIn part (before ++ text) :=
  h.trans ⟨before, "", by simp⟩

theorem standsIn_intercalate (separator : String) {part : String}
    {parts : List String} (h : part ∈ parts) :
    StandsIn part (separator.intercalate parts) := by
  induction parts with
  | nil => contradiction
  | cons first rest ih =>
      by_cases hnil : rest = []
      · subst hnil
        rw [List.mem_singleton.mp h, String.intercalate_singleton]
        exact StandsIn.refl first
      rw [String.intercalate_cons_of_ne_nil hnil]
      rcases List.mem_cons.mp h with rfl | hrest
      · exact ((StandsIn.refl part).append_right _).append_right _
      · exact (ih hrest).append_left _

theorem standsIn_join {part : String} {parts : List String}
    (h : part ∈ parts) : StandsIn part (String.join parts) := by
  induction parts with
  | nil => contradiction
  | cons first rest ih =>
      rw [String.join_cons]
      rcases List.mem_cons.mp h with rfl | hrest
      · exact (StandsIn.refl part).append_right _
      · exact (ih hrest).append_left _

theorem standsIn_renderPart (c : Choice) :
    StandsIn (renderChoice slots intent c)
      (renderPart slots intent (.choice c)) := by
  unfold renderPart
  dsimp only
  split
  · exact ⟨"[", "]", rfl⟩
  · exact StandsIn.refl _

theorem standsIn_renderSentence {part : Part} {sentence : Sentence}
    (h : part ∈ sentence) :
    StandsIn (renderPart slots intent part)
      (renderSentence slots intent sentence) :=
  standsIn_intercalate " " (List.mem_map_of_mem h)

theorem standsIn_renderVariable {v : Variable} {sentence : Sentence}
    (h : sentence ∈ v.sentences) :
    StandsIn (renderSentence slots intent sentence)
      (renderVariable slots intent v) := by
  have hbranch : renderSentence slots intent sentence ∈
      v.sentences.map (renderSentence slots intent) :=
    List.mem_map_of_mem h
  unfold renderVariable
  dsimp only
  split
  · exact ((standsIn_intercalate "|" hbranch).append_left _).append_right _
  · exact (standsIn_intercalate "" hbranch).append_left _

theorem standsIn_renderDefinition {d : Definition} {sentence : Sentence}
    (h : sentence ∈ d.allSentences) :
    StandsIn (renderSentence slots d.name sentence)
      (renderDefinition slots d) := by
  unfold renderDefinition
  dsimp only
  rcases Definition.mem_allSentences.mp h with hsentence | ⟨v, hv, hbranch⟩
  · exact (standsIn_intercalate "\n"
      (List.mem_map_of_mem hsentence)).append_left _
  · have hline : renderVariable slots d.name v ++ "\n" ∈
        d.vars.map fun v => renderVariable slots d.name v ++ "\n" :=
      List.mem_map.mpr ⟨v, hv, rfl⟩
    have hvars := ((standsIn_renderVariable hbranch).append_right "\n").trans
      (standsIn_join hline)
    exact ((hvars.append_left _).append_right _).append_right _

theorem renderDefinition_header (slots : SlotDictionary) (d : Definition) :
    ∃ body, renderDefinition slots d = "[" ++ d.name ++ "]\n" ++ body := by
  unfold renderDefinition
  simp only [String.append_assoc]
  exact ⟨_, rfl⟩

theorem standsIn_sentences (h : compile definitions = .ok g)
    {d : Definition} (hd : d ∈ definitions) (hnamed : d.isNamed = true)
    {c : Choice} (hc : c ∈ d.choices) :
    StandsIn (renderChoice g.slots d.name c) g.sentences := by
  obtain ⟨sentence, hsentence, hpart⟩ := Definition.mem_choices.mp hc
  have hdefinition : d ∈ definitions.filter Definition.isNamed :=
    List.mem_filter.mpr ⟨hd, hnamed⟩
  have hsection : StandsIn (renderChoice g.slots d.name c)
      (renderDefinition g.slots d) :=
    ((standsIn_renderPart c).trans (standsIn_renderSentence hpart)).trans
      (standsIn_renderDefinition hsentence)
  rw [(compile_eq_ok_iff.mp h).2]
  exact hsection.trans
    (standsIn_intercalate "\n\n" (List.mem_map_of_mem hdefinition))

/-! ## Agreement of the passes -/

theorem renderChoice_of_resolve {c : Choice} {name : String}
    (hlarge : 5 < c.values.length)
    (h : slots.resolve ⟨intent, c⟩ = some name) :
    renderChoice slots intent c =
      "$" ++ name ++ if c.returned then braced c.name else "" := by
  have hisLarge : c.isLarge = true := Choice.isLarge_iff.mpr hlarge
  cases hreturned : c.returned <;>
    simp [renderChoice, hisLarge, hreturned, h]

theorem renderChoice_of_not_large {c : Choice}
    (hsmall : c.values.length ≤ 5) :
    renderChoice slots intent c =
      "(" ++ " | ".intercalate c.values ++ ")" ++
        if c.returned then braced c.name else "" := by
  have hisLarge : c.isLarge = false := by
    rw [Bool.eq_false_iff, ne_eq, Choice.isLarge_iff]
    omega
  cases hreturned : c.returned <;>
    simp [renderChoice, hisLarge, hreturned]

theorem exists_resolve_of_mem_namedWalk (h : compile definitions = .ok g)
    {o : Occurrence} (ho : o ∈ namedWalk definitions) :
    ∃ s, g.slots.resolve o = some s ∧
      ∀ before after, namedWalk definitions = before ++ o :: after →
        ∃ slots, SlotDictionary.enterAll Dict.empty before = .ok slots ∧
          slots.assign o = .ok s := by
  have hresolved : ∀ before after,
      namedWalk definitions = before ++ o :: after →
        ∃ slots s, SlotDictionary.enterAll Dict.empty before = .ok slots ∧
          slots.assign o = .ok s ∧ g.slots.resolve o = some s := by
    intro before after hsplit
    have hentered := (compile_eq_ok_iff.mp h).1
    rw [hsplit] at hentered
    obtain ⟨slots, s, hbefore, hassign, hgrown⟩ :=
      SlotDictionary.exists_assign_of_split hentered
    exact ⟨slots, s, hbefore, hassign,
      SlotDictionary.resolve_of_assign hassign hgrown⟩
  obtain ⟨before, after, hsplit⟩ := List.append_of_mem ho
  obtain ⟨-, s, -, -, hresolve⟩ := hresolved before after hsplit
  refine ⟨s, hresolve, fun before' after' hsplit' => ?_⟩
  obtain ⟨slots, s', hbefore, hassign, hresolve'⟩ :=
    hresolved before' after' hsplit'
  rw [hresolve, Option.some.injEq] at hresolve'
  subst hresolve'
  exact ⟨slots, hbefore, hassign⟩

theorem mem_keys_iff (h : compile definitions = .ok g) {s : String} :
    s ∈ g.slots.keys ↔
      ∃ o ∈ namedWalk definitions, g.slots.resolve o = some s := by
  calc s ∈ g.slots.keys
      ↔ some s ∈ g.slots.keys.map some := by simp
    _ ↔ some s ∈ (namedWalk definitions).map g.slots.resolve := by
        rw [SlotDictionary.keys_enterAll (compile_eq_ok_iff.mp h).1,
          List.mem_eraseDups]
    _ ↔ ∃ o ∈ namedWalk definitions, g.slots.resolve o = some s :=
        List.mem_map

/-- The text names for each large choice the slot that the first pass gave. -/
theorem resolve_eq_assigned_name (h : compile definitions = .ok g)
    {d : Definition} (hd : d ∈ definitions) (hnamed : d.isNamed = true)
    {sentence : Sentence}
    (hsentence : sentence ∈ d.sentences ∨
      ∃ v ∈ d.vars, sentence ∈ v.sentences)
    {c : Choice} (hc : Part.choice c ∈ sentence)
    (hlarge : 5 < c.values.length) :
    ∃ s, g.slots.resolve ⟨d.name, c⟩ = some s ∧
      (s = c.name ∨ s = d.name ++ "_" ++ c.name) ∧
      g.slots.find? s = some c.values ∧
      ⟨d.name, c⟩ ∈ namedWalk definitions ∧
      (∀ before after,
        namedWalk definitions = before ++ ⟨d.name, c⟩ :: after →
          ∃ slots, SlotDictionary.enterAll Dict.empty before = .ok slots ∧
            slots.assign ⟨d.name, c⟩ = .ok s ∧
            slots.enter ⟨d.name, c⟩ = .ok (slots.insert s c.values)) ∧
      renderChoice g.slots d.name c =
        "$" ++ s ++ if c.returned then braced c.name else "" := by
  have hchoices : c ∈ d.choices := Definition.mem_choices.mpr
    ⟨sentence, Definition.mem_allSentences.mpr hsentence, hc⟩
  have hwalk : ⟨d.name, c⟩ ∈ namedWalk definitions :=
    mem_namedWalk.mpr ⟨d, hd, hnamed, c, hchoices, hlarge, rfl⟩
  obtain ⟨s, hresolve, hassigned⟩ := exists_resolve_of_mem_namedWalk h hwalk
  obtain ⟨hfind, hname⟩ := SlotDictionary.find?_of_resolve hresolve
  refine ⟨s, hresolve, hname, hfind, hwalk, ?_,
    renderChoice_of_resolve hlarge hresolve⟩
  intro before after hsplit
  obtain ⟨slots, hbefore, hassign⟩ := hassigned before after hsplit
  exact ⟨slots, hbefore, hassign, SlotDictionary.enter_of_assign hassign⟩

def roomNames : List String :=
  ["attic", "bath", "cellar", "den", "hall", "kitchen"]

def floorNames : List String :=
  ["first", "second", "third", "fourth", "fifth", "sixth"]

def lightRoom : Choice :=
  { name := "Room", returned := true, values := roomNames }

def goLight : Choice :=
  { name := "Light_Room", returned := true, values := roomNames }

def goRoom : Choice :=
  { name := "Room", returned := false, values := floorNames }

def lightDefinition : Definition :=
  { name := "Light", sentences := [[.choice lightRoom]] }

def crossedDefinitions : List Definition :=
  [{ name := "Go"
     sentences := [[.choice goLight]]
     vars := [{ name := "Where", sentences := [[.choice goRoom]] }] },
   { name := "", sentences := [[.choice { goRoom with name := "Den" }]] },
   lightDefinition]

def crossedGrammar : Grammar where
  slots := Dict.ofList [("Light_Room", roomNames), ("Room", floorNames)]
  sentences :=
    "[Go]\nWhere = $Room\n\n$Light_Room\x7bLight_Room\x7d\n\n" ++
      "[Light]\n$Light_Room\x7bRoom\x7d"

theorem resolve_eq_assigned_name_crossed :
    compile crossedDefinitions = .ok crossedGrammar ∧
      crossedGrammar.slots.resolve ⟨"Light", lightRoom⟩ =
        some "Light_Room" ∧
      crossedGrammar.slots.find? "Light_Room" = some roomNames ∧
      renderChoice crossedGrammar.slots "Light" lightRoom =
        "$Light_Room\x7bRoom\x7d" := by
  have hcompile : compile crossedDefinitions = .ok crossedGrammar := rfl
  have hmem : lightDefinition ∈ crossedDefinitions := by decide
  have hsentence : [Part.choice lightRoom] ∈ lightDefinition.sentences := by
    decide
  obtain ⟨s, hresolve, -, hfind, -, -, hrender⟩ :=
    resolve_eq_assigned_name hcompile hmem (by decide) (.inl hsentence)
      (List.mem_singleton_self _) (by decide)
  have hs : s = "Light_Room" := Option.some.inj (hresolve.symm.trans rfl)
  subst hs
  exact ⟨hcompile, hresolve, hfind, hrender⟩

/-- The slots are what the large choices resolve to, each at its first use. -/
theorem keys_eq_resolved_names (h : compile definitions = .ok g) :
    g.slots.keys.map some =
        ((definitions.filter Definition.isNamed).flatMap fun d =>
          (d.choices.filter fun c => 5 < c.values.length).map fun c =>
            g.slots.resolve ⟨d.name, c⟩).eraseDups ∧
      g.slots.keys.Nodup ∧
      (∀ s ∈ g.slots.keys, ∃ d ∈ definitions, d.isNamed = true ∧
        ∃ c ∈ d.choices, 5 < c.values.length ∧
          g.slots.find? s = some c.values ∧
          renderChoice g.slots d.name c =
            "$" ++ s ++ (if c.returned then braced c.name else "") ∧
          StandsIn (renderChoice g.slots d.name c) g.sentences) ∧
      (∀ d ∈ definitions, d.isNamed = true → ∀ c ∈ d.choices,
        (5 < c.values.length → ∃ s ∈ g.slots.keys,
          renderChoice g.slots d.name c =
            "$" ++ s ++ if c.returned then braced c.name else "") ∧
        (c.values.length ≤ 5 →
          renderChoice g.slots d.name c =
            "(" ++ " | ".intercalate c.values ++ ")" ++
              if c.returned then braced c.name else "")) ∧
      ∀ others, namedWalk others = namedWalk definitions →
        ∃ g', compile others = .ok g' ∧ g'.slots = g.slots := by
  have hentered := (compile_eq_ok_iff.mp h).1
  refine ⟨?_, g.slots.nodup, ?_, ?_, ?_⟩
  · rw [SlotDictionary.keys_enterAll hentered, map_namedWalk]
    rfl
  · intro s hs
    obtain ⟨o, ho, hresolve⟩ := (mem_keys_iff h).mp hs
    obtain ⟨d, hd, hnamed, c, hc, hlarge, rfl⟩ := mem_namedWalk.mp ho
    exact ⟨d, hd, hnamed, c, hc, hlarge,
      (SlotDictionary.find?_of_resolve hresolve).1,
      renderChoice_of_resolve hlarge hresolve,
      standsIn_sentences h hd hnamed hc⟩
  · intro d hd hnamed c hc
    refine ⟨fun hlarge => ?_, renderChoice_of_not_large⟩
    have hwalk := mem_namedWalk.mpr ⟨d, hd, hnamed, c, hc, hlarge, rfl⟩
    obtain ⟨s, hresolve, -⟩ := exists_resolve_of_mem_namedWalk h hwalk
    exact ⟨s, (mem_keys_iff h).mpr ⟨_, hwalk, hresolve⟩,
      renderChoice_of_resolve hlarge hresolve⟩
  · intro others hothers
    rw [← hothers] at hentered
    exact ⟨⟨g.slots, renderDefinitions g.slots
      (others.filter Definition.isNamed)⟩,
      compile_eq_ok_iff.mpr ⟨hentered, rfl⟩, rfl⟩

theorem keys_eq_resolved_names_crossed :
    compile crossedDefinitions = .ok crossedGrammar ∧
      crossedGrammar.slots.keys = ["Light_Room", "Room"] ∧
      ["Light_Room", "Room"].map some =
        ((crossedDefinitions.filter Definition.isNamed).flatMap fun d =>
          (d.choices.filter fun c => 5 < c.values.length).map fun c =>
            crossedGrammar.slots.resolve ⟨d.name, c⟩).eraseDups :=
  ⟨rfl, rfl, (keys_eq_resolved_names (g := crossedGrammar) rfl).1⟩

end Grammar

end VoiceHub
