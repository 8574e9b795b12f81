import VoiceHub.Proofs.Grammar.References

/-!
# More definitions

Definitions that are added at the end leave everything before them as it was:
the slots, the names that the choices resolve to, the text, and a failure if
there was one.  The text of the added definitions follows after a blank line.
-/

namespace VoiceHub

namespace Grammar

variable {slots slots' : SlotDictionary} {intent : String}

/-! ## Texts that depend on resolution only -/

theorem renderChoice_congr {c : Choice}
    (h : c.isLarge = true →
      slots.resolve ⟨intent, c⟩ = slots'.resolve ⟨intent, c⟩) :
    renderChoice slots intent c = renderChoice slots' intent c := by
  unfold renderChoice
  cases hlarge : c.isLarge with
  | false => rfl
  | true => rw [h hlarge]

theorem renderPart_congr {part : Part}
    (h : ∀ c, part = .choice c → c.isLarge = true →
      slots.resolve ⟨intent, c⟩ = slots'.resolve ⟨intent, c⟩) :
    renderPart slots intent part = renderPart slots' intent part := by
  cases part with
  | choice c =>
      unfold renderPart
      dsimp only
      rw [renderChoice_congr (h c rfl)]
  | literal l => rfl
  | range r => rfl
  | reference r => rfl

theorem renderSentence_congr {sentence : Sentence}
    (h : ∀ c, Part.choice c ∈ sentence → c.isLarge = true →
      slots.resolve ⟨intent, c⟩ = slots'.resolve ⟨intent, c⟩) :
    renderSentence slots intent sentence =
      renderSentence slots' intent sentence := by
  unfold renderSentence
  congr 1
  refine List.map_congr_left fun part hpart => renderPart_congr ?_
  rintro c rfl
  exact h c hpart

theorem renderVariable_congr {v : Variable}
    (h : ∀ sentence ∈ v.sentences,
      renderSentence slots intent sentence =
        renderSentence slots' intent sentence) :
    renderVariable slots intent v = renderVariable slots' intent v := by
  unfold renderVariable
  rw [List.map_congr_left h]

theorem renderSentence_congr_of_mem {d : Definition}
    (h : ∀ o ∈ d.occurrences, slots.resolve o = slots'.resolve o)
    {sentence : Sentence} (hsentence : sentence ∈ d.allSentences) :
    renderSentence slots d.name sentence =
      renderSentence slots' d.name sentence := by
  refine renderSentence_congr fun c hc hlarge => h _ ?_
  have hchoice := Definition.mem_choices.mpr ⟨sentence, hsentence, hc⟩
  have hkept := List.mem_filter.mpr ⟨hchoice, hlarge⟩
  exact List.mem_map.mpr ⟨c, hkept, rfl⟩

theorem renderDefinition_congr {d : Definition}
    (h : ∀ o ∈ d.occurrences, slots.resolve o = slots'.resolve o) :
    renderDefinition slots d = renderDefinition slots' d := by
  have hbody : d.sentences.map (renderSentence slots d.name) =
      d.sentences.map (renderSentence slots' d.name) := by
    refine List.map_congr_left fun sentence hs => ?_
    have hall := Definition.mem_allSentences.mpr (.inl hs)
    exact renderSentence_congr_of_mem h hall
  have hlines :
      (d.vars.map fun v => renderVariable slots d.name v ++ "\n") =
        d.vars.map fun v => renderVariable slots' d.name v ++ "\n" := by
    refine List.map_congr_left fun v hv => ?_
    rw [renderVariable_congr fun sentence hs => ?_]
    have hall := Definition.mem_allSentences.mpr (.inr ⟨v, hv, hs⟩)
    exact renderSentence_congr_of_mem h hall
  unfold renderDefinition
  rw [hbody, hlines]

theorem renderDefinitions_congr {definitions : List Definition}
    (h : ∀ o ∈ walk definitions, slots.resolve o = slots'.resolve o) :
    renderDefinitions slots definitions =
      renderDefinitions slots' definitions := by
  unfold renderDefinitions
  congr 1
  refine List.map_congr_left fun d hd => ?_
  exact renderDefinition_congr fun o ho =>
    h o (List.mem_flatMap.mpr ⟨d, hd, ho⟩)

/-! ## Definitions one after another -/

theorem renderDefinitions_append (slots : SlotDictionary)
    (ds es : List Definition) :
    renderDefinitions slots (ds ++ es) =
      renderDefinitions slots ds ++
        (if ds ≠ [] ∧ es ≠ [] then "\n\n" else "") ++
          renderDefinitions slots es := by
  unfold renderDefinitions
  by_cases hds : ds = []
  · simp [hds]
  by_cases hes : es = []
  · simp [hes]
  rw [List.map_append, String.intercalate_append_of_ne_nil (by simpa using hds)
    (by simpa using hes)]
  simp [hds, hes]

theorem filter_isNamed_ne_nil_iff (ds : List Definition) :
    ds.filter Definition.isNamed ≠ [] ↔
      ds.any Definition.isNamed = true := by
  simp

/-- Added definitions change nothing of what was compiled before them. -/
theorem compile_append (ds es : List Definition) :
    (∀ g, compile (ds ++ es) = .ok g →
      ∃ g₀, compile ds = .ok g₀ ∧
        g₀.slots.entries <+: g.slots.entries ∧
        (∀ o ∈ namedWalk ds, g.slots.resolve o = g₀.slots.resolve o) ∧
        g.sentences =
          g₀.sentences ++
            (if ds.any Definition.isNamed ∧ es.any Definition.isNamed
              then "\n\n" else "") ++
              renderDefinitions g.slots (es.filter Definition.isNamed)) ∧
    (∀ e, compile ds = .error e → compile (ds ++ es) = .error e) := by
  simp only [compile_eq_ok_iff, compile_eq_error_iff, namedWalk_append]
  constructor
  · rintro g ⟨hentered, hsentences⟩
    obtain ⟨slots, hbefore, hafter⟩ :=
      SlotDictionary.enterAll_append_eq_ok_iff.mp hentered
    have hgrown := SlotDictionary.entries_prefix_enterAll hafter
    have hresolve : ∀ o ∈ namedWalk ds,
        g.slots.resolve o = slots.resolve o := by
      intro o ho
      exact SlotDictionary.resolve_eq_of_mem hbefore hgrown ho
    refine ⟨⟨slots, renderDefinitions slots
      (ds.filter Definition.isNamed)⟩, ⟨hbefore, rfl⟩, hgrown, hresolve, ?_⟩
    rw [hsentences, List.filter_append, renderDefinitions_append,
      renderDefinitions_congr hresolve]
    simp only [filter_isNamed_ne_nil_iff]
  · intro e h
    rw [SlotDictionary.enterAll_append, h]
    rfl

theorem compile_append_crossed :
    compile (crossedDefinitions.take 2 ++ crossedDefinitions.drop 2) =
        .ok crossedGrammar ∧
      ∃ g₀, compile (crossedDefinitions.take 2) = .ok g₀ ∧
        g₀.slots.entries <+: crossedGrammar.slots.entries ∧
        crossedGrammar.sentences =
          g₀.sentences ++ "\n\n" ++ "[Light]\n$Light_Room\x7bRoom\x7d" := by
  have hcompile :
      compile (crossedDefinitions.take 2 ++ crossedDefinitions.drop 2) =
        .ok crossedGrammar := rfl
  obtain ⟨g₀, hbefore, hslots, -, hsentences⟩ :=
    (compile_append _ _).1 _ hcompile
  exact ⟨hcompile, g₀, hbefore, hslots, hsentences⟩

end Grammar

end VoiceHub
