import VoiceHub.Grammar
import VoiceHub.Proofs.Slots.Growth

/-!
# The walk over named definitions

Compilation enters the large choices of the named definitions one after another
and writes the text with the dictionary that comes out.  It fails exactly if the
walk does.
-/

namespace VoiceHub

theorem Choice.isLarge_iff {c : Choice} :
    c.isLarge = true ↔ 5 < c.values.length :=
  decide_eq_true_iff

theorem Definition.mem_allSentences {d : Definition} {sentence : Sentence} :
    sentence ∈ d.allSentences ↔
      sentence ∈ d.sentences ∨ ∃ v ∈ d.vars, sentence ∈ v.sentences := by
  simp [allSentences]

theorem Definition.mem_choices {d : Definition} {c : Choice} :
    c ∈ d.choices ↔
      ∃ sentence ∈ d.allSentences, Part.choice c ∈ sentence := by
  have hchoice : ∀ part, Part.choice? part = some c ↔ part = .choice c := by
    rintro (_ | _ | _ | _) <;> simp [Part.choice?]
  simp only [choices, List.mem_filterMap, List.mem_flatten, hchoice]
  constructor
  · rintro ⟨_, ⟨sentence, hsentence, hpart⟩, rfl⟩
    exact ⟨sentence, hsentence, hpart⟩
  · rintro ⟨sentence, hsentence, hpart⟩
    exact ⟨_, ⟨sentence, hsentence, hpart⟩, rfl⟩

/-- The choices that get a slot, in the order in which slots are given. -/
def namedWalk (definitions : List Definition) : List Occurrence :=
  walk (definitions.filter Definition.isNamed)

theorem mem_namedWalk {definitions : List Definition} {o : Occurrence} :
    o ∈ namedWalk definitions ↔
      ∃ d ∈ definitions, d.isNamed = true ∧
        ∃ c ∈ d.choices, 5 < c.values.length ∧ o = ⟨d.name, c⟩ := by
  simp only [namedWalk, walk, Definition.occurrences, List.mem_flatMap,
    List.mem_filter, List.mem_map, Choice.isLarge_iff]
  constructor
  · rintro ⟨d, ⟨hd, hnamed⟩, c, ⟨hc, hlarge⟩, rfl⟩
    exact ⟨d, hd, hnamed, c, hc, hlarge, rfl⟩
  · rintro ⟨d, hd, hnamed, c, hc, hlarge, rfl⟩
    exact ⟨d, ⟨hd, hnamed⟩, c, ⟨hc, hlarge⟩, rfl⟩

theorem map_namedWalk {α : Type} (f : Occurrence → α)
    (definitions : List Definition) :
    (namedWalk definitions).map f =
      (definitions.filter Definition.isNamed).flatMap fun d =>
        (d.choices.filter Choice.isLarge).map fun c => f ⟨d.name, c⟩ := by
  simp only [namedWalk, walk, Definition.occurrences, List.map_flatMap,
    List.map_map]
  rfl

theorem namedWalk_append (ds es : List Definition) :
    namedWalk (ds ++ es) = namedWalk ds ++ namedWalk es := by
  simp [namedWalk, walk]

namespace Grammar

variable {definitions : List Definition} {g : Grammar} {e : GrammarError}

theorem compile_eq (definitions : List Definition) :
    compile definitions =
      (SlotDictionary.enterAll Dict.empty (namedWalk definitions)).map
        fun slots =>
          { slots
            sentences :=
              renderDefinitions slots
                (definitions.filter Definition.isNamed) } := rfl

theorem compile_eq_ok_iff :
    compile definitions = .ok g ↔
      SlotDictionary.enterAll Dict.empty (namedWalk definitions) =
          .ok g.slots ∧
        g.sentences =
          renderDefinitions g.slots
            (definitions.filter Definition.isNamed) := by
  obtain ⟨slots, sentences⟩ := g
  rw [compile_eq]
  cases SlotDictionary.enterAll Dict.empty (namedWalk definitions) with
  | error e => simp [Except.map]
  | ok entered =>
      simp only [Except.map, Except.ok.injEq, Grammar.mk.injEq]
      constructor
      · rintro ⟨rfl, rfl⟩
        exact ⟨rfl, rfl⟩
      · rintro ⟨rfl, rfl⟩
        exact ⟨rfl, rfl⟩

theorem compile_eq_error_iff :
    compile definitions = .error e ↔
      SlotDictionary.enterAll Dict.empty (namedWalk definitions) =
        .error e := by
  rw [compile_eq]
  cases SlotDictionary.enterAll Dict.empty (namedWalk definitions) <;>
    simp [Except.map]

end Grammar

end VoiceHub
