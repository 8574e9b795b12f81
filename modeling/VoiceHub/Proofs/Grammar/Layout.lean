import VoiceHub.Proofs.Grammar.Reading
import VoiceHub.Proofs.Text.Pieces

/-!
# The layout of the sentence text

Where no string has a newline in it, the lines of a definition are its header, its
variables with an empty line after them, and its sentences.  One more empty line parts
it from the next definition.  A definition without sentences ends where its sentences
would start, in an empty line of its own.
-/

namespace VoiceHub

open Text

/-! ## Strings without newlines -/

def Part.texts : Part → List String
  | .literal l => [l.text]
  | .choice c => c.name :: c.values
  | .range r => [r.name]
  | .reference r => [r.name]

def Definition.texts (d : Definition) : List String :=
  d.name :: (d.vars.map Variable.name ++ d.allSentences.flatten.flatMap Part.texts)

namespace Grammar

variable {slots : SlotDictionary} {intent : String} {d : Definition}

theorem isLine_intercalate (separator : String) {parts : List String} (h : IsLine separator)
    (hparts : ∀ part ∈ parts, IsLine part) : IsLine (separator.intercalate parts) := by
  intro hmem
  rcases mem_toList_intercalate hmem with hseparator | ⟨part, hpart, hx⟩
  · exact h hseparator
  · exact hparts part hpart hx

theorem isLine_intText (i : Int) : IsLine (Decimal.intText i) := by
  rw [IsLine, Decimal.toList_intText]
  exact Decimal.notMem_ofInt (by decide) (by decide) i

theorem isLine_resolve (slots : SlotDictionary) (hintent : IsLine intent) {c : Choice}
    (hname : IsLine c.name) :
    IsLine ((slots.resolve ⟨intent, c⟩).getD c.name) := by
  cases hresolve : slots.resolve ⟨intent, c⟩ with
  | none => exact hname
  | some name =>
      rcases (SlotDictionary.find?_of_resolve hresolve).2 with rfl | rfl
      · exact hname
      · exact isLine_append.mpr ⟨isLine_append.mpr ⟨hintent, by decide⟩, hname⟩

theorem isLine_plainText (slots : SlotDictionary) (hintent : IsLine intent) {part : Part}
    (h : ∀ text ∈ part.texts, IsLine text) : IsLine (plainText slots intent part) := by
  cases part with
  | literal l =>
      have htext : IsLine l.text := h _ List.mem_cons_self
      cases hlabel : l.substitute <;> simp +decide [plainText, renderLiteral, hlabel, htext]
  | choice c =>
      obtain ⟨hname, hvalues⟩ := List.forall_mem_cons.mp h
      have hslot := isLine_resolve slots hintent hname
      have hlisted := isLine_intercalate " | " (by decide) hvalues
      cases hlarge : c.isLarge <;> cases hreturned : c.returned <;>
        simp +decide [plainText, renderChoice, braced, hlarge, hreturned, hslot, hlisted, hname]
  | range r =>
      have hname : IsLine r.name := h _ List.mem_cons_self
      cases hreturned : r.returned <;>
        simp +decide [plainText, renderRange, braced, hreturned, isLine_intText, hname]
  | reference r =>
      have hname : IsLine r.name := h _ List.mem_cons_self
      cases hreturned : r.returned <;>
        simp +decide [plainText, renderReference, braced, hreturned, hname]

theorem isLine_renderPart (hintent : IsLine intent) {part : Part}
    (h : ∀ text ∈ part.texts, IsLine text) : IsLine (renderPart slots intent part) := by
  have hplain := isLine_plainText slots hintent h
  rw [renderPart_eq]
  split <;> simp +decide [hplain]

theorem isLine_renderSentence (hintent : IsLine intent) {sentence : Sentence}
    (h : ∀ part ∈ sentence, ∀ text ∈ part.texts, IsLine text) :
    IsLine (renderSentence slots intent sentence) := by
  refine isLine_intercalate " " (by decide) fun text htext => ?_
  obtain ⟨part, hpart, rfl⟩ := List.mem_map.mp htext
  exact isLine_renderPart hintent (h part hpart)

section Definitions

variable (hlines : ∀ text ∈ d.texts, IsLine text)

include hlines

theorem isLine_name : IsLine d.name := hlines _ List.mem_cons_self

theorem isLine_of_mem_allSentences {sentence : Sentence} (h : sentence ∈ d.allSentences) :
    IsLine (renderSentence slots d.name sentence) := by
  refine isLine_renderSentence (isLine_name hlines) fun part hpart text htext => ?_
  refine hlines text (List.mem_cons_of_mem _ (List.mem_append_right _ ?_))
  exact List.mem_flatMap.mpr ⟨part, List.mem_flatten.mpr ⟨sentence, h, hpart⟩, htext⟩

theorem isLine_renderVariable {v : Variable} (h : v ∈ d.vars) :
    IsLine (renderVariable slots d.name v) := by
  have hname : IsLine v.name :=
    hlines _ (List.mem_cons_of_mem _ (List.mem_append_left _ (List.mem_map_of_mem h)))
  have hbranches : ∀ text ∈ v.sentences.map (renderSentence slots d.name), IsLine text := by
    intro text htext
    obtain ⟨sentence, hsentence, rfl⟩ := List.mem_map.mp htext
    exact isLine_of_mem_allSentences hlines
      (Definition.mem_allSentences.mpr (.inr ⟨v, h, hsentence⟩))
  have hbars := isLine_intercalate "|" (by decide) hbranches
  have hjoined := isLine_intercalate "" (by decide) hbranches
  unfold renderVariable
  dsimp only
  split <;> simp +decide [hname, hbars, hjoined]

end Definitions

/-! ## The lines of a definition -/

def headerLine (d : Definition) : String := "[" ++ d.name ++ "]"

theorem headerLine_ne_empty (d : Definition) : headerLine d ≠ "" := by
  simp [headerLine]

theorem lines_renderDefinition (hlines : ∀ text ∈ d.texts, IsLine text) :
    lines (renderDefinition slots d) =
      headerLine d :: (d.vars.map (renderVariable slots d.name) ++
        ((if d.vars = [] then [] else [""]) ++
          if d.sentences = [] then [""]
          else d.sentences.map (renderSentence slots d.name))) := by
  have hheader : IsLine (headerLine d) := by
    simp +decide [headerLine, isLine_name hlines]
  have hvars : ∀ text ∈ d.vars.map (renderVariable slots d.name), IsLine text := by
    intro text htext
    obtain ⟨v, hv, rfl⟩ := List.mem_map.mp htext
    exact isLine_renderVariable hlines hv
  have hsentences : ∀ text ∈ d.sentences.map (renderSentence slots d.name), IsLine text := by
    intro text htext
    obtain ⟨sentence, hsentence, rfl⟩ := List.mem_map.mp htext
    exact isLine_of_mem_allSentences hlines (Definition.mem_allSentences.mpr (.inl hsentence))
  have hopening : "[" ++ d.name ++ "]\n" = headerLine d ++ "\n" := by
    change "[" ++ d.name ++ ("]" ++ "\n") = _
    exact String.append_assoc.symm
  have htext : renderDefinition slots d = headerLine d ++ "\n" ++
      (String.join ((d.vars.map (renderVariable slots d.name)).map (· ++ "\n")) ++
        ((if d.vars = [] then "" else "\n") ++
          "\n".intercalate (d.sentences.map (renderSentence slots d.name)))) := by
    simp only [renderDefinition, hopening, List.isEmpty_iff, List.map_map, String.append_assoc]
    rfl
  have hgap (body : String) : lines ((if d.vars = [] then "" else "\n") ++ body) =
      (if d.vars = [] then [] else [""]) ++ lines body := by
    split
    · rw [String.empty_append, List.nil_append]
    · have hempty : IsLine "" := by decide
      exact lines_cons hempty body
  have hbody : lines ("\n".intercalate (d.sentences.map (renderSentence slots d.name))) =
      if d.sentences = [] then [""] else d.sentences.map (renderSentence slots d.name) := by
    split
    · next hnone => simp [hnone, lines]
    · next hsome => exact lines_intercalate hsentences (by simpa using hsome)
  rw [htext, lines_cons hheader, lines_join hvars, hgap, hbody]

def strayLines (d : Definition) : Nat :=
  if d.sentences ≠ [] then 0 else if d.vars = [] then 1 else 2

theorem strayLines_eq_zero_iff : strayLines d = 0 ↔ d.sentences ≠ [] := by
  unfold strayLines
  split
  · next h => simp [h]
  · next h => split <;> simp [h]

theorem renderVariable_ne_empty (v : Variable) : renderVariable slots intent v ≠ "" := by
  unfold renderVariable
  dsimp only
  split <;> simp

theorem exists_last_line (hlines : ∀ text ∈ d.texts, IsLine text)
    (hsentences : ∀ sentence ∈ d.sentences, renderSentence slots d.name sentence ≠ "") :
    ∃ above last, last ≠ "" ∧
      lines (renderDefinition slots d) =
        above ++ last :: List.replicate (strayLines d) "" := by
  rw [lines_renderDefinition hlines, strayLines]
  -- the last line with text is the header, the last variable or the last sentence
  rcases List.eq_nil_or_concat d.sentences with hnone | ⟨front, sentence, hsome⟩
  · rcases List.eq_nil_or_concat d.vars with hbare | ⟨front, v, hvars⟩
    · refine ⟨[], headerLine d, headerLine_ne_empty d, ?_⟩
      simp [hnone, hbare]
    · refine ⟨headerLine d :: front.map (renderVariable slots d.name),
        renderVariable slots d.name v, renderVariable_ne_empty v, ?_⟩
      simp [hnone, hvars, List.replicate]
  · refine ⟨headerLine d :: (d.vars.map (renderVariable slots d.name) ++
        ((if d.vars = [] then [] else [""]) ++ front.map (renderSentence slots d.name))),
      renderSentence slots d.name sentence, hsentences _ (by simp [hsome]), ?_⟩
    simp [hsome]

/-! ## The lines of several definitions -/

theorem renderDefinitions_singleton (slots : SlotDictionary) (d : Definition) :
    renderDefinitions slots [d] = renderDefinition slots d :=
  String.intercalate_singleton ..

def linesAbove (slots : SlotDictionary) (ds : List Definition) : List String :=
  ds.flatMap fun d => lines (renderDefinition slots d) ++ [""]

theorem linesAbove_singleton (slots : SlotDictionary) (d : Definition) :
    linesAbove slots [d] = lines (renderDefinition slots d) ++ [""] :=
  List.flatMap_singleton ..

theorem lines_renderDefinitions (slots : SlotDictionary) (before : List Definition)
    (d : Definition) (after : List Definition) :
    lines (renderDefinitions slots (before ++ d :: after)) =
      linesAbove slots before ++ lines (renderDefinitions slots (d :: after)) := by
  induction before with
  | nil => rfl
  | cons first before ih =>
      -- the first newline ends the definition, the second one an empty line
      have hblank : "\n\n" = "\n" ++ ("" ++ "\n") := rfl
      have hcut : renderDefinitions slots (first :: (before ++ d :: after)) =
          renderDefinition slots first ++ "\n" ++
            ("" ++ "\n" ++ renderDefinitions slots (before ++ d :: after)) := by
        rw [renderDefinitions, List.map_cons,
          String.intercalate_cons_of_ne_nil (by simp), hblank]
        simp only [String.append_assoc]
        rfl
      rw [List.cons_append, hcut, lines_append_newline, lines_cons (by decide), ih, linesAbove,
        linesAbove, List.flatMap_cons]
      simp

/-! ## Between two definitions -/

/-- Below the definitions before it, `d` is written up to its last line that is not empty.
So many empty lines follow, and then the header of `e`. -/
def Spaced (slots : SlotDictionary) (text : String) (before : List Definition)
    (d e : Definition) (n : Nat) : Prop :=
  ∃ below, lines text = linesAbove slots before ++
    (written (lines (renderDefinition slots d)) ++
      (List.replicate n "" ++ headerLine e :: below))

/-- No newline at the end, and one empty line between any two neighbours. -/
structure Tidy (slots : SlotDictionary) (ds : List Definition) (text : String) : Prop where
  closed : endsLine text = false
  spaced : ∀ before d e after, ds = before ++ d :: e :: after → Spaced slots text before d e 1

theorem exists_lines_eq_headerLine_cons (slots : SlotDictionary)
    (hlines : ∀ text ∈ d.texts, IsLine text) (ds : List Definition) :
    ∃ below, lines (renderDefinitions slots (d :: ds)) = headerLine d :: below := by
  cases ds with
  | nil =>
      rw [renderDefinitions_singleton, lines_renderDefinition hlines]
      exact ⟨_, rfl⟩
  | cons e ds =>
      rw [← List.singleton_append, lines_renderDefinitions, linesAbove_singleton,
        lines_renderDefinition hlines]
      exact ⟨_, rfl⟩

section Layout

variable {ds : List Definition} (hlines : ∀ d ∈ ds, ∀ text ∈ d.texts, IsLine text)
  (hsentences : ∀ d ∈ ds, ∀ sentence ∈ d.sentences,
    renderSentence slots d.name sentence ≠ "")

include hlines hsentences

theorem spaced_renderDefinitions {before after : List Definition} {e : Definition}
    (hds : ds = before ++ d :: e :: after) :
    Spaced slots (renderDefinitions slots ds) before d e (strayLines d + 1) := by
  subst hds
  obtain ⟨above, last, hlast, hd⟩ :=
    exists_last_line (hlines d (by simp)) (hsentences d (by simp))
  obtain ⟨below, he⟩ := exists_lines_eq_headerLine_cons slots (hlines e (by simp)) after
  refine ⟨below, ?_⟩
  rw [lines_renderDefinitions, ← List.singleton_append, lines_renderDefinitions, he,
    linesAbove_singleton, hd, written_of_ne_empty hlast]
  simp [List.replicate_succ']

theorem endsLine_renderDefinitions_iff {before : List Definition} (hds : ds = before ++ [d]) :
    endsLine (renderDefinitions slots ds) = true ↔ d.sentences = [] := by
  subst hds
  obtain ⟨above, last, hlast, hd⟩ :=
    exists_last_line (hlines d (by simp)) (hsentences d (by simp))
  have htext : lines (renderDefinitions slots (before ++ [d])) =
      (linesAbove slots before ++ above) ++ last :: List.replicate (strayLines d) "" := by
    rw [lines_renderDefinitions, renderDefinitions_singleton, hd, List.append_assoc]
  rw [endsLine_iff_of_lines htext hlast, ne_eq, strayLines_eq_zero_iff, not_not]

theorem tidy_renderDefinitions_iff :
    Tidy slots ds (renderDefinitions slots ds) ↔ ∀ d ∈ ds, d.sentences ≠ [] := by
  constructor
  · intro htidy d hd
    obtain ⟨before, after, hds⟩ := List.append_of_mem hd
    cases after with
    | nil =>
        rw [ne_eq, ← endsLine_renderDefinitions_iff hlines hsentences hds, htidy.closed]
        exact Bool.false_ne_true
    | cons e after =>
        obtain ⟨below, hone⟩ := htidy.spaced before d e after hds
        obtain ⟨below', hall⟩ := spaced_renderDefinitions hlines hsentences hds
        rw [hone, List.append_cancel_left_eq, List.append_cancel_left_eq] at hall
        have hcount := blank_lines_inj (headerLine_ne_empty e) (headerLine_ne_empty e) hall
        exact strayLines_eq_zero_iff.mp (Nat.succ.inj hcount).symm
  · intro hall
    refine ⟨?_, fun before d e after hds => ?_⟩
    · rcases List.eq_nil_or_concat ds with rfl | ⟨before, d, hds⟩
      · rfl
      · rw [List.concat_eq_append] at hds
        rw [← Bool.not_eq_true, endsLine_renderDefinitions_iff hlines hsentences hds]
        exact hall d (by simp [hds])
    · have hspaced := spaced_renderDefinitions hlines hsentences hds
      rwa [strayLines_eq_zero_iff.mpr (hall d (by simp [hds]))] at hspaced

end Layout

/-- The text is laid out as it should if and only if every definition in it has a
sentence.  A definition without one leaves its own empty lines before the next. -/
theorem tidy_iff_sentences {definitions : List Definition} {g : Grammar}
    (h : compile definitions = .ok g)
    (hlines : ∀ d ∈ definitions, d.isNamed = true → ∀ text ∈ d.texts, IsLine text)
    (hsentences : ∀ d ∈ definitions, d.isNamed = true → ∀ sentence ∈ d.sentences,
      renderSentence g.slots d.name sentence ≠ "") :
    (Tidy g.slots (definitions.filter Definition.isNamed) g.sentences ↔
        ∀ d ∈ definitions, d.isNamed = true → d.sentences ≠ []) ∧
      ∀ before d e after, definitions.filter Definition.isNamed = before ++ d :: e :: after →
        Spaced g.slots g.sentences before d e (strayLines d + 1) := by
  have hnamed {p : Definition → Prop}
      (hall : ∀ d ∈ definitions, d.isNamed = true → p d) :
      ∀ d ∈ definitions.filter Definition.isNamed, p d := by
    intro d hd
    obtain ⟨hmem, hisNamed⟩ := List.mem_filter.mp hd
    exact hall d hmem hisNamed
  rw [(compile_eq_ok_iff.mp h).2]
  refine ⟨?_, fun before d e after hds =>
    spaced_renderDefinitions (hnamed hlines) (hnamed hsentences) hds⟩
  rw [tidy_renderDefinitions_iff (hnamed hlines) (hnamed hsentences)]
  simp only [List.mem_filter, and_imp]

theorem tidy_iff_sentences_crossed :
    compile crossedDefinitions = .ok crossedGrammar ∧
      (∀ d ∈ crossedDefinitions, d.isNamed = true → d.sentences ≠ []) ∧
      Tidy crossedGrammar.slots (crossedDefinitions.filter Definition.isNamed)
        crossedGrammar.sentences := by
  have hcompile : compile crossedDefinitions = .ok crossedGrammar := rfl
  have hall : ∀ d ∈ crossedDefinitions, d.isNamed = true → d.sentences ≠ [] := by decide
  have htidy := tidy_iff_sentences hcompile (by decide) (by decide)
  exact ⟨hcompile, hall, htidy.1.mpr hall⟩

def bareDefinitions : List Definition := [{ name := "Go" }, { name := "Stay" }]

def bareGrammar : Grammar where
  slots := Dict.empty
  sentences := "[Go]\n\n\n[Stay]\n"

/-- Without sentences there are two empty lines in between, and a newline at the end. -/
theorem not_tidy_bare :
    compile bareDefinitions = .ok bareGrammar ∧
      (∀ d ∈ bareDefinitions, ∀ text ∈ d.texts, IsLine text) ∧
      (∀ d ∈ bareDefinitions, d.sentences = [] ∧ d.vars = []) ∧
      endsLine bareGrammar.sentences = true ∧
      ¬ Spaced bareGrammar.slots bareGrammar.sentences [] { name := "Go" } { name := "Stay" } 1 ∧
      ¬ Tidy bareGrammar.slots bareDefinitions bareGrammar.sentences := by
  have hends : endsLine bareGrammar.sentences = true := by decide
  refine ⟨rfl, by decide, by decide, hends, ?_, fun htidy => ?_⟩
  · rintro ⟨below, hbelow⟩
    have hlines : lines bareGrammar.sentences = ["[Go]", "", "", "[Stay]", ""] := by decide
    have hwritten : written (lines (renderDefinition bareGrammar.slots { name := "Go" })) =
        ["[Go]"] := by decide
    rw [hlines, hwritten] at hbelow
    simp [linesAbove, headerLine] at hbelow
  · rw [htidy.closed] at hends
    contradiction

end Grammar

end VoiceHub
