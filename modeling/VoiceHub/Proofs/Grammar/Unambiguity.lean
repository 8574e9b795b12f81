import Mathlib.Data.List.Forall2
import VoiceHub.Proofs.Grammar.Reading

/-!
# No two sentences share a text

A part ends where the next one begins, so reading goes through a whole sentence
part by part.  Two sentences of an intent that are written alike then differ at
most in the names of values that do not come back.
-/

namespace VoiceHub

namespace Grammar

variable {slots : SlotDictionary} {intent : String}

theorem renderPart_eq_cons {part : Part} (h : part.IsClear) :
    ∃ x xs, (renderPart slots intent part).toList = x :: xs ∧ x ≠ '\x7b' := by
  obtain ⟨x, xs, hchars, -, hbrace⟩ := @plainText_eq_cons slots intent part h
  rw [renderPart_eq]
  cases part.isOptional with
  | true => exact ⟨'[', x :: xs ++ [']'], by simp [hchars], by decide⟩
  | false => exact ⟨x, xs, hchars, hbrace⟩

def afterFirst (slots : SlotDictionary) (intent : String) (parts : Sentence) : List Char :=
  parts.flatMap fun part => ' ' :: (renderPart slots intent part).toList

theorem toList_renderSentence_cons (part : Part) (parts : Sentence) :
    (renderSentence slots intent (part :: parts)).toList =
      (renderPart slots intent part).toList ++ afterFirst slots intent parts := by
  induction parts generalizing part with
  | nil => simp [renderSentence, afterFirst]
  | cons next parts ih =>
      have hne : (next :: parts).map (renderPart slots intent) ≠ [] := by simp
      have hnext := ih next
      rw [renderSentence] at hnext
      rw [renderSentence, List.map_cons, String.intercalate_cons_of_ne_nil hne,
        String.toList_append, String.toList_append, hnext]
      simp [afterFirst]

theorem afterFirst_cons (part : Part) (parts : Sentence) :
    afterFirst slots intent (part :: parts) =
      ' ' :: (renderSentence slots intent (part :: parts)).toList := by
  rw [toList_renderSentence_cons]
  rfl

theorem trails_afterFirst {parts : Sentence} (h : ∀ part ∈ parts, part.IsClear) :
    Trails (afterFirst slots intent parts) := by
  cases parts with
  | nil => exact .nothing
  | cons part parts =>
      obtain ⟨x, xs, hchars, hbrace⟩ :=
        @renderPart_eq_cons slots intent part (h part List.mem_cons_self)
      exact .blank (by simpa [hchars] using hbrace)

/-- The parts can be read off a text in their order. -/
theorem matches_of_afterFirst_eq (hintent : IsWord intent) {parts others : Sentence}
    (hparts : ∀ part ∈ parts, part.IsClear ∧ Placed slots intent part)
    (hothers : ∀ part ∈ others, part.IsClear ∧ Placed slots intent part)
    (h : afterFirst slots intent parts = afterFirst slots intent others) :
    List.Forall₂ Part.Matches parts others := by
  induction parts generalizing others with
  | nil =>
      cases others with
      | nil => exact .nil
      | cons other others => simp [afterFirst] at h
  | cons part parts ih =>
      cases others with
      | nil => simp [afterFirst] at h
      | cons other others =>
          rw [List.forall_mem_cons] at hparts hothers
          have hread := readPart_renderPart hparts.1.1 hintent hparts.1.2
            (@trails_afterFirst slots intent _ fun p hp => (hparts.2 p hp).1)
          have hread' := readPart_renderPart hothers.1.1 hintent hothers.1.2
            (@trails_afterFirst slots intent _ fun p hp => (hothers.2 p hp).1)
          -- both texts are read by one reader, which stops where the first part does
          have hsame := (List.cons.inj h).2
          have hboth := hread.symm.trans ((congrArg (readPart slots) hsame).trans hread')
          rw [Prod.mk.injEq] at hboth
          exact .cons (Part.matches_of_told_eq hboth.1) (ih hparts.2 hothers.2 hboth.2)

theorem renderSentence_cons_ne_empty {part : Part} (h : part.IsClear) (parts : Sentence) :
    renderSentence slots intent (part :: parts) ≠ "" := by
  obtain ⟨x, xs, hchars, -⟩ := @renderPart_eq_cons slots intent part h
  rw [ne_eq, ← String.toList_eq_nil_iff, toList_renderSentence_cons, hchars]
  simp

theorem matches_of_renderSentence_eq (hintent : IsWord intent) {sentence other : Sentence}
    (hsentence : ∀ part ∈ sentence, part.IsClear ∧ Placed slots intent part)
    (hother : ∀ part ∈ other, part.IsClear ∧ Placed slots intent part)
    (h : renderSentence slots intent sentence = renderSentence slots intent other) :
    List.Forall₂ Part.Matches sentence other := by
  refine matches_of_afterFirst_eq hintent hsentence hother ?_
  cases sentence with
  | nil =>
      cases other with
      | nil => rfl
      | cons part parts =>
          exact absurd h.symm (renderSentence_cons_ne_empty (hother _ List.mem_cons_self).1 _)
  | cons part parts =>
      cases other with
      | nil =>
          exact absurd h (renderSentence_cons_ne_empty (hsentence _ List.mem_cons_self).1 _)
      | cons part' parts' => rw [afterFirst_cons, afterFirst_cons, h]

theorem placed_of_compile {definitions : List Definition} {g : Grammar}
    (h : compile definitions = .ok g) {d : Definition} (hd : d ∈ definitions)
    (hnamed : d.isNamed = true) {sentence : Sentence} (hsentence : sentence ∈ d.allSentences)
    {part : Part} (hpart : part ∈ sentence) : Placed g.slots d.name part := by
  rintro c rfl hlarge
  have hchoice : c ∈ d.choices := Definition.mem_choices.mpr ⟨sentence, hsentence, hpart⟩
  obtain ⟨slot, hslot, -⟩ := exists_resolve_of_mem_namedWalk h
    (mem_namedWalk.mpr ⟨d, hd, hnamed, c, hchoice, hlarge, rfl⟩)
  exact ⟨slot, hslot⟩

/-- Sentences of one intent with the same text agree part by part in all that
the text is to tell the backend. -/
theorem sentence_text_unambiguous {definitions : List Definition} {g : Grammar}
    (h : compile definitions = .ok g) {d d' : Definition} (hd : d ∈ definitions)
    (hd' : d' ∈ definitions) (hname : d'.name = d.name) (hintent : IsWord d.name)
    {sentence other : Sentence} (hsentence : sentence ∈ d.allSentences)
    (hother : other ∈ d'.allSentences) (hclear : ∀ part ∈ sentence, part.IsClear)
    (hclear' : ∀ part ∈ other, part.IsClear)
    (htext : renderSentence g.slots d.name sentence = renderSentence g.slots d'.name other) :
    List.Forall₂ Part.Matches sentence other := by
  have hnamed : ∀ {e : Definition}, e.name = d.name → e.isNamed = true := by
    intro e he
    simpa [Definition.isNamed, he] using hintent.1
  rw [hname] at htext
  refine matches_of_renderSentence_eq hintent (fun part hpart => ⟨hclear part hpart, ?_⟩)
    (fun part hpart => ⟨hclear' part hpart, ?_⟩) htext
  · exact placed_of_compile h hd (hnamed rfl) hsentence hpart
  · rw [← hname]
    exact placed_of_compile h hd' (hnamed hname) hother hpart

/-- The rooms of the two sentences share a slot, named after one of them and
after the intent of the other. -/
def lightSentence (room : String) : Sentence :=
  [.literal { text := "light", substitute := true },
   .choice { name := room, returned := false, values := roomNames },
   .choice
    { name := "How", returned := true, values := ["very bright", "dim"], isOptional := true },
   .range { name := "Minutes", returned := true, lower := -5, upper := 10 },
   .reference { name := "Please", returned := true, isOptional := true }]

def sharedDefinitions : List Definition :=
  [{ name := "Go", sentences := [[.choice goRoom]] },
   { name := "Light", sentences := [lightSentence "Light_Room"] },
   { name := "Light", vars := [{ name := "Where", sentences := [lightSentence "Room"] }] }]

def sharedSlots : SlotDictionary :=
  Dict.ofList [("Room", floorNames), ("Light_Room", roomNames)]

def lightText : String :=
  "light: $Light_Room [(very bright | dim)\x7bHow\x7d] (-5..10)\x7bMinutes!int\x7d " ++
    "[<Please> \x7bPlease\x7d]"

theorem renderRange_minutes :
    renderRange { name := "Minutes", returned := true, lower := -5, upper := 10 } =
      "(-5..10)\x7bMinutes!int\x7d" := by
  have hlower : Decimal.ofInt (-5) = ['-', '5'] := by
    change '-' :: Decimal.digits 5 = _
    rw [Decimal.digits]
    rfl
  have hupper : Decimal.ofInt 10 = ['1', '0'] := by
    change Decimal.digits 10 = _
    rw [Decimal.digits, Decimal.digits]
    rfl
  rw [renderRange, Decimal.intText, Decimal.intText, hlower, hupper]
  rfl

theorem renderSentence_lightSentence {room : String}
    (h : renderChoice sharedSlots "Light"
      { name := room, returned := false, values := roomNames } = "$Light_Room") :
    renderSentence sharedSlots "Light" (lightSentence room) = lightText := by
  simp only [renderSentence, lightSentence, List.map_cons, List.map_nil, renderPart, h,
    renderRange_minutes]
  rfl

theorem sentence_text_unambiguous_shared :
    ∃ g, compile sharedDefinitions = .ok g ∧
      (∀ part ∈ lightSentence "Light_Room", part.IsClear) ∧
      (∀ part ∈ lightSentence "Room", part.IsClear) ∧
      renderSentence g.slots "Light" (lightSentence "Light_Room") = lightText ∧
      renderSentence g.slots "Light" (lightSentence "Room") = lightText ∧
      List.Forall₂ Part.Matches (lightSentence "Light_Room") (lightSentence "Room") := by
  let g : Grammar := ⟨sharedSlots, renderDefinitions sharedSlots sharedDefinitions⟩
  have hcompile : compile sharedDefinitions = .ok g := compile_eq_ok_iff.mpr ⟨rfl, rfl⟩
  have htext : renderSentence g.slots "Light" (lightSentence "Light_Room") = lightText :=
    renderSentence_lightSentence rfl
  have htext' : renderSentence g.slots "Light" (lightSentence "Room") = lightText :=
    renderSentence_lightSentence rfl
  have hclear : ∀ part ∈ lightSentence "Light_Room", part.IsClear := by decide
  have hclear' : ∀ part ∈ lightSentence "Room", part.IsClear := by decide
  have hsecond : sharedDefinitions[1] ∈ sharedDefinitions := by decide
  have hthird : sharedDefinitions[2] ∈ sharedDefinitions := by decide
  have hword : IsWord "Light" := by decide
  exact ⟨g, hcompile, hclear, hclear', htext, htext',
    sentence_text_unambiguous hcompile hsecond hthird rfl hword (by decide) (by decide)
      hclear hclear' (htext.trans htext'.symm)⟩

end Grammar

end VoiceHub
