import VoiceHub.Proofs.Numeral
import VoiceHub.Proofs.Grammar.References
import VoiceHub.Proofs.Text.Pieces

/-!
# Sentence texts have one reading

Parts are joined by single blanks, although choices and labels have blanks of
their own.  A part can be read off the front of a text all the same: its first
character tells what kind it is, and each piece of it runs up to a known mark.
The reader below undoes the writing of a part, up to the name of a value that
does not come back, which the text never shows.
-/

namespace VoiceHub

/-! ## What a text tells -/

namespace Grammar

def marks : List Char :=
  [' ', '(', ')', '[', ']', '\x7b', '\x7d', '<', '>', '|', ':', '$', '!']

def IsWord (text : String) : Prop := text ≠ "" ∧ ∀ x ∈ text.toList, x ∉ marks

/-- Blanks may stand in a value; a full stop would make a range of it. -/
def IsValue (text : String) : Prop :=
  ∀ x ∈ text.toList, x ≠ '.' ∧ (x ∈ marks → x = ' ')

instance (text : String) : Decidable (IsWord text) :=
  @instDecidableAnd _ _ inferInstance (List.decidableBAll _ text.toList)

instance (text : String) : Decidable (IsValue text) :=
  List.decidableBAll _ text.toList

theorem IsWord.notMem {text : String} (h : IsWord text) {mark : Char}
    (hmark : mark ∈ marks) : mark ∉ text.toList :=
  fun hmem => h.2 mark hmem hmark

theorem IsValue.notMem {text : String} (h : IsValue text) {mark : Char}
    (hmark : mark = '.' ∨ mark ∈ marks) (hblank : mark ≠ ' ') : mark ∉ text.toList := by
  intro hmem
  obtain ⟨hstop, hmarks⟩ := h mark hmem
  exact hmark.elim hstop fun hmark => hblank (hmarks hmark)

end Grammar

namespace Part

open Grammar

def IsClear : Part → Prop
  | .literal l => IsWord l.text
  | .choice c => IsWord c.name ∧ c.values ≠ [] ∧ ∀ value ∈ c.values, IsValue value
  | .range r => IsWord r.name
  | .reference r => IsWord r.name

instance : DecidablePred IsClear
  | .literal l => inferInstanceAs (Decidable (IsWord l.text))
  | .choice c => inferInstanceAs (Decidable
      (IsWord c.name ∧ c.values ≠ [] ∧ ∀ value ∈ c.values, IsValue value))
  | .range r => inferInstanceAs (Decidable (IsWord r.name))
  | .reference r => inferInstanceAs (Decidable (IsWord r.name))

def told : Part → Part
  | .choice c => .choice { c with name := if c.returned then c.name else "" }
  | .range r => .range { r with name := if r.returned then r.name else "" }
  | part => part

/-- The parts differ at most in the names of values that do not come back. -/
inductive Matches : Part → Part → Prop
  | literal {l l' : Literal} (text : l.text = l'.text)
      (substitute : l.substitute = l'.substitute)
      (isOptional : l.isOptional = l'.isOptional) : Matches (.literal l) (.literal l')
  | choice {c c' : Choice} (values : c.values = c'.values)
      (returned : c.returned = c'.returned)
      (name : c.returned = true → c.name = c'.name)
      (isOptional : c.isOptional = c'.isOptional) : Matches (.choice c) (.choice c')
  | range {r r' : Range} (lower : r.lower = r'.lower) (upper : r.upper = r'.upper)
      (returned : r.returned = r'.returned)
      (name : r.returned = true → r.name = r'.name)
      (isOptional : r.isOptional = r'.isOptional) : Matches (.range r) (.range r')
  | reference {r r' : Reference} (name : r.name = r'.name)
      (returned : r.returned = r'.returned)
      (isOptional : r.isOptional = r'.isOptional) :
      Matches (.reference r) (.reference r')

theorem matches_of_told_eq {part other : Part} (h : part.told = other.told) :
    Matches part other := by
  cases part <;> cases other <;> simp only [told, reduceCtorEq] at h
  case literal.literal =>
    cases h
    exact .literal rfl rfl rfl
  case choice.choice c c' =>
    obtain ⟨hname, hreturned, hvalues, hisOptional⟩ :=
      Choice.mk.inj (Part.choice.inj h)
    refine .choice hvalues hreturned (fun hback => ?_) hisOptional
    rwa [← hreturned, if_pos hback, if_pos hback] at hname
  case range.range r r' =>
    obtain ⟨hname, hreturned, hlower, hupper, hisOptional⟩ :=
      Range.mk.inj (Part.range.inj h)
    refine .range hlower hupper hreturned (fun hback => ?_) hisOptional
    rwa [← hreturned, if_pos hback, if_pos hback] at hname
  case reference.reference =>
    cases h
    exact .reference rfl rfl rfl

end Part

namespace Grammar

open Text

variable {slots : SlotDictionary} {intent : String} {rest : List Char}

/-! ## Reading a part -/

def word (cs : List Char) : List Char := cs.takeWhile (· ∉ marks)

def afterWord (cs : List Char) : List Char := cs.dropWhile (· ∉ marks)

def readLabel : List Char → String × Bool × List Char
  | '\x7b' :: cs => (String.ofList (upTo '!' (upTo '\x7d' cs)), true, after '\x7d' cs)
  | cs => ("", false, cs)

def readInt : List Char → Int
  | '-' :: ds => -(Decimal.value ds)
  | ds => Decimal.value ds

def readValues (cs : List Char) : List String :=
  ((' ' :: cs ++ [' ']).splitOn '|').map fun piece => String.ofList piece.tail.dropLast

def readLiteral (text : String) (isOptional : Bool) : List Char → Part × List Char
  | ':' :: rest => (.literal { text, isOptional, substitute := true }, rest)
  | rest => (.literal { text, isOptional, substitute := false }, rest)

def readReference (name : String) (isOptional : Bool) : List Char → Part × List Char
  | ' ' :: '\x7b' :: cs =>
      (.reference { name, returned := true, isOptional }, after '\x7d' cs)
  | rest => (.reference { name, returned := false, isOptional }, rest)

def readPlain (slots : SlotDictionary) (isOptional : Bool) : List Char → Part × List Char
  | '$' :: cs =>
      let (name, returned, rest) := readLabel (afterWord cs)
      let values := (slots.find? (String.ofList (word cs))).getD []
      (.choice { name, returned, values, isOptional }, rest)
  | '(' :: cs =>
      let content := upTo ')' cs
      let (name, returned, rest) := readLabel (after ')' cs)
      if '.' ∈ content then
        let lower := readInt (upTo '.' content)
        let upper := readInt (after '.' content).tail
        (.range { name, returned, lower, upper, isOptional }, rest)
      else (.choice { name, returned, values := readValues content, isOptional }, rest)
  | '<' :: cs => readReference (String.ofList (upTo '>' cs)) isOptional (after '>' cs)
  | cs => readLiteral (String.ofList (word cs)) isOptional (afterWord cs)

def readPart (slots : SlotDictionary) : List Char → Part × List Char
  | '[' :: cs =>
      let (part, rest) := readPlain slots true cs
      (part, rest.tail)
  | cs => readPlain slots false cs

/-! ## Reading what was written -/

inductive Trails : List Char → Prop
  | nothing : Trails []
  | bracket (rest : List Char) : Trails (']' :: rest)
  | blank {rest : List Char} (h : rest.head? ≠ some '\x7b') : Trails (' ' :: rest)

theorem Trails.mem_marks (h : Trails rest) : ∀ x ∈ rest.head?, x ∈ marks := by
  cases h <;> simp [marks]

theorem Trails.head?_ne (h : Trails rest) {x : Char} (hblank : x ≠ ' ')
    (hbracket : x ≠ ']') : rest.head? ≠ some x := by
  cases h <;> simp [hblank.symm, hbracket.symm]

theorem word_append {text : String} (h : IsWord text)
    (hrest : ∀ x ∈ rest.head?, x ∈ marks) : word (text.toList ++ rest) = text.toList :=
  takeWhile_piece (by simpa using h.2) (by simpa using hrest)

theorem afterWord_append {text : String} (h : IsWord text)
    (hrest : ∀ x ∈ rest.head?, x ∈ marks) : afterWord (text.toList ++ rest) = rest :=
  dropWhile_piece (by simpa using h.2) (by simpa using hrest)

def labelText (returned : Bool) (label : String) : List Char :=
  if returned then '\x7b' :: label.toList ++ ['\x7d'] else []

theorem readLabel_of_head?_ne (h : rest.head? ≠ some '\x7b') :
    readLabel rest = ("", false, rest) := by
  unfold readLabel
  split
  · simp at h
  · rfl

theorem readLabel_labelText {name suffix : String} (hname : IsWord name)
    (hsuffix : suffix = "" ∨ suffix = "!int") (hrest : rest.head? ≠ some '\x7b')
    (returned : Bool) :
    readLabel (labelText returned (name ++ suffix) ++ rest) =
      (if returned then name else "", returned, rest) := by
  cases returned with
  | false => exact readLabel_of_head?_ne hrest
  | true =>
      have hclosed : '\x7d' ∉ (name ++ suffix).toList := by
        have hname' : '\x7d' ∉ name.toList := hname.notMem (by decide)
        rcases hsuffix with rfl | rfl <;> simpa using hname'
      have hbare : upTo '!' (name ++ suffix).toList = name.toList := by
        rw [String.toList_append]
        refine takeWhile_piece (fun x hx => ?_) ?_
        · simpa using ne_of_mem_of_not_mem hx (hname.notMem (by decide))
        · rcases hsuffix with rfl | rfl <;> simp
      change readLabel ('\x7b' :: ((name ++ suffix).toList ++ ['\x7d'] ++ rest)) = _
      rw [List.append_assoc, List.singleton_append, readLabel, upTo_append hclosed,
        after_append hclosed, hbare, String.ofList_toList]
      rfl

theorem readInt_ofInt (i : Int) : readInt (Decimal.ofInt i) = i := by
  cases i with
  | ofNat n =>
      change readInt (Decimal.digits n) = n
      unfold readInt
      split
      next ds hsign =>
          exact absurd (hsign ▸ List.mem_cons_self) (Decimal.minus_notMem_digits n)
      next => rw [Decimal.value_digits]
  | negSucc n => simp [readInt, Decimal.ofInt, Decimal.value_digits, Int.negSucc_eq]

theorem blank_intercalate_blank {pieces : List (List Char)} (h : pieces ≠ []) :
    ' ' :: [' ', '|', ' '].intercalate pieces ++ [' '] =
      ['|'].intercalate (pieces.map fun piece => ' ' :: piece ++ [' ']) := by
  induction pieces with
  | nil => contradiction
  | cons piece pieces ih =>
      by_cases hnil : pieces = []
      · simp [hnil]
      have hmapped : pieces.map (fun piece => ' ' :: piece ++ [' ']) ≠ [] := by
        simpa using hnil
      rw [List.map_cons, List.intercalate_cons_of_ne_nil hnil,
        List.intercalate_cons_of_ne_nil hmapped, ← ih hnil]
      simp

theorem mem_toList_intercalate {separator : String} {values : List String} {x : Char}
    (h : x ∈ (separator.intercalate values).toList) :
    x ∈ separator.toList ∨ ∃ value ∈ values, x ∈ value.toList := by
  induction values with
  | nil => simp at h
  | cons value values ih =>
      by_cases hnil : values = []
      · subst hnil
        exact .inr ⟨value, List.mem_cons_self, by simpa using h⟩
      rw [String.intercalate_cons_of_ne_nil hnil, String.toList_append,
        String.toList_append, List.mem_append, List.mem_append] at h
      rcases h with (hvalue | hseparator) | hrest
      · exact .inr ⟨value, List.mem_cons_self, hvalue⟩
      · exact .inl hseparator
      · refine (ih hrest).imp_right ?_
        rintro ⟨other, hother, hx⟩
        exact ⟨other, List.mem_cons_of_mem _ hother, hx⟩

/-- Between the brackets of a choice there are only its values, blanks and bars. -/
theorem notMem_values {values : List String} (h : ∀ value ∈ values, IsValue value)
    {mark : Char} (hmark : mark = '.' ∨ mark ∈ marks) (hblank : mark ≠ ' ')
    (hbar : mark ≠ '|') : mark ∉ (" | ".intercalate values).toList := by
  intro hmem
  rcases mem_toList_intercalate hmem with hmem | ⟨value, hvalue, hmem⟩
  · simp [hblank, hbar] at hmem
  · exact (h value hvalue).notMem hmark hblank hmem

theorem readValues_intercalate {values : List String} (hne : values ≠ [])
    (h : ∀ value ∈ values, '|' ∉ value.toList) :
    readValues (" | ".intercalate values).toList = values := by
  have hpieces : ∀ piece ∈ (values.map String.toList).map fun piece =>
      ' ' :: piece ++ [' '], '|' ∉ piece := by
    simpa using h
  rw [readValues, String.toList_intercalate]
  change List.map _ (List.splitOn '|'
    (' ' :: [' ', '|', ' '].intercalate (values.map String.toList) ++ [' '])) = values
  rw [blank_intercalate_blank (by simpa using hne),
    List.splitOn_intercalate '|' hpieces (by simpa using hne)]
  simp [Function.comp_def]

def plainText (slots : SlotDictionary) (intent : String) : Part → String
  | .literal l => renderLiteral l
  | .choice c => renderChoice slots intent c
  | .range r => renderRange r
  | .reference r => renderReference r

theorem renderPart_eq (part : Part) :
    renderPart slots intent part =
      if part.isOptional then "[" ++ plainText slots intent part ++ "]"
      else plainText slots intent part := by
  cases part <;> rfl

/-- The dictionary has a slot for the part, if it needs one. -/
def Placed (slots : SlotDictionary) (intent : String) (part : Part) : Prop :=
  ∀ c, part = .choice c → 5 < c.values.length →
    ∃ slot, slots.resolve ⟨intent, c⟩ = some slot

theorem IsWord.exists_cons {text : String} (h : IsWord text) :
    ∃ x xs, text.toList = x :: xs ∧ x ∉ marks := by
  cases hchars : text.toList with
  | nil => exact absurd (String.toList_eq_nil_iff.mp hchars) h.1
  | cons x xs => exact ⟨x, xs, rfl, h.2 x (by simp [hchars])⟩

theorem readPlain_word {text : String} (h : IsWord text)
    (hrest : ∀ x ∈ rest.head?, x ∈ marks) (isOptional : Bool) :
    readPlain slots isOptional (text.toList ++ rest) =
      readLiteral text isOptional rest := by
  obtain ⟨x, xs, hchars, hx⟩ := h.exists_cons
  unfold readPlain
  split
  case h_4 =>
    rw [word_append h hrest, afterWord_append h hrest, String.ofList_toList]
  all_goals
    rename_i heq
    rw [hchars, List.cons_append, List.cons.injEq] at heq
    exact absurd (heq.1 ▸ by decide) hx

theorem readPlain_literal {l : Literal} (h : IsWord l.text) (hrest : Trails rest) :
    readPlain slots l.isOptional ((renderLiteral l).toList ++ rest) =
      (.literal l, rest) := by
  obtain ⟨text, isOptional, substitute⟩ := l
  cases substitute with
  | false =>
      refine (readPlain_word h hrest.mem_marks isOptional).trans ?_
      cases hrest <;> rfl
  | true =>
      have htext : (renderLiteral ⟨text, isOptional, true⟩).toList ++ rest =
          text.toList ++ ':' :: rest := by
        simp [renderLiteral]
      rw [htext]
      exact readPlain_word h (by simp [marks]) isOptional

theorem readReference_of_trails (hrest : Trails rest) (name : String)
    (isOptional : Bool) :
    readReference name isOptional rest =
      (.reference { name, returned := false, isOptional }, rest) := by
  unfold readReference
  split
  next =>
      cases hrest with
      | blank hhead => simp at hhead
  next => rfl

theorem readPlain_reference {r : Reference} (h : IsWord r.name) (hrest : Trails rest) :
    readPlain slots r.isOptional ((renderReference r).toList ++ rest) =
      (.reference r, rest) := by
  obtain ⟨name, returned, isOptional⟩ := r
  have hopen : '>' ∉ name.toList := h.notMem (by decide)
  cases returned with
  | false =>
      have htext : (renderReference ⟨name, false, isOptional⟩).toList ++ rest =
          '<' :: (name.toList ++ '>' :: rest) := by
        simp [renderReference]
      rw [htext, readPlain, upTo_append hopen, after_append hopen, String.ofList_toList,
        readReference_of_trails hrest]
  | true =>
      have htext : (renderReference ⟨name, true, isOptional⟩).toList ++ rest =
          '<' :: (name.toList ++
            '>' :: ' ' :: '\x7b' :: (name.toList ++ '\x7d' :: rest)) := by
        simp [renderReference, braced]
      rw [htext, readPlain, upTo_append hopen, after_append hopen, String.ofList_toList,
        readReference, after_append (h.notMem (by decide))]

/-! Ranges and small choices both stand in round brackets; the full stops in
between tell them apart. -/

theorem readPlain_range {r : Range} (h : IsWord r.name) (hrest : Trails rest) :
    readPlain slots r.isOptional ((renderRange r).toList ++ rest) =
      (Part.told (.range r), rest) := by
  let content := Decimal.ofInt r.lower ++ '.' :: '.' :: Decimal.ofInt r.upper
  have htext : (renderRange r).toList ++ rest =
      '(' :: (content ++ ')' :: (labelText r.returned (r.name ++ "!int") ++ rest)) := by
    cases hreturned : r.returned <;>
      simp [renderRange, hreturned, labelText, braced, content]
  have hclosed : ∀ i, ')' ∉ Decimal.ofInt i := Decimal.notMem_ofInt rfl (by decide)
  have hcontent : ')' ∉ content := by
    simp [content, hclosed]
  have hlabel := readLabel_labelText h (.inr rfl)
    (hrest.head?_ne (by decide) (by decide)) r.returned
  have hlower : '.' ∉ Decimal.ofInt r.lower := Decimal.notMem_ofInt rfl (by decide) _
  rw [htext, readPlain, upTo_append hcontent, after_append hcontent, hlabel]
  dsimp only
  rw [if_pos (by simp [content]), upTo_append hlower, after_append hlower, List.tail_cons,
    readInt_ofInt, readInt_ofInt]
  rfl

theorem readPlain_small {c : Choice} (h : Part.IsClear (.choice c))
    (hsmall : c.values.length ≤ 5) (hrest : Trails rest) :
    readPlain slots c.isOptional ((renderChoice slots intent c).toList ++ rest) =
      (Part.told (.choice c), rest) := by
  obtain ⟨hname, hne, hvalues⟩ := h
  let content := (" | ".intercalate c.values).toList
  have htext : (renderChoice slots intent c).toList ++ rest =
      '(' :: (content ++ ')' :: (labelText c.returned (c.name ++ "") ++ rest)) := by
    rw [renderChoice_of_not_large hsmall]
    cases hreturned : c.returned <;> simp [labelText, braced, content]
  have hclosed : ')' ∉ content :=
    notMem_values hvalues (by decide) (by decide) (by decide)
  have hstop : '.' ∉ content :=
    notMem_values hvalues (by decide) (by decide) (by decide)
  have hbars : ∀ value ∈ c.values, '|' ∉ value.toList :=
    fun value hvalue => (hvalues value hvalue).notMem (by decide) (by decide)
  have hlabel := readLabel_labelText hname (.inl rfl)
    (hrest.head?_ne (by decide) (by decide)) c.returned
  rw [htext, readPlain, upTo_append hclosed, after_append hclosed, hlabel]
  dsimp only
  rw [if_neg hstop, readValues_intercalate hne hbars]
  rfl

theorem isWord_of_resolve {c : Choice} (hname : IsWord c.name) (hintent : IsWord intent)
    {slot : String} (h : slots.resolve ⟨intent, c⟩ = some slot) : IsWord slot := by
  rcases (SlotDictionary.find?_of_resolve h).2 with rfl | rfl
  · exact hname
  · refine ⟨?_, ?_⟩
    · simp [Occurrence.joinedName]
    · simp only [Occurrence.joinedName, String.toList_append, List.mem_append]
      rintro x ((hx | hx) | hx)
      · exact hintent.2 x hx
      · rw [show x = '_' from List.mem_singleton.mp hx]
        decide
      · exact hname.2 x hx

theorem readPlain_large {c : Choice} (h : Part.IsClear (.choice c)) (hintent : IsWord intent)
    (hlarge : 5 < c.values.length) {slot : String}
    (hslot : slots.resolve ⟨intent, c⟩ = some slot) (hrest : Trails rest) :
    readPlain slots c.isOptional ((renderChoice slots intent c).toList ++ rest) =
      (Part.told (.choice c), rest) := by
  have hword := isWord_of_resolve h.1 hintent hslot
  have hfind := (SlotDictionary.find?_of_resolve hslot).1
  have htext : (renderChoice slots intent c).toList ++ rest =
      '$' :: (slot.toList ++ (labelText c.returned (c.name ++ "") ++ rest)) := by
    rw [renderChoice_of_resolve hlarge hslot]
    cases hreturned : c.returned <;> simp [labelText, braced]
  have hmarks : ∀ x ∈ (labelText c.returned (c.name ++ "") ++ rest).head?, x ∈ marks := by
    cases hreturned : c.returned with
    | false => simpa [labelText] using hrest.mem_marks
    | true => simp [labelText, marks]
  have hlabel := readLabel_labelText h.1 (.inl rfl)
    (hrest.head?_ne (by decide) (by decide)) c.returned
  rw [htext, readPlain, afterWord_append hword hmarks, word_append hword hmarks, hlabel,
    String.ofList_toList, hfind]
  rfl

theorem readPlain_plainText {part : Part} (h : part.IsClear) (hintent : IsWord intent)
    (hplaced : Placed slots intent part) (hrest : Trails rest) :
    readPlain slots part.isOptional ((plainText slots intent part).toList ++ rest) =
      (part.told, rest) := by
  cases part with
  | literal l => exact readPlain_literal h hrest
  | choice c =>
      by_cases hlarge : 5 < c.values.length
      · obtain ⟨slot, hslot⟩ := hplaced c rfl hlarge
        exact readPlain_large h hintent hlarge hslot hrest
      · exact readPlain_small h (by omega) hrest
  | range r => exact readPlain_range h hrest
  | reference r => exact readPlain_reference h hrest

theorem plainText_eq_cons {part : Part} (h : part.IsClear) :
    ∃ x xs, (plainText slots intent part).toList = x :: xs ∧ x ≠ '[' ∧ x ≠ '\x7b' := by
  cases part with
  | literal l =>
      obtain ⟨x, xs, hchars, hx⟩ := IsWord.exists_cons h
      refine ⟨x, xs ++ (if l.substitute then [':'] else []), ?_, ?_, ?_⟩
      · cases hsubstitute : l.substitute <;>
          simp [plainText, renderLiteral, hsubstitute, hchars]
      · exact fun hsame => hx (hsame ▸ by decide)
      · exact fun hsame => hx (hsame ▸ by decide)
  | choice c =>
      cases hlarge : c.isLarge <;> cases hreturned : c.returned <;>
        simp [plainText, renderChoice, hlarge, hreturned]
  | range r =>
      cases hreturned : r.returned <;> simp [plainText, renderRange, hreturned]
  | reference r =>
      cases hreturned : r.returned <;> simp [plainText, renderReference, hreturned]

theorem readPart_of_head?_ne {cs : List Char} (h : cs.head? ≠ some '[') :
    readPart slots cs = readPlain slots false cs := by
  unfold readPart
  split
  · simp at h
  · rfl

/-- Reading the text of a part gives the part back, and what follows it. -/
theorem readPart_renderPart {part : Part} (h : part.IsClear) (hintent : IsWord intent)
    (hplaced : Placed slots intent part) (hrest : Trails rest) :
    readPart slots ((renderPart slots intent part).toList ++ rest) = (part.told, rest) := by
  rw [renderPart_eq]
  cases hisOptional : part.isOptional with
  | true =>
      have hplain := readPlain_plainText h hintent hplaced (.bracket rest)
      rw [hisOptional] at hplain
      simp [readPart, hplain]
  | false =>
      have hplain := readPlain_plainText h hintent hplaced hrest
      obtain ⟨x, xs, hchars, hbracket, -⟩ := @plainText_eq_cons slots intent part h
      rw [hisOptional] at hplain
      rw [if_neg (by decide), readPart_of_head?_ne, hplain]
      simpa [hchars] using hbracket

end Grammar

end VoiceHub
