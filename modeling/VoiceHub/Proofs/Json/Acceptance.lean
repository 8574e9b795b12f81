import VoiceHub.Proofs.Json.Records

/-!
# What is well formed is read

No text is refused that says, by the grammar, what a reader is there to take.  It may have
blanks anywhere and spell a character in any way, and the fields of a record may come in any
order.  Every step takes something off the text, so as many steps as characters are enough.
-/

namespace VoiceHub.Json

variable {s rest : List Char}

/-! ## Progress -/

theorem length_skipBlank_le (s : List Char) : (skipBlank s).length ≤ s.length :=
  (List.dropWhile_sublist isBlank).length_le

theorem length_lt_of_skipBlank {c : Char} {t : List Char} (h : skipBlank s = c :: t) :
    t.length < s.length := by
  have hle := length_skipBlank_le s
  rw [h] at hle
  exact hle

theorem Quoted.length_lt {us : List Nat} (h : Quoted us s rest) : rest.length < s.length := by
  induction h with
  | close => exact Nat.lt_succ_self _
  | char _ _ _ _ ih | escape _ _ ih | unit _ _ ih =>
      simp only [List.length_cons]
      omega

theorem Opens.length_le {first : Bool} {inner : List Char} (h : Opens first s inner) :
    inner.length ≤ s.length := by
  cases first with
  | true => exact (congrArg List.length h).le
  | false => exact (length_lt_of_skipBlank h).le

theorem Number.length_lt {spelling : List Char} (h : Number spelling (skipBlank s) rest) :
    rest.length < s.length := by
  obtain ⟨c, cs, hspelling, -⟩ := h.isNumber.exists_cons
  have hsplit : skipBlank s = c :: (cs ++ rest) := by
    rw [h.split, hspelling, List.cons_append]
  have hlt := length_lt_of_skipBlank hsplit
  rw [List.length_append] at hlt
  omega

theorem Spells.length_lt {p : Piece} (h : Spells p s rest) : rest.length < s.length := by
  induction h with
  | null h | isTrue h | isFalse h =>
      have hlt := length_lt_of_skipBlank h
      simp only [List.length_cons] at hlt
      omega
  | number h => exact h.length_lt
  | text h htext => exact htext.length_lt.trans (length_lt_of_skipBlank h)
  | array h _ ih | object h _ ih => exact ih.trans (length_lt_of_skipBlank h)
  | noItem h | noEntry h => exact length_lt_of_skipBlank h
  | item hopens _ _ ihvalue ihitems => exact (ihitems.trans ihvalue).trans_le hopens.length_le
  | entry hopens hquote hkey hcolon _ _ ihvalue ihentries =>
      have hafterKey := hkey.length_lt.trans (length_lt_of_skipBlank hquote)
      have hvalueText := (length_lt_of_skipBlank hcolon).trans hafterKey
      exact ((ihentries.trans ihvalue).trans hvalueText).trans_le hopens.length_le

/-! ## Texts -/

theorem takeUnit_of_hexUnit? {a b c d : Char} {u : Nat} (h : hexUnit? a b c d = some u) :
    takeUnit (a :: b :: c :: d :: s) = .ok (u, s) := by
  simp [takeUnit, h]

theorem takeEscape_of_escaped? {letter c : Char} (h : escaped? letter = some c) :
    takeEscape (letter :: s) = .ok (c, s) := by
  unfold takeEscape
  split
  · next heq => cases heq
  · next heq =>
      cases heq
      cases h
  · next heq =>
      cases heq
      rw [h]

theorem takeLowUnit_of_low {high low : Nat} {a b c d : Char}
    (h : hexUnit? a b c d = some low) (hlow : isLowUnit low = true) :
    takeLowUnit high ('\\' :: 'u' :: a :: b :: c :: d :: s) = .ok (joinUnits high low, s) := by
  unfold takeLowUnit
  refine bind_eq_ok_iff.mpr ⟨_, takeUnit_of_hexUnit? h, ?_⟩
  simp [hlow]

theorem not_isLowUnit {u : Nat} (h : isHighUnit u = true) : isLowUnit u = false := by
  simp [isHighUnit, isLowUnit] at h ⊢
  omega

theorem units_cons_eq {c : Char} {u : Nat} {us vs : List Nat} (h : u :: us = Text.utf16 c ++ vs) :
    (isHighUnit u = false ∧ isLowUnit u = false ∧ Char.ofNat u = c ∧ us = vs) ∨
      ∃ low, isHighUnit u = true ∧ isLowUnit low = true ∧ joinUnits u low = c ∧
        us = low :: vs := by
  have hc := Text.toNat_lt_or c
  unfold Text.utf16 at h
  split at h
  · obtain ⟨rfl, rfl⟩ := List.cons.inj h
    refine .inl ⟨?_, ?_, Char.ofNat_toNat c, rfl⟩
    · simp [isHighUnit]
      omega
    · simp [isLowUnit]
      omega
  · obtain ⟨rfl, rfl⟩ := List.cons.inj h
    refine .inr ⟨_, ?_, ?_, ?_, rfl⟩
    · simp [isHighUnit]
      omega
    · simp [isLowUnit]
      omega
    · have hjoined : 0x10000 + (0xD800 + (c.toNat - 0x10000) / 0x400 - 0xD800) * 0x400 +
          (0xDC00 + (c.toNat - 0x10000) % 0x400 - 0xDC00) = c.toNat := by
        omega
      rw [joinUnits, hjoined, Char.ofNat_toNat]

/-- A low half is spelled by its unit only. -/
theorem Quoted.of_low {low : Nat} {us : List Nat} (h : Quoted (low :: us) s rest)
    (hlow : isLowUnit low = true) :
    ∃ a b c d t, s = '\\' :: 'u' :: a :: b :: c :: d :: t ∧ hexUnit? a b c d = some low ∧
      Quoted us t rest := by
  have hwhole {c : Char} {vs : List Nat} (heq : low :: us = Text.utf16 c ++ vs) : False := by
    rcases units_cons_eq heq with ⟨-, hnot, -⟩ | ⟨-, hhigh, -⟩
    · rw [hlow] at hnot
      cases hnot
    · rw [not_isLowUnit hhigh] at hlow
      cases hlow
  generalize hunits : low :: us = all at h
  cases h with
  | close => cases hunits
  | char => exact (hwhole hunits).elim
  | escape => exact (hwhole hunits).elim
  | unit hunit hrest =>
      cases hunits
      exact ⟨_, _, _, _, _, rfl, hunit, hrest⟩

theorem Quoted.exists_step {c : Char} {us : List Nat} (h : Quoted (Text.utf16 c ++ us) s rest) :
    ∃ t, Quoted us t rest ∧ t.length < s.length ∧
      ∀ {steps : Nat} {cs after : List Char},
        takeText steps t = .ok (cs, after) → takeText (steps + 1) s = .ok (c :: cs, after) := by
  have hescape {t t' : List Char} (hread : takeEscape t = .ok (c, t')) {steps : Nat}
      {cs after : List Char} (h : takeText steps t' = .ok (cs, after)) :
      takeText (steps + 1) ('\\' :: t) = .ok (c :: cs, after) :=
    bind_eq_ok_iff.mpr ⟨_, hread, bind_eq_ok_iff.mpr ⟨_, h, rfl⟩⟩
  generalize hunits : Text.utf16 c ++ us = all at h
  cases h with
  | close => exact absurd (List.append_eq_nil_iff.mp hunits).1 (Text.utf16_ne_nil c)
  | @char _ _ t _ hcontrol hquote hslash hrest =>
      obtain ⟨rfl, rfl⟩ := Text.utf16_append_inj hunits
      refine ⟨t, hrest, Nat.lt_succ_self _, fun htext => ?_⟩
      rw [takeText, if_neg (Nat.not_lt.mpr hcontrol)]
      · exact bind_eq_ok_iff.mpr ⟨_, htext, rfl⟩
      · exact hquote
      · exact hslash
  | @escape _ _ _ t _ hletter hrest =>
      obtain ⟨rfl, rfl⟩ := Text.utf16_append_inj hunits
      refine ⟨t, hrest, ?_, hescape (takeEscape_of_escaped? hletter)⟩
      simp only [List.length_cons]
      omega
  | @unit _ _ _ _ u _ t _ hunit hrest =>
      rcases units_cons_eq hunits.symm with
        ⟨hhigh, hlow, rfl, rfl⟩ | ⟨low, hhigh, hlow, rfl, rfl⟩
      · refine ⟨t, hrest, ?_, hescape ?_⟩
        · simp only [List.length_cons]
          omega
        · refine bind_eq_ok_iff.mpr ⟨_, takeUnit_of_hexUnit? hunit, ?_⟩
          simp [hhigh, hlow]
      · -- the low half has to follow as a unit, and both are taken together
        obtain ⟨a, b, c, d, t, rfl, hunit', hrest'⟩ := hrest.of_low hlow
        refine ⟨t, hrest', ?_, hescape ?_⟩
        · simp only [List.length_cons]
          omega
        · refine bind_eq_ok_iff.mpr ⟨_, takeUnit_of_hexUnit? hunit, ?_⟩
          simp [not_isLowUnit hhigh, hhigh, takeLowUnit_of_low hunit' hlow]

theorem Quoted.of_nil (h : Quoted [] s rest) : s = '"' :: rest := by
  generalize hunits : [] = all at h
  cases h with
  | close => rfl
  | @char c | @escape _ c =>
      exact absurd (List.append_eq_nil_iff.mp hunits.symm).1 (Text.utf16_ne_nil c)
  | unit => cases hunits

/-- Every spelling of a text is taken. -/
theorem takeText_of_quoted {cs : List Char} {steps : Nat} (h : Quoted (Text.units cs) s rest)
    (hsteps : s.length ≤ steps) : takeText steps s = .ok (cs, rest) := by
  induction cs generalizing s steps with
  | nil =>
      obtain rfl := Quoted.of_nil h
      obtain ⟨steps, rfl⟩ := Nat.exists_eq_add_of_lt (Nat.zero_lt_of_lt hsteps)
      rfl
  | cons c cs ih =>
      rw [Text.units, List.flatMap_cons] at h
      obtain ⟨t, ht, hlt, htake⟩ := h.exists_step
      obtain ⟨more, rfl⟩ := Nat.exists_eq_add_of_lt (hlt.trans_le hsteps)
      exact htake (ih ht (Nat.le_add_right _ _))

/-! ## Values -/

/-- With so many levels left, every text that says the document is taken as the value. -/
def Takes {α : Type} (reader : Reader α) (depth : Nat) (d : Document) (v : α) : Prop :=
  ∀ ⦃b : Budget⦄ ⦃s rest : List Char⦄, depth ≤ b.levels → s.length ≤ b.steps →
    Spells (.value d) s rest → reader b s = .ok (v, rest)

theorem Takes.mono {α : Type} {reader : Reader α} {depth depth' : Nat} {d : Document} {v : α}
    (h : Takes reader depth d v) (hdepth : depth ≤ depth') : Takes reader depth' d v :=
  fun _ _ _ hlevels => h (hdepth.trans hlevels)

section Lists

variable {α : Type} {item : Reader α} {depth : Nat} {b : Budget}

theorem takes_text (t : String) : Takes Shape.text 0 (.ofText t) t := by
  intro b s rest _ hsteps hspells
  unfold Document.ofText at hspells
  cases hspells with
  | text hquote htext =>
      have hlt := length_lt_of_skipBlank hquote
      unfold Shape.text
      rw [hquote]
      refine bind_eq_ok_iff.mpr ⟨_, takeText_of_quoted htext (by omega), ?_⟩
      simp

theorem Spells.skipBlank {d : Document} (h : Spells (.value d) s rest) :
    Spells (.value d) (Json.skipBlank s) rest := by
  have hs := skipBlank_skipBlank s
  cases h with
  | null h => exact .null (hs.trans h)
  | isTrue h => exact .isTrue (hs.trans h)
  | isFalse h => exact .isFalse (hs.trans h)
  | number h => exact .number (hs.symm ▸ h)
  | text h htext => exact .text (hs.trans h) htext
  | array h hitems => exact .array (hs.trans h) hitems
  | object h hentries => exact .object (hs.trans h) hentries

theorem nextItem_of_opens {first : Bool} {d : Document} {inner : List Char}
    (hopens : Opens first s inner) (h : Spells (.value d) inner rest) :
    nextItem first s = .ok (some (skipBlank inner)) := by
  have hne : skipBlank inner ≠ [] :=
    List.ne_nil_of_length_pos (Nat.zero_lt_of_lt h.skipBlank.length_lt)
  obtain ⟨c, t, hinner⟩ := List.exists_cons_of_ne_nil hne
  have hc : c ≠ ']' := by
    rintro rfl
    exact h.skipBlank_ne (by decide) hinner
  cases first with
  | true =>
      obtain rfl : inner = s := hopens
      simp [nextItem, hinner, hc]
  | false =>
      have hcomma : skipBlank s = ',' :: inner := hopens
      simp [nextItem, hcomma, hinner, hc]

theorem takeItems_of_spells {ds : List Document} {vs : List α}
    (hvalues : List.Forall₂ (Takes item depth) ds vs) (hlevels : depth ≤ b.levels)
    {first : Bool} {steps : Nat} (h : Spells (.items first ds) s rest)
    (hlength : s.length ≤ b.steps) (hsteps : s.length ≤ steps) :
    takeItems (item b) steps first s = .ok (vs, rest) := by
  induction hvalues generalizing first s steps with
  | nil =>
      obtain ⟨more, rfl⟩ := Nat.exists_eq_add_of_lt (h.length_lt.trans_le hsteps)
      cases h with
      | noItem hclose =>
          have hnext : nextItem first s = .ok none := by simp [nextItem, hclose]
          have hend : closeArray s = .ok rest := by simp [closeArray, hclose]
          exact bind_eq_ok_iff.mpr ⟨_, hnext, bind_eq_ok_iff.mpr ⟨_, hend, rfl⟩⟩
  | cons hvalue _ ih =>
      obtain ⟨more, rfl⟩ := Nat.exists_eq_add_of_lt (h.length_lt.trans_le hsteps)
      cases h with
      | @item _ _ _ _ inner middle _ hopens hspells hitems =>
          have hinner := hopens.length_le
          have hmiddle := hspells.length_lt
          have hread := hvalue hlevels
            ((length_skipBlank_le inner).trans (hinner.trans hlength)) hspells.skipBlank
          have hrest := ih hitems (by omega) (show middle.length ≤ rest.length + more by omega)
          exact bind_eq_ok_iff.mpr ⟨_, nextItem_of_opens hopens hspells,
            bind_eq_ok_iff.mpr ⟨_, hread, bind_eq_ok_iff.mpr ⟨_, hrest, rfl⟩⟩⟩

theorem nextKey_of_opens {first : Bool} {key : String} {inner keyText : List Char} {steps : Nat}
    (hopens : Opens first s inner) (hquote : skipBlank inner = '"' :: keyText)
    (hkey : Quoted (Text.units key.toList) keyText rest) (hsteps : keyText.length ≤ steps) :
    nextKey steps first s = .ok (some key.toList, rest) := by
  have htake {t : List Char} (ht : skipBlank t = '"' :: keyText) :
      takeKey steps t = .ok (key.toList, rest) := by
    simp [takeKey, ht, takeText_of_quoted hkey hsteps]
  cases first with
  | true =>
      obtain rfl : inner = s := hopens
      unfold nextKey
      rw [hquote]
      exact bind_eq_ok_iff.mpr ⟨_, htake rfl, rfl⟩
  | false =>
      unfold nextKey
      rw [show skipBlank s = ',' :: inner from hopens]
      exact bind_eq_ok_iff.mpr ⟨_, htake hquote, rfl⟩

theorem Spells.exists_entry {first : Bool} {key : String} {d : Document}
    {es : List (List Nat × Document)} {steps : Nat}
    (h : Spells (.entries first ((Text.units key.toList, d) :: es)) s rest)
    (hsteps : s.length ≤ steps) :
    ∃ afterKey valueText middle, nextKey steps first s = .ok (some key.toList, afterKey) ∧
      takeColon afterKey = .ok valueText ∧ valueText.length < s.length ∧
        Spells (.value d) valueText middle ∧ Spells (.entries false es) middle rest := by
  cases h with
  | entry hopens hquote hkey hcolon hvalue hentries =>
      have hinner := hopens.length_le
      have hkeyText := length_lt_of_skipBlank hquote
      have hafterKey := hkey.length_lt
      have hvalueText := length_lt_of_skipBlank hcolon
      refine ⟨_, _, _, nextKey_of_opens hopens hquote hkey (by omega), ?_, by omega, hvalue,
        hentries⟩
      simp [takeColon, hcolon]

theorem nextKey_of_noEntry {first : Bool} {steps : Nat} (h : Spells (.entries first []) s rest) :
    nextKey steps first s = .ok (none, rest) := by
  cases h with
  | noEntry hclose => simp [nextKey, hclose]

theorem takeEntries_of_spells {es : List (List Nat × Document)} {vs : List (String × α)}
    (hvalues : List.Forall₂ (KeepsEntry (Takes item depth)) es vs) (hlevels : depth ≤ b.levels)
    {first : Bool} {left : Nat} (h : Spells (.entries first es) s rest)
    (hlength : s.length ≤ b.steps) (hleft : s.length ≤ left) :
    takeEntries b.steps (item b) left first s = .ok (vs, rest) := by
  induction hvalues generalizing first s left with
  | nil =>
      obtain ⟨more, rfl⟩ := Nat.exists_eq_add_of_lt (h.length_lt.trans_le hleft)
      exact bind_eq_ok_iff.mpr ⟨_, nextKey_of_noEntry h, rfl⟩
  | @cons entry kept _ _ hvalue _ ih =>
      obtain ⟨more, rfl⟩ := Nat.exists_eq_add_of_lt (h.length_lt.trans_le hleft)
      obtain ⟨units, d⟩ := entry
      obtain ⟨key, v⟩ := kept
      obtain ⟨rfl, htakes⟩ : units = Text.units key.toList ∧ Takes item depth d v := hvalue
      obtain ⟨afterKey, valueText, middle, hkey, hcolon, hlt, hspells, hentries⟩ :=
        h.exists_entry hlength
      have hmiddle := hspells.length_lt
      have hread := htakes hlevels (by omega) hspells
      have hrest := ih hentries (by omega) (show middle.length ≤ rest.length + more by omega)
      refine bind_eq_ok_iff.mpr ⟨_, hkey, bind_eq_ok_iff.mpr ⟨_, hcolon,
        bind_eq_ok_iff.mpr ⟨_, hread, bind_eq_ok_iff.mpr ⟨_, hrest, ?_⟩⟩⟩⟩
      simp

theorem takes_value_text (t : String) : Takes Shape.value 0 (.ofText t) (.text t) := by
  intro b s rest _ hsteps hspells
  unfold Document.ofText at hspells
  cases hspells with
  | text hquote htext =>
      have hlt := length_lt_of_skipBlank hquote
      unfold Shape.value takeValue
      rw [hquote]
      refine bind_eq_ok_iff.mpr ⟨_, takeText_of_quoted htext (by omega), ?_⟩
      simp

theorem takes_array {ds : List Document} {vs : List Json}
    (h : List.Forall₂ (Takes Shape.value depth) ds vs) :
    Takes Shape.value (depth + 1) (.array ds) (.array vs) := by
  intro b s rest hlevels hsteps hspells
  obtain ⟨_ | levels, steps⟩ := b
  · cases hlevels
  · cases hspells with
    | array hopen hitems =>
        have hlt := length_lt_of_skipBlank hopen
        have hlength := hlt.le.trans hsteps
        have hread := takeItems_of_spells (b := ⟨levels, steps⟩) h
          (Nat.le_of_succ_le_succ hlevels) hitems hlength hlength
        unfold Shape.value takeValue
        rw [hopen]
        exact bind_eq_ok_iff.mpr ⟨_, hread, rfl⟩

theorem takes_entries {es : List (List Nat × Document)} {vs : List (String × α)}
    (h : List.Forall₂ (KeepsEntry (Takes item depth)) es vs) :
    Takes (Shape.entries item) (depth + 1) (.object es) vs := by
  intro b s rest hlevels hsteps hspells
  obtain ⟨_ | levels, steps⟩ := b
  · cases hlevels
  · cases hspells with
    | object hopen hentries =>
        have hlt := length_lt_of_skipBlank hopen
        have hlength := hlt.le.trans hsteps
        unfold Shape.entries
        rw [hopen]
        exact takeEntries_of_spells (b := ⟨levels, steps⟩) h (Nat.le_of_succ_le_succ hlevels)
          hentries hlength hlength

end Lists

/-! ## Records -/

namespace Shape

variable {σ α : Type} {depth : Nat}

theorem takes_of {key : String} { isRequired : Bool} {item : Reader α} {set : α → σ → σ}
    {d : Document} {v : α} (h : Takes item depth d v) :
    Takes (Field.of key isRequired item set).change depth d (set v) := by
  intro b s rest hlevels hsteps hspells
  simp [Field.of, Except.map, h hlevels hsteps hspells]

structure Given (σ : Type) where
  field : Field σ
  value : Document
  change : σ → σ

def Given.key (x : Given σ) : String := x.field.key

def Given.entry (x : Given σ) : List Nat × Document := (Text.units x.key.toList, x.value)

/-- What is still given when some fields have been seen: each once, and the required ones. -/
structure Fits (fields : List (Field σ)) (depth : Nat) (seen : List String)
    (given : List (Given σ)) : Prop where
  known : ∀ x ∈ given, x.field ∈ fields
  taken : ∀ x ∈ given, Takes x.field.change depth x.value x.change
  once : (given.map Given.key).Nodup
  unseen : ∀ x ∈ given, x.key ∉ seen
  complete : ∀ field ∈ fields, field.isRequired = true →
    field.key ∈ seen ∨ field.key ∈ given.map Given.key

variable {fields : List (Field σ)} {x : Given σ} {given : List (Given σ)} {seen : List String}
  {b : Budget}

theorem Fits.tail (h : Fits fields depth seen (x :: given)) :
    Fits fields depth (x.key :: seen) given where
  known y hy := h.known y (List.mem_cons_of_mem x hy)
  taken y hy := h.taken y (List.mem_cons_of_mem x hy)
  once := (List.nodup_cons.mp h.once).2
  unseen y hy hseen := by
    rcases List.mem_cons.mp hseen with heq | hseen
    · exact (List.nodup_cons.mp h.once).1 (heq ▸ List.mem_map_of_mem hy)
    · exact h.unseen y (List.mem_cons_of_mem x hy) hseen
  complete field hfield hrequired := by
    have hthere := h.complete field hfield hrequired
    simp only [List.map_cons, List.mem_cons] at hthere ⊢
    tauto

theorem find?_key_eq (hnodup : (fields.map Field.key).Nodup) {field : Field σ}
    (hfield : field ∈ fields) : fields.find? (·.key = field.key) = some field := by
  induction fields with
  | nil => cases hfield
  | cons other fields ih =>
      obtain ⟨hother, hfields⟩ := List.nodup_cons.mp hnodup
      rcases List.mem_cons.mp hfield with rfl | hlater
      · simp
      · have hne : other.key ≠ field.key := fun heq =>
          hother (heq ▸ List.mem_map_of_mem hlater)
        simp [hne, ih hfields hlater]

theorem takeFieldEntries_of_spells (hnodup : (fields.map Field.key).Nodup)
    (hfits : Fits fields depth seen given) (hlevels : depth ≤ b.levels) {first : Bool}
    {steps : Nat} (record : σ) (h : Spells (.entries first (given.map Given.entry)) s rest)
    (hlength : s.length ≤ b.steps) (hsteps : s.length ≤ steps) :
    takeFieldEntries b fields steps first seen record s =
      .ok (given.foldl (fun r x => x.change r) record, rest) := by
  induction given generalizing first seen record s steps with
  | nil =>
      obtain ⟨more, rfl⟩ := Nat.exists_eq_add_of_lt (h.length_lt.trans_le hsteps)
      refine bind_eq_ok_iff.mpr ⟨_, nextKey_of_noEntry h, if_neg ?_⟩
      simpa using hfits.complete
  | cons x given ih =>
      obtain ⟨more, rfl⟩ := Nat.exists_eq_add_of_lt (h.length_lt.trans_le hsteps)
      obtain ⟨afterKey, valueText, middle, hkey, hcolon, hlt, hspells, hentries⟩ :=
        Spells.exists_entry h hlength
      have hmiddle := hspells.length_lt
      have hread := hfits.taken x List.mem_cons_self hlevels (by omega) hspells
      have hrest := ih hfits.tail (x.change record) hentries (by omega)
        (show middle.length ≤ rest.length + more by omega)
      have hfound := find?_key_eq hnodup (hfits.known x List.mem_cons_self)
      have hunseen : ¬ seen.contains x.field.key = true := by
        simpa [Given.key] using hfits.unseen x List.mem_cons_self
      refine bind_eq_ok_iff.mpr ⟨_, hkey, ?_⟩
      simp only [String.ofList_toList, Given.key, hfound, if_neg hunseen]
      exact bind_eq_ok_iff.mpr ⟨_, hcolon, bind_eq_ok_iff.mpr ⟨_, hread, hrest⟩⟩

/-- The fields may be given in any order. -/
theorem takes_record (hnodup : (fields.map Field.key).Nodup) (hfits : Fits fields depth [] given)
    (blank : σ) :
    Takes (record fields blank) (depth + 1) (.object (given.map Given.entry))
      (given.foldl (fun r x => x.change r) blank) := by
  intro b s rest hlevels hsteps hspells
  obtain ⟨_ | levels, steps⟩ := b
  · cases hlevels
  · cases hspells with
    | object hopen hentries =>
        have hlt := length_lt_of_skipBlank hopen
        have hlength := hlt.le.trans hsteps
        unfold record
        rw [hopen]
        exact takeFieldEntries_of_spells (b := ⟨levels, steps⟩) hnodup hfits
          (Nat.le_of_succ_le_succ hlevels) blank hentries hlength hlength

end Shape

/-- A whole text that says a document is read as what is made of the document. -/
theorem read_of_says {α : Type} {reader : Reader α} {depth : Nat} {d : Document} {v : α}
    (h : Takes reader depth d v) (hdepth : depth ≤ levelLimit) {text : String}
    (hd : Says text d) : read reader text = .ok v := by
  obtain ⟨rest, hspells, hend⟩ := hd
  have hsteps : text.toList.length ≤ stepLimit text.toList := by
    unfold stepLimit
    omega
  refine bind_eq_ok_iff.mpr ⟨_, h (b := ⟨levelLimit, _⟩) hdepth hsteps hspells, ?_⟩
  simp [hend]

end VoiceHub.Json
