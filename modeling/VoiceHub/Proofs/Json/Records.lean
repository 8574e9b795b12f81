import VoiceHub.Proofs.Json.Values

/-!
# Records as they are read

A record is read from an object by the keys of its fields, or from an array by their
places.  What a field shows of its own value it goes on to show, since the other fields
leave it as it is.
-/

namespace VoiceHub.Json

def Document.field? (place : Nat) (key : String) : Document → Option Document
  | .array items => items[place]?
  | .object entries => entries.lookup (Text.units key.toList)
  | _ => none

/-! ## Shapes -/

def Document.IsText (d : Document) (t : String) : Prop := d = .text (Text.units t.toList)

theorem readsAs_text (b : Budget) : ReadsAs (Shape.text b) Document.IsText := by
  intro s rest t h _
  unfold Shape.text at h
  split at h
  · next hs =>
      obtain ⟨⟨cs, t'⟩, htext, h⟩ := bind_eq_ok_iff.mp h
      cases h
      refine ⟨_, .text hs (quoted_of_takeText htext), ?_⟩
      simp [Document.IsText]
  · cases h

def Document.IsOptionalText (d : Document) : Option String → Prop
  | none => d = .null
  | some t => d.IsText t

theorem readsAs_optionalText (b : Budget) :
    ReadsAs (Shape.optionalText b) Document.IsOptionalText := by
  intro s rest o h hrest
  unfold Shape.optionalText at h
  split at h
  · next hs =>
      obtain ⟨hnull, rfl⟩ := skipBlank_of_map_word hs h
      exact ⟨.null, .null hnull, rfl⟩
  · obtain ⟨⟨t, t'⟩, htext, h⟩ := bind_eq_ok_iff.mp h
    cases h
    obtain ⟨d, hd, ht⟩ := readsAs_text b htext hrest
    exact ⟨d, hd.of_skipBlank, ht⟩

theorem readsAs_number (b : Budget) : ReadsAs (Shape.number b) fun _ _ => True := by
  intro s rest f h hrest
  unfold Shape.number at h
  split at h
  · next c t hs =>
      split at h
      · obtain ⟨⟨v, t'⟩, hnumber, h⟩ := bind_eq_ok_iff.mp h
        have hblank : skipBlank (c :: t) = c :: t := by
          rw [← hs, skipBlank_skipBlank]
        have hrest' : t' = rest := by
          cases v <;> cases h <;> rfl
        rw [hrest'] at hnumber
        obtain ⟨d, hd, -⟩ := spells_of_takeNumber hnumber hblank hrest
        rw [← hs] at hd
        exact ⟨d, hd.of_skipBlank, trivial⟩
      · cases h
  · cases h

theorem readsAs_entries {α : Type} {item : Reader α} {keeps : Document → α → Prop}
    (hitem : ∀ b, ReadsAs (item b) keeps) (b : Budget) :
    ReadsAs (Shape.entries item b) fun d vs =>
      ∃ es, d = .object es ∧ List.Forall₂ (KeepsEntry keeps) es vs := by
  intro s rest vs h _
  unfold Shape.entries at h
  split at h
  · cases h
  · next hs =>
      obtain ⟨es, hes, hvs⟩ := spells_of_takeEntries (hitem _) h
      exact ⟨.object es, .object hs hes, es, rfl, hvs⟩
  · cases h

namespace Shape

variable {σ α : Type} {s rest : List Char}

theorem readsAs_of {key : String} { isRequired : Bool} {item : Reader α} {set : α → σ → σ}
    {keeps : Document → α → Prop} {b : Budget} (h : ReadsAs (item b) keeps) :
    ReadsAs ((Field.of key isRequired item set).change b) fun d f => ∃ v, keeps d v ∧ f = set v := by
  intro s rest f hread hrest
  cases hitem : item b s with
  | error e => simp [Field.of, hitem, Except.map] at hread
  | ok read =>
      simp only [Field.of, hitem, Except.map, Except.ok.injEq, Prod.mk.injEq] at hread
      obtain ⟨rfl, rfl⟩ := hread
      obtain ⟨d, hd, hv⟩ := h hitem hrest
      exact ⟨d, hd, read.1, hv, rfl⟩

/-! ## Fields -/

/-- Each field makes the record show the value that it is read from, and does not touch
what is shown of the others. -/
def Faithful (fields : List (Field σ)) (shows : String → Option Document → σ → Prop) : Prop :=
  ∀ field ∈ fields, ∀ b, ReadsAs (field.change b) fun d f => ∀ r,
    shows field.key (some d) (f r) ∧
      ∀ key, key ≠ field.key → ∀ o, shows key o r → shows key o (f r)

variable {b : Budget} {fields : List (Field σ)} {shows : String → Option Document → σ → Prop}
  {record r : σ}

theorem delimited_of_takeFieldItems (h : takeFieldItems b fields false record s = .ok (r, rest)) :
    Delimited s := by
  cases fields with
  | nil =>
      unfold takeFieldItems at h
      cases hclose : closeArray s with
      | error e =>
          rw [hclose] at h
          cases h
      | ok t => exact delimited_of_skipBlank (closeArray_eq_ok hclose) (by decide)
  | cons field fields =>
      unfold takeFieldItems at h
      obtain ⟨next, hnext, -⟩ := bind_eq_ok_iff.mp h
      exact delimited_of_nextItem hnext

theorem delimited_of_takeFieldEntries {steps : Nat} {seen : List String}
    (h : takeFieldEntries b fields steps false seen record s = .ok (r, rest)) : Delimited s := by
  cases steps with
  | zero => cases h
  | succ steps =>
      unfold takeFieldEntries at h
      obtain ⟨⟨next, t⟩, hnext, -⟩ := bind_eq_ok_iff.mp h
      exact delimited_of_nextKey hnext

theorem takeFieldItems_cons_eq_ok {field : Field σ} {first : Bool}
    (h : takeFieldItems b (field :: fields) first record s = .ok (r, rest)) :
    (skipBlank s = ']' :: rest ∧ r = record) ∨
    ∃ t change middle, Opens first s t ∧ field.change b (skipBlank t) = .ok (change, middle) ∧
      takeFieldItems b fields false (change record) middle = .ok (r, rest) := by
  unfold takeFieldItems at h
  obtain ⟨next, hnext, h⟩ := bind_eq_ok_iff.mp h
  cases next with
  | none =>
      dsimp only at h
      split at h
      · cases h
      · obtain ⟨t, hclose, h⟩ := bind_eq_ok_iff.mp h
        cases h
        exact .inl ⟨closeArray_eq_ok hclose, rfl⟩
  | some inner =>
      obtain ⟨⟨change, middle⟩, hread, hrest⟩ := bind_eq_ok_iff.mp h
      obtain ⟨t, hopens, rfl⟩ := nextItem_eq_some hnext
      exact .inr ⟨t, change, middle, hopens, hread, hrest⟩

/-- The fields are read from the front; keys that are not theirs are left as they are. -/
theorem shows_of_takeFieldItems (hfaithful : Faithful fields shows)
    (hnodup : (fields.map Field.key).Nodup) {first : Bool}
    (h : takeFieldItems b fields first record s = .ok (r, rest)) :
    ∃ ds, Spells (.items first ds) s rest ∧
      (∀ place (hplace : place < fields.length), shows fields[place].key none record →
        shows fields[place].key ds[place]? r) ∧
      ∀ key ∉ fields.map Field.key, ∀ o, shows key o record → shows key o r := by
  induction fields generalizing first record s with
  | nil =>
      unfold takeFieldItems at h
      cases hclose : closeArray s with
      | error e =>
          rw [hclose] at h
          cases h
      | ok t =>
          rw [hclose] at h
          cases h
          exact ⟨[], .noItem (closeArray_eq_ok hclose), nofun, fun _ _ _ hshows => hshows⟩
  | cons field fields ih =>
      obtain ⟨hother, hfields⟩ := List.nodup_cons.mp hnodup
      have hlater : Faithful fields shows := fun f hf => hfaithful f (List.mem_cons_of_mem _ hf)
      rcases takeFieldItems_cons_eq_ok h with
        ⟨hclose, rfl⟩ | ⟨t, change, middle, hopens, hread, hrest⟩
      · exact ⟨[], .noItem hclose, fun _ _ hshows => hshows, fun _ _ _ hshows => hshows⟩
      · obtain ⟨d, hd, hchange⟩ :=
          hfaithful field List.mem_cons_self b hread (delimited_of_takeFieldItems hrest)
        obtain ⟨hown, hkeep⟩ := hchange record
        obtain ⟨ds, hds, hplaces, hframe⟩ := ih hlater hfields hrest
        refine ⟨d :: ds, .item hopens hd.of_skipBlank hds, ?_, ?_⟩
        · intro place hplace hshows
          cases place with
          | zero => exact hframe field.key hother (some d) hown
          | succ place =>
              have hlt : place < fields.length := Nat.lt_of_succ_lt_succ hplace
              apply hplaces place hlt
              apply hkeep _ _ none hshows
              intro heq
              exact hother (heq ▸ List.mem_map_of_mem (List.getElem_mem hlt))
        · intro key hkey o hshows
          simp only [List.map_cons, List.mem_cons, not_or] at hkey
          obtain ⟨hne, hnot⟩ := hkey
          exact hframe key hnot o (hkeep key hne o hshows)

theorem lookup_units_cons_of_ne {key other : String} {d : Document}
    {es : List (List Nat × Document)} (h : key ≠ other) :
    ((Text.units other.toList, d) :: es).lookup (Text.units key.toList) =
      es.lookup (Text.units key.toList) := by
  have hne : (Text.units key.toList == Text.units other.toList) = false := by
    simpa [Text.units_toList_inj] using h
  rw [List.lookup_cons, hne]

def Enters (first : Bool) (key : String) (s valueText : List Char) : Prop :=
  ∀ {d es middle rest}, Spells (.value d) valueText middle → Spells (.entries false es) middle rest →
    Spells (.entries first ((Text.units key.toList, d) :: es)) s rest

theorem takeFieldEntries_eq_ok {steps : Nat} {first : Bool} {seen : List String}
    (h : takeFieldEntries b fields (steps + 1) first seen record s = .ok (r, rest)) :
    (skipBlank s = '\x7d' :: rest ∧ r = record) ∨
    (∃ key valueText middle, Enters first key s valueText ∧ (∀ field ∈ fields, field.key ≠ key) ∧
      skipValue b.steps valueText = .ok middle ∧
      takeFieldEntries b fields steps false seen record middle = .ok (r, rest)) ∨
    ∃ field ∈ fields, ∃ valueText change middle, Enters first field.key s valueText ∧
      field.key ∉ seen ∧ field.change b valueText = .ok (change, middle) ∧
      takeFieldEntries b fields steps false (field.key :: seen) (change record) middle =
        .ok (r, rest) := by
  unfold takeFieldEntries at h
  obtain ⟨⟨next, t⟩, hnext, h⟩ := bind_eq_ok_iff.mp h
  cases next with
  | none =>
      left
      dsimp only at h
      split at h
      · cases h
      · cases h
        exact ⟨nextKey_eq_none hnext, rfl⟩
  | some key =>
      right
      obtain ⟨inner, keyText, hopens, hquote, hkey⟩ := nextKey_eq_some hnext
      have henters {valueText : List Char} (hcolon : takeColon t = .ok valueText) :
          Enters first (String.ofList key) s valueText := by
        intro d es middle rest hvalue hentries
        rw [String.toList_ofList]
        exact .entry hopens hquote hkey (takeColon_eq_ok hcolon) hvalue hentries
      dsimp only at h
      split at h
      · next hunknown =>
          left
          obtain ⟨valueText, hcolon, h⟩ := bind_eq_ok_iff.mp h
          obtain ⟨middle, hskip, hrest⟩ := bind_eq_ok_iff.mp h
          refine ⟨_, valueText, middle, henters hcolon, ?_, hskip, hrest⟩
          simpa using List.find?_eq_none.mp hunknown
      · next field hfound =>
          right
          have hname : field.key = String.ofList key := by
            simpa using List.find?_some hfound
          split at h
          · cases h
          · next hseen =>
              obtain ⟨valueText, hcolon, h⟩ := bind_eq_ok_iff.mp h
              obtain ⟨⟨change, middle⟩, hread, hrest⟩ := bind_eq_ok_iff.mp h
              exact ⟨field, List.mem_of_find?_eq_some hfound, valueText, change, middle,
                hname ▸ henters hcolon, by simpa using hseen, hread, hrest⟩

theorem shows_of_takeFieldEntries (hfaithful : Faithful fields shows) {steps : Nat} {first : Bool}
    {seen : List String}
    (h : takeFieldEntries b fields steps first seen record s = .ok (r, rest)) :
    ∃ es, Spells (.entries first es) s rest ∧
      ∀ field ∈ fields, ∀ o, (o = none ↔ field.key ∉ seen) → shows field.key o record →
        shows field.key (o.or (es.lookup (Text.units field.key.toList))) r := by
  -- `o` is what an earlier entry gave; its field has been seen and is not given again
  induction steps generalizing first seen record s with
  | zero => cases h
  | succ steps ih =>
      rcases takeFieldEntries_eq_ok h with ⟨hclose, rfl⟩ |
        ⟨key, valueText, middle, henters, hunknown, hskip, hrest⟩ |
        ⟨field, hmem, valueText, change, middle, henters, hseen, hread, hrest⟩
      · refine ⟨[], .noEntry hclose, ?_⟩
        intro field _ o _ hshows
        rw [List.lookup_nil, Option.or_none]
        exact hshows
      · obtain ⟨d, hd⟩ := (spells_of_skip b.steps).1 hskip (delimited_of_takeFieldEntries hrest)
        obtain ⟨es, hes, hshown⟩ := ih hrest
        refine ⟨_, henters hd hes, ?_⟩
        intro field hfield o ho hshows
        rw [lookup_units_cons_of_ne (hunknown field hfield)]
        exact hshown field hfield o ho hshows
      · obtain ⟨d, hd, hchange⟩ := hfaithful field hmem b hread (delimited_of_takeFieldEntries hrest)
        obtain ⟨hown, hkeep⟩ := hchange record
        obtain ⟨es, hes, hshown⟩ := ih hrest
        refine ⟨_, henters hd hes, ?_⟩
        intro other hother o ho hshows
        by_cases hsame : other.key = field.key
        · have hnone : o = none := by rwa [ho, hsame]
          have hshown' := hshown other hother (some d) (by simp [hsame]) (hsame ▸ hown)
          rw [hsame] at hshown' ⊢
          rw [hnone, List.lookup_cons_self]
          exact hshown'
        · rw [lookup_units_cons_of_ne hsame]
          apply hshown other hother o _ (hkeep _ hsame o hshows)
          simpa [hsame] using ho

theorem readsAs_record (hfaithful : Faithful fields shows) (hnodup : (fields.map Field.key).Nodup)
    {blank : σ} (hblank : ∀ field ∈ fields, shows field.key none blank) (b : Budget) :
    ReadsAs (Shape.record fields blank b) fun d r => ∀ place (hplace : place < fields.length),
      shows fields[place].key (d.field? place fields[place].key) r := by
  intro s rest r h _
  unfold Shape.record at h
  split at h
  · cases h
  · cases h
  · next hs =>
      obtain ⟨ds, hds, hplaces, -⟩ := shows_of_takeFieldItems hfaithful hnodup h
      refine ⟨.array ds, .array hs hds, ?_⟩
      intro place hplace
      exact hplaces place hplace (hblank _ (List.getElem_mem hplace))
  · next hs =>
      obtain ⟨es, hes, hshown⟩ := shows_of_takeFieldEntries hfaithful h
      refine ⟨.object es, .object hs hes, ?_⟩
      intro place hplace
      have hmem := List.getElem_mem hplace
      exact hshown _ hmem none (by simp) (hblank _ hmem)
  · cases h

end Shape

theorem says_of_read {α : Type} {reader : Reader α} {keeps : Document → α → Prop}
    (hreader : ∀ b, ReadsAs (reader b) keeps) {text : String} {v : α}
    (h : read reader text = .ok v) : ∃ d, Says text d ∧ keeps d v := by
  unfold read at h
  obtain ⟨⟨v', rest⟩, hread, h⟩ := bind_eq_ok_iff.mp h
  dsimp only at h
  split at h
  · next hend =>
      cases h
      have hblank : skipBlank rest = [] := by simpa using hend
      obtain ⟨d, hd, hv⟩ := hreader _ hread (delimited_of_skipBlank_nil hblank)
      exact ⟨d, ⟨rest, hd, hblank⟩, hv⟩
  · cases h

end VoiceHub.Json
