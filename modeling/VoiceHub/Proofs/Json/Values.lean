import Mathlib.Data.List.DropRight
import VoiceHub.Proofs.Json.Tokens

/-!
# Values as they are read

A value is kept or passed over, and either way it stands there by the grammar.  An array
or an object is read to its end, a number up to where numbers end.
-/

namespace VoiceHub.Json

variable {s rest : List Char}

/-! ## Arrays and objects -/

theorem skipBlank_skipBlank (s : List Char) : skipBlank (skipBlank s) = skipBlank s :=
  List.dropWhile_idempotent isBlank s

theorem Spells.of_skipBlank {d : Document} (h : Spells (.value d) (skipBlank s) rest) :
    Spells (.value d) s rest := by
  have hs := skipBlank_skipBlank s
  cases h with
  | null h => exact .null (hs ▸ h)
  | isTrue h => exact .isTrue (hs ▸ h)
  | isFalse h => exact .isFalse (hs ▸ h)
  | number h => exact .number (hs ▸ h)
  | text h htext => exact .text (hs ▸ h) htext
  | array h hitems => exact .array (hs ▸ h) hitems
  | object h hentries => exact .object (hs ▸ h) hentries

theorem delimited_of_skipBlank {c : Char} {t : List Char} (h : skipBlank s = c :: t)
    (hc : isDelimiter c = true) : Delimited s := by
  intro first hfirst
  cases s with
  | nil => cases hfirst
  | cons d s =>
      obtain rfl : d = first := Option.some.inj hfirst
      by_cases hblank : isBlank d = true
      · simp [isDelimiter, hblank]
      · rw [skipBlank, List.dropWhile_cons_of_neg hblank] at h
        rw [(List.cons.inj h).1]
        exact hc

theorem delimited_of_skipBlank_nil (h : skipBlank s = []) : Delimited s := by
  intro first hfirst
  cases s with
  | nil => cases hfirst
  | cons d s =>
      obtain rfl : d = first := Option.some.inj hfirst
      have hblank := List.dropWhile_eq_nil_iff.mp h d List.mem_cons_self
      simp [isDelimiter, hblank]

theorem nextItem_eq_none {first : Bool} (h : nextItem first s = .ok none) :
    ∃ t, skipBlank s = ']' :: t := by
  unfold nextItem at h
  split at h
  · next heq => exact ⟨_, heq⟩
  · cases h
  · cases h
  · split at h <;> cases h
  · cases h

theorem nextItem_eq_some {first : Bool} {inner : List Char}
    (h : nextItem first s = .ok (some inner)) : ∃ t, Opens first s t ∧ inner = skipBlank t := by
  unfold nextItem at h
  split at h
  · cases h
  · cases h
  · cases h
    exact ⟨s, rfl, rfl⟩
  · next heq =>
      split at h
      · cases h
      · cases h
      · cases h
        exact ⟨_, heq, rfl⟩
  · cases h

/-- What stands where another item is looked for ends a number. -/
theorem delimited_of_nextItem {next : Option (List Char)} (h : nextItem false s = .ok next) :
    Delimited s := by
  cases next with
  | none =>
      obtain ⟨t, ht⟩ := nextItem_eq_none h
      exact delimited_of_skipBlank ht (by decide)
  | some inner =>
      obtain ⟨t, ht, -⟩ := nextItem_eq_some h
      exact delimited_of_skipBlank ht (by decide)

theorem closeArray_eq_ok (h : closeArray s = .ok rest) : skipBlank s = ']' :: rest := by
  unfold closeArray at h
  split at h
  · next heq =>
      cases h
      exact heq
  · cases h

theorem takeColon_eq_ok (h : takeColon s = .ok rest) : skipBlank s = ':' :: rest := by
  unfold takeColon at h
  split at h
  · next heq =>
      cases h
      exact heq
  · cases h

theorem takeKey_eq_ok {steps : Nat} {key : List Char} (h : takeKey steps s = .ok (key, rest)) :
    ∃ t, skipBlank s = '"' :: t ∧ Quoted (Text.units key) t rest := by
  unfold takeKey at h
  split at h
  · next heq => exact ⟨_, heq, quoted_of_takeText h⟩
  · cases h

theorem nextKey_eq_none {steps : Nat} {first : Bool} (h : nextKey steps first s = .ok (none, rest)) :
    skipBlank s = '\x7d' :: rest := by
  unfold nextKey at h
  split at h
  · next heq =>
      cases h
      exact heq
  · obtain ⟨⟨key, t⟩, -, h⟩ := bind_eq_ok_iff.mp h
    cases h
  · obtain ⟨⟨key, t⟩, -, h⟩ := bind_eq_ok_iff.mp h
    cases h
  · cases h

theorem nextKey_eq_some {steps : Nat} {first : Bool} {key : List Char}
    (h : nextKey steps first s = .ok (some key, rest)) :
    ∃ inner t, Opens first s inner ∧ skipBlank inner = '"' :: t ∧
      Quoted (Text.units key) t rest := by
  unfold nextKey at h
  split at h
  · cases h
  · obtain ⟨⟨key', t⟩, hkey, h⟩ := bind_eq_ok_iff.mp h
    cases h
    obtain ⟨t, ht, hquoted⟩ := takeKey_eq_ok hkey
    exact ⟨s, t, rfl, (skipBlank_skipBlank s) ▸ ht, hquoted⟩
  · next inner heq =>
      obtain ⟨⟨key', t⟩, hkey, h⟩ := bind_eq_ok_iff.mp h
      cases h
      obtain ⟨t, ht, hquoted⟩ := takeKey_eq_ok hkey
      exact ⟨inner, t, heq, ht, hquoted⟩
  · cases h

theorem delimited_of_nextKey {steps : Nat} {next : Option (List Char)}
    (h : nextKey steps false s = .ok (next, rest)) : Delimited s := by
  cases next with
  | none => exact delimited_of_skipBlank (nextKey_eq_none h) (by decide)
  | some key =>
      obtain ⟨inner, -, hopens, -⟩ := nextKey_eq_some h
      exact delimited_of_skipBlank hopens (by decide)

def ReadsAs {α : Type} (scan : Scan α) (keeps : Document → α → Prop) : Prop :=
  ∀ {s rest v}, scan s = .ok (v, rest) → Delimited rest →
    ∃ d, Spells (.value d) s rest ∧ keeps d v

section Lists

variable {α : Type} {scan : Scan α} {keeps : Document → α → Prop} {steps left : Nat}

theorem delimited_of_takeItems {vs : List α} (h : takeItems scan steps false s = .ok (vs, rest)) :
    Delimited s := by
  cases steps with
  | zero => cases h
  | succ steps =>
      unfold takeItems at h
      obtain ⟨next, hnext, -⟩ := bind_eq_ok_iff.mp h
      exact delimited_of_nextItem hnext

theorem spells_of_takeItems (hscan : ReadsAs scan keeps) {first : Bool} {vs : List α}
    (h : takeItems scan steps first s = .ok (vs, rest)) :
    ∃ ds, Spells (.items first ds) s rest ∧ List.Forall₂ keeps ds vs := by
  induction steps generalizing first s vs with
  | zero => cases h
  | succ steps ih =>
      unfold takeItems at h
      obtain ⟨next, hnext, h⟩ := bind_eq_ok_iff.mp h
      cases next with
      | none =>
          obtain ⟨t, hclose, h⟩ := bind_eq_ok_iff.mp h
          cases h
          exact ⟨[], .noItem (closeArray_eq_ok hclose), .nil⟩
      | some inner =>
          obtain ⟨⟨v, middle⟩, hread, h⟩ := bind_eq_ok_iff.mp h
          obtain ⟨⟨vs', t⟩, hrest, h⟩ := bind_eq_ok_iff.mp h
          cases h
          obtain ⟨t, hopens, rfl⟩ := nextItem_eq_some hnext
          obtain ⟨d, hd, hv⟩ := hscan hread (delimited_of_takeItems hrest)
          obtain ⟨ds, hds, hvs⟩ := ih hrest
          exact ⟨d :: ds, .item hopens hd.of_skipBlank hds, .cons hv hvs⟩

theorem delimited_of_takeEntries {vs : List (String × α)}
    (h : takeEntries steps scan left false s = .ok (vs, rest)) : Delimited s := by
  cases left with
  | zero => cases h
  | succ left =>
      unfold takeEntries at h
      obtain ⟨⟨next, t⟩, hnext, -⟩ := bind_eq_ok_iff.mp h
      exact delimited_of_nextKey hnext

def KeepsEntry (keeps : Document → α → Prop) (entry : List Nat × Document) (kept : String × α) :
    Prop :=
  entry.1 = Text.units kept.1.toList ∧ keeps entry.2 kept.2

theorem spells_of_takeEntries (hscan : ReadsAs scan keeps) {first : Bool}
    {vs : List (String × α)} (h : takeEntries steps scan left first s = .ok (vs, rest)) :
    ∃ es, Spells (.entries first es) s rest ∧ List.Forall₂ (KeepsEntry keeps) es vs := by
  induction left generalizing first s vs with
  | zero => cases h
  | succ left ih =>
      unfold takeEntries at h
      obtain ⟨⟨next, t⟩, hnext, h⟩ := bind_eq_ok_iff.mp h
      cases next with
      | none =>
          cases h
          exact ⟨[], .noEntry (nextKey_eq_none hnext), .nil⟩
      | some key =>
          obtain ⟨valueText, hcolon, h⟩ := bind_eq_ok_iff.mp h
          obtain ⟨⟨v, middle⟩, hread, h⟩ := bind_eq_ok_iff.mp h
          obtain ⟨⟨vs', t⟩, hrest, h⟩ := bind_eq_ok_iff.mp h
          cases h
          obtain ⟨inner, keyText, hopens, hquote, hkey⟩ := nextKey_eq_some hnext
          obtain ⟨d, hd, hv⟩ := hscan hread (delimited_of_takeEntries hrest)
          obtain ⟨es, hes, hvs⟩ := ih hrest
          refine ⟨(Text.units key, d) :: es, ?_, .cons ⟨by simp, hv⟩ hvs⟩
          exact .entry hopens hquote hkey (takeColon_eq_ok hcolon) hd hes

end Lists

/-! ## Values that are kept -/

theorem word_eq_ok {letters : List Char} (h : word letters s = .ok rest) :
    s = letters ++ rest := by
  induction letters generalizing s with
  | nil =>
      cases h
      rfl
  | cons letter letters ih =>
      cases s with
      | nil => cases h
      | cons c s =>
          unfold word at h
          split at h
          · next hc => rw [hc, ih h, List.cons_append]
          · cases h

theorem skipBlank_of_map_word {α : Type} {v v' : α} {c : Char} {t letters : List Char}
    (hs : skipBlank s = c :: t) (h : (word letters t).map (v, ·) = .ok (v', rest)) :
    skipBlank s = c :: (letters ++ rest) ∧ v' = v := by
  cases hword : word letters t with
  | error e =>
      rw [hword] at h
      cases h
  | ok t' =>
      rw [hword] at h
      cases h
      rw [hs, word_eq_ok hword]
      exact ⟨rfl, rfl⟩

/-- What is kept of a value, as far as its kind goes, and all of it if it is plain. -/
inductive Keeps : Document → Json → Prop
  | null : Keeps .null .null
  | bool (b : Bool) : Keeps (.bool b) (.bool b)
  | number {n : Numeral} {spelling : List Char} {v : Json} (h : n.Reads spelling)
      (hv : n.value? = some v) : Keeps (.number spelling) v
  | text (t : String) : Keeps (.text (Text.units t.toList)) (.text t)
  | array (ds : List Document) (vs : List Json) : Keeps (.array ds) (.array vs)
  | object (es : List (List Nat × Document)) (vs : List (String × Json)) :
      Keeps (.object es) (.object vs)

theorem spells_of_takeNumber {v : Json} (h : takeNumber s = .ok (v, rest))
    (hs : skipBlank s = s) (hrest : Delimited rest) :
    ∃ d, Spells (.value d) s rest ∧ Keeps d v := by
  unfold takeNumber at h
  obtain ⟨⟨n, t⟩, hnumeral, h⟩ := bind_eq_ok_iff.mp h
  dsimp only at h
  split at h
  · next hvalue =>
      cases h
      obtain ⟨spelling, hreads, hsplit⟩ := takeNumeral_eq_ok hnumeral
      refine ⟨.number spelling, .number ?_, .number hreads hvalue⟩
      rw [hs]
      exact ⟨hsplit, hreads.isNumber, hrest⟩
  · cases h

theorem readsAs_takeValue (levels steps : Nat) : ReadsAs (takeValue levels steps) Keeps := by
  -- on the levels alone: what is inside is read with one less and the same steps
  induction levels using Nat.strongRecOn with
  | ind levels ih =>
      intro s rest v h hrest
      unfold takeValue at h
      split at h
      · cases h
      · next hs =>
          obtain ⟨hnull, rfl⟩ := skipBlank_of_map_word hs h
          exact ⟨.null, .null hnull, .null⟩
      · next hs =>
          obtain ⟨htrue, rfl⟩ := skipBlank_of_map_word hs h
          exact ⟨.bool true, .isTrue htrue, .bool true⟩
      · next hs =>
          obtain ⟨hfalse, rfl⟩ := skipBlank_of_map_word hs h
          exact ⟨.bool false, .isFalse hfalse, .bool false⟩
      · next hs =>
          obtain ⟨⟨cs, t⟩, htext, h⟩ := bind_eq_ok_iff.mp h
          cases h
          refine ⟨.text (Text.units cs), .text hs (quoted_of_takeText htext), ?_⟩
          simpa using Keeps.text (String.ofList cs)
      · next hs =>
          split at h
          · cases h
          · next levels =>
              obtain ⟨⟨vs, t⟩, hitems, h⟩ := bind_eq_ok_iff.mp h
              cases h
              obtain ⟨ds, hds, -⟩ := spells_of_takeItems (ih levels (Nat.lt_succ_self _)) hitems
              exact ⟨.array ds, .array hs hds, .array ds vs⟩
      · next hs =>
          split at h
          · cases h
          · next levels =>
              obtain ⟨⟨vs, t⟩, hentries, h⟩ := bind_eq_ok_iff.mp h
              cases h
              obtain ⟨es, hes, -⟩ :=
                spells_of_takeEntries (ih levels (Nat.lt_succ_self _)) hentries
              exact ⟨.object es, .object hs hes, .object es _⟩
      · next c t _ _ _ _ _ _ hs =>
          split at h
          · have hblank : skipBlank (c :: t) = c :: t := by
              rw [← hs, skipBlank_skipBlank]
            obtain ⟨d, hd, hv⟩ := spells_of_takeNumber h hblank hrest
            rw [← hs] at hd
            exact ⟨d, hd.of_skipBlank, hv⟩
          · cases h

/-! ## Values that are passed over -/

theorem delimited_of_skipItems {steps : Nat} (h : skipItems steps false s = .ok rest) :
    Delimited s := by
  cases steps with
  | zero => simp [skipItems] at h
  | succ steps =>
      unfold skipItems at h
      obtain ⟨next, hnext, -⟩ := bind_eq_ok_iff.mp h
      exact delimited_of_nextItem hnext

theorem skipEntries_eq_ok {steps : Nat} {first : Bool}
    (h : skipEntries (steps + 1) first s = .ok rest) :
    skipBlank s = '\x7d' :: rest ∨
      ∃ inner t us afterKey valueText middle, Opens first s inner ∧ skipBlank inner = '"' :: t ∧
        Quoted us t afterKey ∧ skipBlank afterKey = ':' :: valueText ∧
        skipValue steps valueText = .ok middle ∧ skipEntries steps false middle = .ok rest := by
  have hentry {inner t : List Char} (hopens : Opens first s inner)
      (hquote : skipBlank inner = '"' :: t)
      (h : (do skipEntries steps false (← skipValue steps (← takeColon (← skipText steps t)))) =
        .ok rest) :
      ∃ inner t us afterKey valueText middle, Opens first s inner ∧ skipBlank inner = '"' :: t ∧
        Quoted us t afterKey ∧ skipBlank afterKey = ':' :: valueText ∧
        skipValue steps valueText = .ok middle ∧ skipEntries steps false middle = .ok rest := by
    obtain ⟨afterKey, hkey, h⟩ := bind_eq_ok_iff.mp h
    obtain ⟨valueText, hcolon, h⟩ := bind_eq_ok_iff.mp h
    obtain ⟨middle, hread, h⟩ := bind_eq_ok_iff.mp h
    obtain ⟨us, hquoted⟩ := quoted_of_skipText hkey
    exact ⟨inner, t, us, afterKey, valueText, middle, hopens, hquote, hquoted,
      takeColon_eq_ok hcolon, hread, h⟩
  unfold skipEntries at h
  split at h
  · next heq =>
      cases h
      exact .inl heq
  · next heq => exact .inr (hentry rfl heq h)
  · cases h
  · next heq =>
      split at h
      · next heq' => exact .inr (hentry heq heq' h)
      · cases h
  · cases h

theorem delimited_of_skipEntries {steps : Nat} (h : skipEntries steps false s = .ok rest) :
    Delimited s := by
  cases steps with
  | zero => simp [skipEntries] at h
  | succ steps =>
      rcases skipEntries_eq_ok h with hclose | ⟨inner, -, -, -, -, -, hopens, -⟩
      · exact delimited_of_skipBlank hclose (by decide)
      · exact delimited_of_skipBlank hopens (by decide)

section Passing

variable {steps : Nat}
  (hvalue : ∀ {s rest}, skipValue steps s = .ok rest → Delimited rest →
    ∃ d, Spells (.value d) s rest)
  (hitems : ∀ {first s rest}, skipItems steps first s = .ok rest →
    ∃ ds, Spells (.items first ds) s rest)
  (hentries : ∀ {first s rest}, skipEntries steps first s = .ok rest →
    ∃ es, Spells (.entries first es) s rest)

include hitems hentries in
theorem spells_of_skipValue_succ (h : skipValue (steps + 1) s = .ok rest)
    (hrest : Delimited rest) : ∃ d, Spells (.value d) s rest := by
  unfold skipValue at h
  split at h
  · cases h
  · next hs => exact ⟨.null, .null (by rw [hs, word_eq_ok h]; rfl)⟩
  · next hs => exact ⟨.bool true, .isTrue (by rw [hs, word_eq_ok h]; rfl)⟩
  · next hs => exact ⟨.bool false, .isFalse (by rw [hs, word_eq_ok h]; rfl)⟩
  · next hs =>
      obtain ⟨us, htext⟩ := quoted_of_skipText h
      exact ⟨.text us, .text hs htext⟩
  · next hs =>
      obtain ⟨ds, hds⟩ := hitems h
      exact ⟨.array ds, .array hs hds⟩
  · next hs =>
      obtain ⟨es, hes⟩ := hentries h
      exact ⟨.object es, .object hs hes⟩
  · next c t _ _ _ _ _ _ hs =>
      split at h
      · cases hnumeral : takeNumeral .malformed (c :: t) with
        | error e =>
            rw [hnumeral] at h
            cases h
        | ok read =>
            rw [hnumeral] at h
            cases h
            obtain ⟨spelling, hreads, hsplit⟩ := takeNumeral_eq_ok hnumeral
            refine ⟨.number spelling, .number ?_⟩
            rw [hs]
            exact ⟨hsplit, hreads.isNumber, hrest⟩
      · cases h

include hvalue hitems in
theorem spells_of_skipItems_succ {first : Bool} (h : skipItems (steps + 1) first s = .ok rest) :
    ∃ ds, Spells (.items first ds) s rest := by
  unfold skipItems at h
  obtain ⟨next, hnext, h⟩ := bind_eq_ok_iff.mp h
  cases next with
  | none => exact ⟨[], .noItem (closeArray_eq_ok h)⟩
  | some inner =>
      obtain ⟨middle, hread, hrest⟩ := bind_eq_ok_iff.mp h
      obtain ⟨t, hopens, rfl⟩ := nextItem_eq_some hnext
      obtain ⟨d, hd⟩ := hvalue hread (delimited_of_skipItems hrest)
      obtain ⟨ds, hds⟩ := hitems hrest
      exact ⟨d :: ds, .item hopens hd.of_skipBlank hds⟩

include hvalue hentries in
theorem spells_of_skipEntries_succ {first : Bool}
    (h : skipEntries (steps + 1) first s = .ok rest) :
    ∃ es, Spells (.entries first es) s rest := by
  rcases skipEntries_eq_ok h with hclose |
    ⟨inner, t, us, afterKey, valueText, middle, hopens, hquote, hkey, hcolon, hread, h⟩
  · exact ⟨[], .noEntry hclose⟩
  · obtain ⟨d, hd⟩ := hvalue hread (delimited_of_skipEntries h)
    obtain ⟨es, hes⟩ := hentries h
    exact ⟨(us, d) :: es, .entry hopens hquote hkey hcolon hd hes⟩

end Passing

theorem spells_of_skip (steps : Nat) :
    (∀ {s rest}, skipValue steps s = .ok rest → Delimited rest →
      ∃ d, Spells (.value d) s rest) ∧
    (∀ {first s rest}, skipItems steps first s = .ok rest →
      ∃ ds, Spells (.items first ds) s rest) ∧
    ∀ {first s rest}, skipEntries steps first s = .ok rest →
      ∃ es, Spells (.entries first es) s rest := by
  induction steps with
  | zero => simp [skipValue, skipItems, skipEntries]
  | succ steps ih =>
      obtain ⟨hvalue, hitems, hentries⟩ := ih
      refine ⟨?_, ?_, ?_⟩
      · intro s rest h hrest
        exact spells_of_skipValue_succ hitems hentries h hrest
      · intro first s rest h
        exact spells_of_skipItems_succ hvalue hitems h
      · intro first s rest h
        exact spells_of_skipEntries_succ hvalue hentries h

end VoiceHub.Json
