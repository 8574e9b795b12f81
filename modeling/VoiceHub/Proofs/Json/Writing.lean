import VoiceHub.Json
import VoiceHub.Proofs.Json.Grammar

/-!
# What a written value says

A value that is written says a document by the grammar, at whatever place it stands.  An
escape stands for the character itself, and a number has no zero before it.  Which digits a
float has is left open; that the first of them is no zero is what makes it a number.
-/

namespace VoiceHub

namespace Json

/-! ## Texts -/

theorem escaped?_of_escapeLetter? {c letter : Char} (h : escapeLetter? c = some letter) :
    escaped? letter = some c := by
  unfold escapeLetter? at h
  split_ifs at h
  all_goals
    cases h
    subst c
    rfl

theorem hexUnit?_lower {n : Nat} (h : n < 0x20) :
    hexUnit? '0' '0' (Hex.lower (n / 16)) (Hex.lower (n % 16)) = some n := by
  interval_cases n <;> rfl

theorem quoted_escapeChar (c : Char) {us : List Nat} {s rest : List Char}
    (h : Quoted us s rest) : Quoted (Text.utf16 c ++ us) (escapeChar c ++ s) rest := by
  unfold escapeChar
  split
  · next hc =>
      rcases hc with rfl | rfl
      · exact .escape rfl h
      · exact .escape rfl h
  · next hc =>
      split
      · next letter hletter => exact .escape (escaped?_of_escapeLetter? hletter) h
      · split
        · next hcontrol =>
            have hunits : Text.utf16 c = [c.toNat] := by
              unfold Text.utf16
              rw [if_pos (by omega)]
            rw [hunits]
            exact .unit (hexUnit?_lower hcontrol) h
        · next hcontrol =>
            exact .char (Nat.not_lt.mp hcontrol) (fun h => hc (.inl h)) (fun h => hc (.inr h)) h

theorem quoted_flatMap_escapeChar (cs rest : List Char) :
    Quoted (Text.units cs) (cs.flatMap escapeChar ++ '"' :: rest) rest := by
  induction cs with
  | nil => exact .close
  | cons c cs ih =>
      rw [List.flatMap_cons, List.append_assoc]
      exact quoted_escapeChar c ih

/-! ## Numbers -/

theorem isWhole_digits (n : Nat) : IsWhole (Decimal.digits n) := by
  refine ⟨⟨Decimal.digits_ne_nil n, fun c hc => Decimal.isDigit_of_mem_digits hc⟩, fun hzero => ?_⟩
  fun_induction Decimal.digits n with
  | case1 n hsmall => exact congrArg (fun c => [c]) (Option.some.inj hzero)
  | case2 n hlarge ih =>
      -- the front would be a zero, so the number would be less than ten
      have hfront : Decimal.digits (n / 10) = ['0'] := by
        apply ih
        obtain ⟨c, cs, hdigits⟩ := List.exists_cons_of_ne_nil (Decimal.digits_ne_nil (n / 10))
        rw [hdigits] at hzero ⊢
        exact hzero
      have hvalue := Decimal.value_digits (n / 10)
      rw [hfront] at hvalue
      have hquotient : n / 10 = 0 := hvalue.symm
      omega

theorem isNumber_ofInt (z : Int) : IsNumber (Decimal.ofInt z) := by
  cases z with
  | ofNat n => exact ⟨[], _, [], [], .inl rfl, isWhole_digits n, .inl rfl, .inl rfl, by
      simp [Decimal.ofInt]⟩
  | negSucc n => exact ⟨['-'], _, [], [], .inr rfl, isWhole_digits (n + 1), .inl rfl, .inl rfl, by
      simp [Decimal.ofInt]⟩

/-! ## Floats -/

end Json

namespace Decimal.Binary

variable {b : Binary} {d : Scientific}

/-- Zero rounds to no value but zero. -/
theorem digits_ne_zero_of_covers (hm : b.m ≠ 0) (h : b.covers d = true) : d.digits ≠ 0 := by
  intro hzero
  let below := if b.narrow then 4 * b.m - 1 else 4 * b.m - 2
  have hbelow : 0 < below := by
    dsimp only [below]
    split <;> omega
  have hlow : d.compareBinary below (b.q - 2) = .lt := by
    unfold Scientific.compareBinary
    rw [hzero, Nat.zero_mul, Nat.zero_mul, Nat.compare_eq_lt]
    exact Nat.mul_pos (Nat.mul_pos hbelow (Nat.pow_pos (by decide))) (Nat.pow_pos (by decide))
  have hnot : b.covers d = false := by
    unfold covers
    simp [below, hlow]
  rw [hnot] at h
  cases h

theorem covers_of_pointOn {exponent : Int} (h : b.pointOn exponent = some d) :
    b.covers d = true := by
  unfold pointOn at h
  dsimp only at h
  split at h
  · next hlower hupper =>
      split at h
      · cases h
        exact hlower
      · cases h
        exact hupper
      · split at h
        · cases h
          exact hlower
        · cases h
          exact hupper
  · next hlower _ =>
      cases h
      exact hlower
  · next hupper =>
      cases h
      exact hupper
  · cases h

theorem digits_shortest_ne_zero (hm : b.m ≠ 0) : b.shortest.digits ≠ 0 := by
  unfold shortest
  cases hfound : (List.range 634).findSome? fun i : Nat => b.pointOn (309 - (i : Int)) with
  | some d =>
      obtain ⟨i, -, hpoint⟩ := List.exists_of_findSome?_eq_some hfound
      exact digits_ne_zero_of_covers hm (covers_of_pointOn hpoint)
  | none =>
      rw [Option.getD_none]
      unfold exact
      split
      · exact Nat.mul_ne_zero hm (Nat.pos_iff_ne_zero.mp (Nat.pow_pos (by decide)))
      · exact Nat.mul_ne_zero hm (Nat.pos_iff_ne_zero.mp (Nat.pow_pos (by decide)))

end Decimal.Binary

namespace Json

theorem isDigit_of_mem_zeros {n : Nat} {c : Char} (h : c ∈ List.replicate n '0') :
    c.isDigit = true := by
  rw [List.eq_of_mem_replicate h]
  decide

section Float

variable {sign ds : List Char} (hsign : sign = [] ∨ sign = ['-'])

include hsign

theorem isNumber_positional (hds : IsDigits ds) (hhead : ds.head? ≠ some '0') (point : Int) :
    IsNumber (sign ++ positional ds point) := by
  unfold positional
  split
  · have hfraction : IsDigits (List.replicate (-point).toNat '0' ++ ds) := by
      refine ⟨by simp [hds.1], fun c hc => ?_⟩
      rcases List.mem_append.mp hc with hc | hc
      · exact isDigit_of_mem_zeros hc
      · exact hds.2 c hc
    exact ⟨sign, ['0'], _, [], hsign, ⟨⟨nofun, by simp⟩, fun _ => rfl⟩,
      .inr ⟨_, hfraction, rfl⟩, .inl rfl, by simp⟩
  · next hpoint =>
      obtain ⟨c, cs, rfl⟩ := List.exists_cons_of_ne_nil hds.1
      obtain ⟨n, hn⟩ : ∃ n, point.toNat = n + 1 := ⟨point.toNat - 1, by omega⟩
      have hwhole : IsWhole ((c :: cs).take point.toNat ++
          List.replicate (point.toNat - (c :: cs).length) '0') := by
        refine ⟨⟨by simp [hn], fun d hd => ?_⟩, fun hzero => ?_⟩
        · rcases List.mem_append.mp hd with hd | hd
          · exact hds.2 d (List.mem_of_mem_take hd)
          · exact isDigit_of_mem_zeros hd
        · rw [hn, List.take_succ_cons] at hzero
          exact absurd hzero hhead
      have hfraction : IsDigits (if ((c :: cs).drop point.toNat).isEmpty then ['0']
          else (c :: cs).drop point.toNat) := by
        split
        · exact ⟨nofun, by simp⟩
        · next hne => exact ⟨by simpa using hne, fun d hd => hds.2 d (List.mem_of_mem_drop hd)⟩
      exact ⟨sign, _, _, [], hsign, hwhole, .inr ⟨_, hfraction, rfl⟩, .inl rfl, by simp⟩

theorem isNumber_withExponent (hds : IsDigits ds) (exponent : Int) :
    IsNumber (sign ++ withExponent ds exponent) := by
  obtain ⟨c, cs, rfl⟩ := List.exists_cons_of_ne_nil hds.1
  have hwhole : IsWhole [c] := by
    refine ⟨⟨nofun, by simp [hds.2 c]⟩, fun hzero => ?_⟩
    rw [Option.some.inj hzero]
  have hfraction : IsFraction (if cs.isEmpty then [] else '.' :: cs) := by
    split
    · exact .inl rfl
    · next hne =>
        exact .inr ⟨cs, ⟨by simpa using hne, fun d hd => hds.2 d (List.mem_cons_of_mem c hd)⟩, rfl⟩
  have hexponent : IsExponent ('e' :: (if exponent < 0 then '-' else '+') ::
      Decimal.digits exponent.natAbs) := by
    refine .inr ⟨'e', [if exponent < 0 then '-' else '+'], _, .inl rfl, ?_,
      (isWhole_digits exponent.natAbs).1, rfl⟩
    split <;> simp
  exact ⟨sign, [c], _, _, hsign, hwhole, hfraction, hexponent, by simp [withExponent]⟩

theorem isNumber_writeScientific {d : Decimal.Scientific} (h : d.digits ≠ 0) :
    IsNumber (sign ++ writeScientific d) := by
  have hdigits := (isWhole_digits d.digits).1
  have hhead : (Decimal.digits d.digits).head? ≠ some '0' := by
    intro hzero
    have hvalue := Decimal.value_digits d.digits
    rw [(isWhole_digits d.digits).2 hzero] at hvalue
    exact h hvalue.symm
  unfold writeScientific
  dsimp only
  split
  · exact isNumber_positional hsign hdigits hhead _
  · exact isNumber_withExponent hsign hdigits _

end Float

theorem isNumber_writeFloat {f : Float} (h : (f.isNaN || f.isInf) = false) :
    IsNumber (writeFloat f) := by
  have hsign : (if f.toBits >>> 63 = 1 then ['-'] else []) = [] ∨
      (if f.toBits >>> 63 = 1 then ['-'] else []) = ['-'] := by
    split <;> simp
  unfold writeFloat
  rw [if_neg (ne_true_of_eq_false h)]
  dsimp only
  by_cases hm : (Decimal.Binary.ofBits f.toBits).m = 0
  · rw [if_pos hm]
    exact ⟨_, ['0'], ['.', '0'], [], hsign, ⟨⟨nofun, by simp⟩, fun _ => rfl⟩,
      .inr ⟨['0'], ⟨nofun, by simp⟩, rfl⟩, .inl rfl, by simp⟩
  · rw [if_neg hm]
    exact isNumber_writeScientific hsign (Decimal.Binary.digits_shortest_ne_zero hm)

theorem IsNumber.number {spelling : List Char} (h : IsNumber spelling) {rest : List Char}
    (hrest : Delimited rest) : Number spelling (skipBlank (spelling ++ rest)) rest := by
  obtain ⟨c, cs, hspelling, hc⟩ := h.exists_cons
  have hblank : isBlank c = false := by
    have hnumber := h.isNumberChar (c := c) (by simp [hspelling])
    have hnot := not_isDelimiter hnumber
    simp only [isDelimiter, Bool.or_eq_false_iff] at hnot
    exact hnot.1.1.1
  refine ⟨?_, h, hrest⟩
  rw [hspelling, skipBlank, List.cons_append, List.dropWhile_cons_of_neg (by simp [hblank])]

/-! ## Values -/

mutual

def document : Json → Document
  | .null => .null
  | .bool b => .bool b
  | .int z => .number (Decimal.ofInt z)
  | .float f => if f.isNaN || f.isInf then .null else .number (writeFloat f)
  | .text t => .ofText t
  | .array items => .array (documents items)
  | .object entries => .object (entryDocuments entries)

def documents : List Json → List Document
  | [] => []
  | item :: items => document item :: documents items

def entryDocuments : List (String × Json) → List (List Nat × Document)
  | [] => []
  | (key, value) :: entries =>
      (Text.units key.toList, document value) :: entryDocuments entries

end

theorem documents_map {α : Type} (f : α → Json) (items : List α) :
    documents (items.map f) = items.map fun a => document (f a) := by
  induction items with
  | nil => rfl
  | cons a items ih => simp [documents, ih]

theorem entryDocuments_map {α : Type} (f : α → Json) (entries : List (String × α)) :
    entryDocuments (entries.map fun (key, a) => (key, f a)) =
      entries.map fun (key, a) => (Text.units key.toList, document (f a)) := by
  induction entries with
  | nil => rfl
  | cons entry entries ih => simp [entryDocuments, ih]

theorem delimited_cons {c : Char} (hc : isDelimiter c = true) (rest : List Char) :
    Delimited (c :: rest) := by
  intro first hfirst
  rw [← Option.some.inj hfirst]
  exact hc

theorem Spells.entry_of_writeText {key : String} {first : Bool} {d : Document}
    {es : List (List Nat × Document)} {s valueText middle rest : List Char}
    (hopens : Opens first s (writeText key ++ ':' :: valueText))
    (hvalue : Spells (.value d) valueText middle) (hentries : Spells (.entries false es) middle rest) :
    Spells (.entries first ((Text.units key.toList, d) :: es)) s rest := by
  rw [writeText, List.append_assoc] at hopens
  exact .entry hopens rfl (quoted_flatMap_escapeChar key.toList (':' :: valueText)) rfl hvalue hentries

mutual

theorem spells_write : ∀ (v : Json) {rest : List Char}, Delimited rest →
    Spells (.value v.document) (v.write ++ rest) rest
  | .null, _, _ => .null rfl
  | .bool true, _, _ => .isTrue rfl
  | .bool false, _, _ => .isFalse rfl
  | .int z, _, hrest => .number ((isNumber_ofInt z).number hrest)
  | .float f, rest, hrest => by
      rw [document, write]
      cases hfinite : f.isNaN || f.isInf with
      | true =>
          rw [writeFloat, if_pos hfinite]
          exact .null rfl
      | false => exact .number ((isNumber_writeFloat hfinite).number hrest)
  | .text t, rest, _ => by
      rw [document, write, writeText, List.append_assoc]
      exact .text rfl (quoted_flatMap_escapeChar t.toList rest)
  | .array items, rest, _ => by
      rw [document, write, List.append_assoc]
      apply Spells.array rfl
      by_cases hitems : items = []
      · subst hitems
        exact .noItem rfl
      · exact spells_writeItems items hitems rfl
  | .object entries, rest, _ => by
      rw [document, write, List.append_assoc]
      apply Spells.object rfl
      by_cases hentries : entries = []
      · subst hentries
        exact .noEntry rfl
      · exact spells_writeEntries entries hentries rfl

theorem spells_writeItems : ∀ (items : List Json) {first : Bool} {s rest : List Char},
    items ≠ [] → Opens first s (writeItems items ++ ']' :: rest) →
      Spells (.items first (documents items)) s rest
  | [], _, _, _, hne, _ => absurd rfl hne
  | [item], _, _, rest, _, hopens =>
      .item hopens (spells_write item (delimited_cons rfl rest)) (.noItem rfl)
  | item :: next :: more, _, _, rest, _, hopens => by
      rw [writeItems, List.append_assoc] at hopens
      · exact .item hopens (spells_write item (delimited_cons rfl _))
          (spells_writeItems (next :: more) (List.cons_ne_nil _ _) rfl)
      · exact List.cons_ne_nil _ _

theorem spells_writeEntries : ∀ (entries : List (String × Json)) {first : Bool}
    {s rest : List Char}, entries ≠ [] →
      Opens first s (writeEntries entries ++ '\x7d' :: rest) →
        Spells (.entries first (entryDocuments entries)) s rest
  | [], _, _, _, hne, _ => absurd rfl hne
  | [(key, value)], _, _, rest, _, hopens => by
      rw [writeEntries, List.append_assoc] at hopens
      exact .entry_of_writeText hopens (spells_write value (delimited_cons rfl rest)) (.noEntry rfl)
  | (key, value) :: next :: more, _, _, rest, _, hopens => by
      rw [writeEntries, List.append_assoc, List.append_assoc] at hopens
      · exact .entry_of_writeText hopens (spells_write value (delimited_cons rfl _))
          (spells_writeEntries (next :: more) (List.cons_ne_nil _ _) rfl)
      · exact List.cons_ne_nil _ _

end

theorem says_compact (v : Json) : Says v.compact v.document := by
  refine ⟨[], ?_, rfl⟩
  rw [compact, String.toList_ofList, ← List.append_nil v.write]
  apply spells_write v
  intro c hc
  cases hc

end Json

end VoiceHub
