import Mathlib.Data.List.TakeWhile
import VoiceHub.Proofs.Json.Grammar

/-!
# Texts and numbers as they are read

A scan that succeeds has read what stands there by the grammar.  Of a text that is kept
the units are those that stand there, and a whole number of 64 bits is kept exactly.
-/

namespace VoiceHub.Json

theorem bind_eq_ok_iff {ε α β : Type} {x : Except ε α} {next : α → Except ε β} {b : β} :
    (x >>= next) = .ok b ↔ ∃ a, x = .ok a ∧ next a = .ok b := by
  cases x <;> simp [bind, Except.bind]

variable {s rest : List Char}

/-! ## Texts -/

theorem hexDigit?_lt {x : Char} {n : Nat} (h : Hex.digit? x = some n) : n < 16 := by
  unfold Hex.digit? at h
  split at h
  · next hdecimal =>
      obtain ⟨d, hd, rfl⟩ := Decimal.exists_digitChar_of_isDigit hdecimal
      rw [Decimal.toNat_digitChar hd] at h
      simp at h
      omega
  · split at h
    · next hlower =>
        have hle : x.toNat ≤ 'f'.toNat := UInt32.le_iff_toNat_le.mp hlower.2
        simp at h hle
        omega
    · split at h
      · next hupper =>
          have hle : x.toNat ≤ 'F'.toNat := UInt32.le_iff_toNat_le.mp hupper.2
          simp at h hle
          omega
      · cases h

theorem hexUnit?_lt {a b c d : Char} {u : Nat} (h : hexUnit? a b c d = some u) : u < 0x10000 := by
  unfold hexUnit? at h
  cases ha : Hex.digit? a <;> cases hb : Hex.digit? b <;> cases hc : Hex.digit? c <;>
    cases hd : Hex.digit? d <;> simp [ha, hb, hc, hd] at h
  have hda := hexDigit?_lt ha
  have hdb := hexDigit?_lt hb
  have hdc := hexDigit?_lt hc
  have hdd := hexDigit?_lt hd
  omega

theorem takeUnit_eq_ok {u : Nat} (h : takeUnit s = .ok (u, rest)) :
    ∃ a b c d, s = a :: b :: c :: d :: rest ∧ hexUnit? a b c d = some u := by
  unfold takeUnit at h
  split at h
  · next a b c d s =>
      cases hunit : hexUnit? a b c d with
      | none => simp [hunit] at h
      | some n =>
          simp only [hunit, Except.ok.injEq, Prod.mk.injEq] at h
          obtain ⟨rfl, rfl⟩ := h
          exact ⟨a, b, c, d, rfl, hunit⟩
  · cases h

theorem toNat_ofNat {n : Nat} (h : n.isValidChar) : (Char.ofNat n).toNat = n := by
  rw [Char.ofNat, dif_pos h]
  rfl

theorem utf16_ofNat {u : Nat} (h : u < 0x10000) (hhigh : isHighUnit u = false)
    (hlow : isLowUnit u = false) : Text.utf16 (Char.ofNat u) = [u] := by
  have hvalid : u.isValidChar := by
    simp [isHighUnit, isLowUnit] at hhigh hlow
    unfold Nat.isValidChar
    omega
  unfold Text.utf16
  rw [toNat_ofNat hvalid, if_pos h]

theorem utf16_joinUnits {high low : Nat} (hhigh : isHighUnit high = true)
    (hlow : isLowUnit low = true) : Text.utf16 (joinUnits high low) = [high, low] := by
  simp [isHighUnit, isLowUnit] at hhigh hlow
  have hvalid : (0x10000 + (high - 0xD800) * 0x400 + (low - 0xDC00)).isValidChar := by
    unfold Nat.isValidChar
    omega
  unfold Text.utf16 joinUnits
  rw [toNat_ofNat hvalid, if_neg (by omega)]
  simp only [List.cons.injEq, and_true]
  omega

theorem takeLowUnit_eq_ok {high : Nat} {c : Char} (h : takeLowUnit high s = .ok (c, rest)) :
    ∃ t low, s = '\\' :: 'u' :: t ∧ takeUnit t = .ok (low, rest) ∧ isLowUnit low = true ∧
      c = joinUnits high low := by
  unfold takeLowUnit at h
  split at h
  · cases h
  · cases h
  · next t =>
      obtain ⟨⟨low, t'⟩, hunit, hread⟩ := bind_eq_ok_iff.mp h
      dsimp only at hread
      split at hread
      · next hlow =>
          simp only [Except.ok.injEq, Prod.mk.injEq] at hread
          obtain ⟨rfl, rfl⟩ := hread
          exact ⟨t, low, rfl, hunit, hlow, rfl⟩
      · cases hread
  · cases h

/-- A pair of halves stands for one character. -/
theorem quoted_of_takeEscape {c : Char} {us : List Nat} {tail : List Char}
    (h : takeEscape s = .ok (c, rest)) (hrest : Quoted us rest tail) :
    Quoted (Text.utf16 c ++ us) ('\\' :: s) tail := by
  unfold takeEscape at h
  split at h
  · cases h
  · next s =>
      obtain ⟨⟨u, s'⟩, hunit, hread⟩ := bind_eq_ok_iff.mp h
      obtain ⟨a₁, a₂, a₃, a₄, rfl, hhex⟩ := takeUnit_eq_ok hunit
      dsimp only at hread
      split at hread
      · cases hread
      · next hlow =>
          split at hread
          · next hhigh =>
              obtain ⟨t, low, rfl, hlowUnit, hislow, hc⟩ := takeLowUnit_eq_ok hread
              obtain ⟨b₁, b₂, b₃, b₄, rfl, hhex'⟩ := takeUnit_eq_ok hlowUnit
              rw [hc, utf16_joinUnits hhigh hislow]
              exact .unit hhex (.unit hhex' hrest)
          · next hhigh =>
              simp only [Except.ok.injEq, Prod.mk.injEq] at hread
              obtain ⟨rfl, rfl⟩ := hread
              rw [utf16_ofNat (hexUnit?_lt hhex) (by simpa using hhigh) (by simpa using hlow)]
              exact .unit hhex hrest
  · next letter s _ =>
      cases hletter : escaped? letter with
      | none => simp [hletter] at h
      | some found =>
          simp only [hletter, Except.ok.injEq, Prod.mk.injEq] at h
          obtain ⟨rfl, rfl⟩ := h
          exact .escape hletter hrest

theorem quoted_of_takeText {steps : Nat} {cs : List Char} (h : takeText steps s = .ok (cs, rest)) :
    Quoted (Text.units cs) s rest := by
  fun_induction takeText steps s generalizing cs rest with
  | case1 | case2 | case5 => cases h
  | case3 =>
      cases h
      exact .close
  | case4 steps s ih =>
      obtain ⟨⟨c, s'⟩, hescape, h⟩ := bind_eq_ok_iff.mp h
      obtain ⟨⟨cs', s''⟩, htext, h⟩ := bind_eq_ok_iff.mp h
      cases h
      exact quoted_of_takeEscape hescape (ih s' htext)
  | case6 steps c s hquote hslash hcontrol ih =>
      obtain ⟨⟨cs', s'⟩, htext, h⟩ := bind_eq_ok_iff.mp h
      cases h
      exact .char (Nat.not_lt.mp hcontrol) hquote hslash (ih htext)

theorem quoted_of_skipEscape {us : List Nat} {tail : List Char}
    (h : skipEscape s = .ok rest) (hrest : Quoted us rest tail) :
    ∃ vs, Quoted vs ('\\' :: s) tail := by
  unfold skipEscape at h
  split at h
  · cases h
  · next s =>
      cases hunit : takeUnit s with
      | error e => simp [hunit, Except.map] at h
      | ok read =>
          simp only [hunit, Except.map, Except.ok.injEq] at h
          obtain ⟨u, s'⟩ := read
          obtain ⟨a, b, c, d, rfl, hhex⟩ := takeUnit_eq_ok hunit
          rw [show s' = rest from h]
          exact ⟨_, .unit hhex hrest⟩
  · next letter s _ =>
      cases hletter : escaped? letter with
      | none => simp [hletter] at h
      | some found =>
          simp only [hletter, Option.isSome_some, if_true, Except.ok.injEq] at h
          rw [h]
          exact ⟨_, .escape hletter hrest⟩

theorem quoted_of_skipText {steps : Nat} (h : skipText steps s = .ok rest) :
    ∃ us, Quoted us s rest := by
  fun_induction skipText steps s generalizing rest with
  | case1 | case2 | case5 => cases h
  | case3 =>
      cases h
      exact ⟨[], .close⟩
  | case4 steps s ih =>
      obtain ⟨s', hescape, htext⟩ := bind_eq_ok_iff.mp h
      obtain ⟨us, hquoted⟩ := ih s' htext
      exact quoted_of_skipEscape hescape hquoted
  | case6 steps c s hquote hslash hcontrol ih =>
      obtain ⟨us, hquoted⟩ := ih h
      exact ⟨_, .char (Nat.not_lt.mp hcontrol) hquote hslash hquoted⟩

/-! ## Numbers -/

structure Numeral.Reads (n : Numeral) (spelling : List Char) : Prop where
  whole : IsWhole n.whole
  parts : ∃ fraction exponent, IsFraction fraction ∧ (fraction = [] ↔ n.fraction = []) ∧
    IsExponent exponent ∧ (exponent = [] ↔ n.exponent = none) ∧
      spelling = (if n.negative then ['-'] else []) ++ n.whole ++ fraction ++ exponent

theorem Numeral.Reads.isNumber {n : Numeral} {spelling : List Char} (h : n.Reads spelling) :
    IsNumber spelling := by
  obtain ⟨fraction, exponent, hfraction, -, hexponent, -, rfl⟩ := h.parts
  refine ⟨_, n.whole, fraction, exponent, ?_, h.whole, hfraction, hexponent, rfl⟩
  cases n.negative <;> simp

theorem takeDigits_eq_ok {e : ReadError} {ds : List Char} (h : takeDigits e s = .ok (ds, rest)) :
    IsDigits ds ∧ s = ds ++ rest := by
  unfold takeDigits at h
  split at h
  · cases h
  · next c t =>
      split at h
      · next hc =>
          cases h
          refine ⟨⟨by simp, ?_⟩, ?_⟩
          · intro d hd
            rcases List.mem_cons.mp hd with rfl | hd
            · exact hc
            · exact List.mem_takeWhile_imp hd
          · rw [List.cons_append, List.takeWhile_append_dropWhile]
      · cases h

theorem takeWhole_eq_ok {e : ReadError} {ds : List Char} (h : takeWhole e s = .ok (ds, rest)) :
    IsWhole ds ∧ s = ds ++ rest := by
  unfold takeWhole at h
  split at h
  · split at h
    · cases h
    · cases h
      exact ⟨⟨⟨by simp, by simp⟩, fun _ => rfl⟩, rfl⟩
  · next hzero =>
      obtain ⟨hdigits, rfl⟩ := takeDigits_eq_ok h
      refine ⟨⟨hdigits, ?_⟩, rfl⟩
      intro hhead
      cases ds with
      | nil => cases hhead
      | cons d ds =>
          cases hhead
          exact absurd rfl (hzero _)

theorem takeFraction_eq_ok {e : ReadError} {ds : List Char}
    (h : takeFraction e s = .ok (ds, rest)) :
    ∃ cs, IsFraction cs ∧ (cs = [] ↔ ds = []) ∧ s = cs ++ rest := by
  unfold takeFraction at h
  split at h
  · obtain ⟨hdigits, rfl⟩ := takeDigits_eq_ok h
    refine ⟨'.' :: ds, .inr ⟨ds, hdigits, rfl⟩, ?_, rfl⟩
    simp [hdigits.1]
  · cases h
    exact ⟨[], .inl rfl, by simp, rfl⟩

theorem takeExponent_eq_ok {e : ReadError} {x : Option Int}
    (h : takeExponent e s = .ok (x, rest)) :
    ∃ cs, IsExponent cs ∧ (cs = [] ↔ x = none) ∧ s = cs ++ rest := by
  have hmarked {mark : Char} {t : List Char} (hmark : mark = 'e' ∨ mark = 'E')
      (h : takeExponent e ('e' :: t) = .ok (x, rest)) :
      ∃ cs, IsExponent cs ∧ (cs = [] ↔ x = none) ∧ mark :: t = cs ++ rest := by
    obtain ⟨⟨ds, t'⟩, hread, hx⟩ := bind_eq_ok_iff.mp h
    simp only [Except.ok.injEq, Prod.mk.injEq] at hx
    obtain ⟨rfl, rfl⟩ := hx
    have hsigned {sign u : List Char} (hsign : sign = [] ∨ sign = ['+'] ∨ sign = ['-'])
        (ht : t = sign ++ u) (hu : takeDigits e u = .ok (ds, t')) :
        IsExponent (mark :: (sign ++ ds)) ∧ mark :: t = mark :: (sign ++ ds) ++ t' := by
      obtain ⟨hdigits, rfl⟩ := takeDigits_eq_ok hu
      refine ⟨.inr ⟨mark, sign, ds, hmark, hsign, hdigits, rfl⟩, ?_⟩
      rw [ht, List.cons_append, List.append_assoc]
    split at hread
    · next u =>
        obtain ⟨hexponent, hsplit⟩ := hsigned (.inr (.inr rfl)) rfl hread
        exact ⟨_, hexponent, by simp, hsplit⟩
    · next u =>
        obtain ⟨hexponent, hsplit⟩ := hsigned (.inr (.inl rfl)) rfl hread
        exact ⟨_, hexponent, by simp, hsplit⟩
    · obtain ⟨hexponent, hsplit⟩ := hsigned (.inl rfl) rfl hread
      exact ⟨_, hexponent, by simp, hsplit⟩
  unfold takeExponent at h
  split at h
  · next t => exact hmarked (.inl rfl) h
  · next t => exact hmarked (.inr rfl) h
  · cases h
    exact ⟨[], .inl rfl, by simp, rfl⟩

theorem takeNumeral_eq_ok {e : ReadError} {n : Numeral} (h : takeNumeral e s = .ok (n, rest)) :
    ∃ spelling, n.Reads spelling ∧ s = spelling ++ rest := by
  unfold takeNumeral at h
  have hunsigned {negative : Bool} {t : List Char}
      (ht : s = (if negative then ['-'] else []) ++ t)
      (h : (takeWhole e t >>= fun whole => takeFraction e whole.2 >>= fun fraction =>
        takeExponent e fraction.2 >>= fun exponent => .ok
          ({ negative, whole := whole.1, fraction := fraction.1, exponent := exponent.1 },
            exponent.2)) = Except.ok (n, rest)) :
      ∃ spelling, n.Reads spelling ∧ s = spelling ++ rest := by
    obtain ⟨⟨whole, t₁⟩, hwhole, h⟩ := bind_eq_ok_iff.mp h
    obtain ⟨⟨fraction, t₂⟩, hfraction, h⟩ := bind_eq_ok_iff.mp h
    obtain ⟨⟨exponent, t₃⟩, hexponent, h⟩ := bind_eq_ok_iff.mp h
    cases h
    obtain ⟨hiswhole, rfl⟩ := takeWhole_eq_ok hwhole
    obtain ⟨cs, hisfraction, hnofraction, rfl⟩ := takeFraction_eq_ok hfraction
    obtain ⟨ds, hisexponent, hnoexponent, rfl⟩ := takeExponent_eq_ok hexponent
    refine ⟨_, ⟨hiswhole, cs, ds, hisfraction, hnofraction, hisexponent, hnoexponent, rfl⟩, ?_⟩
    simp only [ht, List.append_assoc]
  dsimp only at h
  split at h
  · exact hunsigned rfl h
  · exact hunsigned rfl h

theorem Numeral.Reads.eq_of_digits {n : Numeral} {ds : List Char} (negative : Bool)
    (h : n.Reads ((if negative then ['-'] else []) ++ ds)) (hds : IsDigits ds) :
    n = { negative, whole := ds, fraction := [], exponent := none } := by
  obtain ⟨fraction, exponent, hfraction, hnofraction, hexponent, hnoexponent, hparts⟩ := h.parts
  have hwhole := h.whole.1
  have hsign : n.negative = negative ∧ ds = n.whole ++ fraction ++ exponent := by
    cases hneg : n.negative <;> cases negative
    · simpa [hneg] using hparts
    · -- the whole part would begin with the sign
      cases hw : n.whole with
      | nil => exact absurd hw hwhole.1
      | cons d ds' =>
          have hd := hwhole.2 d (by simp [hw])
          rw [hneg, hw] at hparts
          rw [← (List.cons.inj hparts).1] at hd
          exact absurd hd (by decide)
    · have hminus := hds.2 '-' (by simp [show ds = _ from hparts, hneg])
      exact absurd hminus (by decide)
    · simpa [hneg] using hparts
  obtain ⟨hneg, hsplit⟩ := hsign
  have hfractionNil : fraction = [] := by
    rcases hfraction with hnil | ⟨ds', -, rfl⟩
    · exact hnil
    · exact absurd (hds.2 '.' (by simp [hsplit])) (by decide)
  have hexponentNil : exponent = [] := by
    rcases hexponent with hnil | ⟨mark, sign, ds', hmark, -, -, rfl⟩
    · exact hnil
    · have hdigit := hds.2 mark (by simp [hsplit])
      rcases hmark with rfl | rfl <;> exact absurd hdigit (by decide)
  rw [hfractionNil, hexponentNil, List.append_nil, List.append_nil] at hsplit
  have hf := hnofraction.mp hfractionNil
  have hx := hnoexponent.mp hexponentNil
  cases n
  simp only at hneg hsplit hf hx
  rw [hneg, hsplit, hf, hx]

theorem isDigits_of_numeral {ds : List Char} {n : Nat} (h : Decimal.Numeral ds n) :
    IsDigits ds ∧ Decimal.value ds = n :=
  Decimal.value?_eq_some_iff.mp h.value?_eq

theorem Numeral.Reads.value?_of_integer {n : Numeral} {spelling : List Char} {z : Int}
    (h : n.Reads spelling) (hz : WritesInteger spelling z) (hleast : -2 ^ 63 ≤ z)
    (hmost : z < 2 ^ 64) : n.value? = some (.int z) := by
  cases hz with
  | @unsigned ds m hm =>
      obtain ⟨hdigits, hvalue⟩ := isDigits_of_numeral hm
      have hn := h.eq_of_digits false hdigits
      have hlt : m < Decimal.wordLimit := by
        rw [Decimal.wordLimit_eq]
        omega
      simp [hn, value?, isWhole, hvalue, hlt]
  | @negative ds m hm hpos =>
      obtain ⟨hdigits, hvalue⟩ := isDigits_of_numeral hm
      have hn := h.eq_of_digits true hdigits
      have hle : 2 * m ≤ Decimal.wordLimit := by
        rw [Decimal.wordLimit_eq]
        omega
      simp [hn, value?, isWhole, hvalue, hpos, hle]

end VoiceHub.Json
