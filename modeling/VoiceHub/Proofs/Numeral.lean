import Mathlib.Data.List.Induction
import Mathlib.Tactic.IntervalCases
import VoiceHub.Numeral

/-!
# Decimal texts have one reading

The digits of a number give the number back.  A sign is no digit, so it tells the
negative numbers from the others, and no mark of a text stands in a number.

A numeral is a run of digits, leading zeros included, and denotes one number.  Reading
a run of digits gives the number that it denotes, and reading 64 bits refuses all that
is no numeral, signed or not, or denotes too much.
-/

namespace VoiceHub.Decimal

/-! ## Digits -/

theorem toNat_digitChar {d : Nat} (h : d < 10) : (digitChar d).toNat = 48 + d := by
  interval_cases d <;> rfl

theorem isDigit_digitChar {d : Nat} (h : d < 10) : (digitChar d).isDigit = true := by
  interval_cases d <;> rfl

theorem value_concat (ds : List Char) (d : Char) :
    value (ds ++ [d]) = 10 * value ds + (d.toNat - 48) := by
  simp [value]

theorem value_digits (n : Nat) : value (digits n) = n := by
  fun_induction digits n with
  | case1 n hsmall => simp [value, toNat_digitChar hsmall]
  | case2 n _ ih =>
      have hdigit : n % 10 < 10 := Nat.mod_lt _ (by decide)
      rw [value_concat, ih, toNat_digitChar hdigit]
      omega

theorem isDigit_of_mem_digits {n : Nat} {x : Char} (h : x ∈ digits n) :
    x.isDigit = true := by
  fun_induction digits n with
  | case1 n hsmall =>
      rw [List.mem_singleton.mp h]
      exact isDigit_digitChar hsmall
  | case2 n _ ih =>
      rcases List.mem_append.mp h with hfront | hlast
      · exact ih hfront
      · rw [List.mem_singleton.mp hlast]
        exact isDigit_digitChar (Nat.mod_lt _ (by decide))

/-! ## Signs -/

theorem minus_notMem_digits (n : Nat) : '-' ∉ digits n :=
  fun h => absurd (isDigit_of_mem_digits h) (by decide)

theorem isDigit_or_minus_of_mem_ofInt {i : Int} {x : Char} (h : x ∈ ofInt i) :
    x.isDigit = true ∨ x = '-' := by
  cases i with
  | ofNat n => exact .inl (isDigit_of_mem_digits h)
  | negSucc n =>
      rcases List.mem_cons.mp h with hsign | hdigit
      · exact .inr hsign
      · exact .inl (isDigit_of_mem_digits hdigit)

theorem notMem_ofInt {x : Char} (hdigit : x.isDigit = false) (hsign : x ≠ '-') (i : Int) :
    x ∉ ofInt i := by
  intro hmem
  rcases isDigit_or_minus_of_mem_ofInt hmem with h | h
  · simp [hdigit] at h
  · exact hsign h

@[simp] theorem toList_intText (i : Int) : (intText i).toList = ofInt i := by
  simp [intText]

/-! ## Numerals -/

inductive Numeral : List Char → Nat → Prop
  | digit {d : Nat} (h : d < 10) : Numeral [digitChar d] d
  | next {ds : List Char} {n d : Nat} (hds : Numeral ds n) (h : d < 10) :
      Numeral (ds ++ [digitChar d]) (10 * n + d)

/-- A numeral, with a plus sign before it or not. -/
def Spells (cs : List Char) (n : Nat) : Prop :=
  Numeral cs n ∨ ∃ ds, cs = '+' :: ds ∧ Numeral ds n

variable {cs ds : List Char} {n : Nat}

theorem wordLimit_eq : wordLimit = 2 ^ 64 := rfl

theorem exists_digitChar_of_isDigit {c : Char} (h : c.isDigit = true) :
    ∃ d < 10, c = digitChar d := by
  obtain ⟨hlower, hupper⟩ : 48 ≤ c.toNat ∧ c.toNat ≤ 57 := by
    simpa [Char.isDigit, UInt32.le_iff_toNat_le] using h
  refine ⟨c.toNat - 48, by omega, ?_⟩
  rw [digitChar, Nat.add_sub_cancel' hlower, Char.ofNat_toNat]

theorem value?_eq_some_iff :
    value? ds = some n ↔ (ds ≠ [] ∧ ∀ c ∈ ds, c.isDigit = true) ∧ value ds = n := by
  simp [value?]

theorem Numeral.value?_eq (h : Numeral ds n) : value? ds = some n := by
  rw [value?_eq_some_iff]
  induction h with
  | digit hd => simp [isDigit_digitChar hd, value, toNat_digitChar hd]
  | next hds hd ih =>
      obtain ⟨⟨hne, hdigits⟩, rfl⟩ := ih
      refine ⟨⟨by simp, ?_⟩, ?_⟩
      · simpa [or_imp, forall_and, isDigit_digitChar hd] using hdigits
      · rw [value_concat, toNat_digitChar hd, Nat.add_sub_cancel_left]

theorem numeral_value (hne : ds ≠ []) (hdigits : ∀ c ∈ ds, c.isDigit = true) :
    Numeral ds (value ds) := by
  induction ds using List.reverseRecOn with
  | nil => contradiction
  | append_singleton front c ih =>
      obtain ⟨d, hd, rfl⟩ := exists_digitChar_of_isDigit (hdigits c (by simp))
      rw [value_concat, toNat_digitChar hd, Nat.add_sub_cancel_left]
      by_cases hfront : front = []
      · subst hfront
        simpa [value] using Numeral.digit hd
      · exact .next (ih hfront fun c hc => hdigits c (by simp [hc])) hd

theorem value?_eq_some_iff_numeral : value? ds = some n ↔ Numeral ds n := by
  refine ⟨fun h => ?_, Numeral.value?_eq⟩
  obtain ⟨⟨hne, hdigits⟩, rfl⟩ := value?_eq_some_iff.mp h
  exact numeral_value hne hdigits

theorem digits_ne_nil (n : Nat) : digits n ≠ [] := by
  unfold digits
  split <;> simp

theorem numeral_digits (n : Nat) : Numeral (digits n) n := by
  have hvalue := numeral_value (digits_ne_nil n) fun c hc => isDigit_of_mem_digits hc
  rwa [value_digits] at hvalue

theorem not_numeral_of_sign {c : Char} (hc : c.isDigit = false) : ¬ Numeral (c :: ds) n := by
  intro h
  have hdigit := (value?_eq_some_iff.mp h.value?_eq).1.2 c List.mem_cons_self
  rw [hc] at hdigit
  contradiction

theorem not_numeral_plus : ¬ Numeral ('+' :: ds) n := not_numeral_of_sign rfl

theorem spells_plus_iff : Spells ('+' :: ds) n ↔ Numeral ds n := by
  constructor
  · rintro (h | ⟨ds', heq, h⟩)
    · exact absurd h not_numeral_plus
    · rwa [(List.cons.inj heq).2]
  · exact fun h => .inr ⟨ds, rfl, h⟩

theorem spells_iff_of_ne_plus (h : ∀ rest, cs ≠ '+' :: rest) : Spells cs n ↔ Numeral cs n :=
  or_iff_left fun ⟨rest, heq, _⟩ => h rest heq

theorem not_spells_ofInt_of_neg {z : Int} (hz : z < 0) : ¬ Spells (ofInt z) n := by
  cases z with
  | ofNat m => exact absurd hz (Int.not_lt.mpr (Int.natCast_nonneg m))
  | negSucc m =>
      change ¬ Spells ('-' :: digits (m + 1)) n
      rw [spells_iff_of_ne_plus (by simp)]
      exact not_numeral_of_sign rfl

theorem word64?_eq_some_iff : word64? cs = some n ↔ Spells cs n ∧ n < 2 ^ 64 := by
  unfold word64?
  dsimp only
  rw [Option.filter_eq_some_iff, value?_eq_some_iff_numeral, decide_eq_true_iff, wordLimit_eq]
  split
  · rw [spells_plus_iff]
  · next h => rw [spells_iff_of_ne_plus fun rest heq => h rest heq]

end VoiceHub.Decimal
