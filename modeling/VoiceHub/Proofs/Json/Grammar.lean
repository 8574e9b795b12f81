import VoiceHub.Json.Reader
import VoiceHub.Proofs.Numeral
import VoiceHub.Proofs.Text.Encoding

/-!
# What a JSON text says

A document is what a JSON text says before anything is made of it.  A number is as it is
spelled, an object has all of its entries, and a text is in units of 16 bits, which may be
halves of characters.  A text says one document at most.
-/

namespace VoiceHub.Json

inductive Document where
  | null
  | bool (value : Bool)
  | number (spelling : List Char)
  | text (units : List Nat)
  | array (items : List Document)
  | object (entries : List (List Nat × Document))

def Document.ofText (t : String) : Document := .text (Text.units t.toList)

def Document.ofFields (fields : List (String × Document)) : Document :=
  .object (fields.map fun (key, d) => (Text.units key.toList, d))

/-! ## Texts -/

/-- A text after its opening quote, in units, and what follows its closing one. -/
inductive Quoted : List Nat → List Char → List Char → Prop
  | close {rest : List Char} : Quoted [] ('"' :: rest) rest
  | char {c : Char} {us : List Nat} {s rest : List Char} (hcontrol : 0x20 ≤ c.toNat)
      (hquote : c ≠ '"') (hslash : c ≠ '\\') (h : Quoted us s rest) :
      Quoted (Text.utf16 c ++ us) (c :: s) rest
  | escape {letter c : Char} {us : List Nat} {s rest : List Char}
      (hletter : escaped? letter = some c) (h : Quoted us s rest) :
      Quoted (Text.utf16 c ++ us) ('\\' :: letter :: s) rest
  | unit {a b c d : Char} {u : Nat} {us : List Nat} {s rest : List Char}
      (hunit : hexUnit? a b c d = some u) (h : Quoted us s rest) :
      Quoted (u :: us) ('\\' :: 'u' :: a :: b :: c :: d :: s) rest

theorem Quoted.unique {us vs : List Nat} {s rest rest' : List Char} (h : Quoted us s rest)
    (h' : Quoted vs s rest') : vs = us ∧ rest' = rest := by
  have hu : escaped? 'u' = none := rfl
  induction h generalizing vs rest' with
  | close =>
      cases h' with
      | close => exact ⟨rfl, rfl⟩
      | char _ hquote => exact absurd rfl hquote
  | char _ hquote hslash _ ih =>
      cases h' with
      | close => exact absurd rfl hquote
      | char _ _ _ hrest =>
          obtain ⟨rfl, rfl⟩ := ih hrest
          exact ⟨rfl, rfl⟩
      | escape => exact absurd rfl hslash
      | unit => exact absurd rfl hslash
  | escape hletter _ ih =>
      cases h' with
      | char _ _ hslash => exact absurd rfl hslash
      | escape hletter' hrest =>
          obtain ⟨rfl, rfl⟩ := ih hrest
          rw [hletter] at hletter'
          cases hletter'
          exact ⟨rfl, rfl⟩
      | unit =>
          rw [hu] at hletter
          cases hletter
  | unit hunit _ ih =>
      cases h' with
      | char _ _ hslash => exact absurd rfl hslash
      | escape hletter =>
          rw [hu] at hletter
          cases hletter
      | unit hunit' hrest =>
          obtain ⟨rfl, rfl⟩ := ih hrest
          rw [hunit] at hunit'
          cases hunit'
          exact ⟨rfl, rfl⟩

/-! ## Numbers -/

def IsDigits (ds : List Char) : Prop := ds ≠ [] ∧ ∀ c ∈ ds, c.isDigit = true

/-- A zero does not lead. -/
def IsWhole (ds : List Char) : Prop := IsDigits ds ∧ (ds.head? = some '0' → ds = ['0'])

def IsFraction (cs : List Char) : Prop := cs = [] ∨ ∃ ds, IsDigits ds ∧ cs = '.' :: ds

def IsExponent (cs : List Char) : Prop :=
  cs = [] ∨ ∃ mark sign ds, (mark = 'e' ∨ mark = 'E') ∧
    (sign = [] ∨ sign = ['+'] ∨ sign = ['-']) ∧ IsDigits ds ∧ cs = mark :: (sign ++ ds)

structure IsNumber (spelling : List Char) : Prop where
  parts : ∃ sign whole fraction exponent, (sign = [] ∨ sign = ['-']) ∧ IsWhole whole ∧
    IsFraction fraction ∧ IsExponent exponent ∧
      spelling = sign ++ whole ++ fraction ++ exponent

/-- A number without a fraction and an exponent that is not the negative zero. -/
inductive WritesInteger : List Char → Int → Prop
  | unsigned {ds : List Char} {n : Nat} (h : Decimal.Numeral ds n) : WritesInteger ds n
  | negative {ds : List Char} {n : Nat} (h : Decimal.Numeral ds n) (hn : 0 < n) :
      WritesInteger ('-' :: ds) (-n)

def isDelimiter (c : Char) : Bool := isBlank c || c = ',' || c = ']' || c = '\x7d'

def Delimited (rest : List Char) : Prop := ∀ c, rest.head? = some c → isDelimiter c = true

def isNumberChar (c : Char) : Bool := c.isDigit || ['-', '+', '.', 'e', 'E'].contains c

theorem not_isDelimiter {c : Char} (h : isNumberChar c = true) : isDelimiter c = false := by
  by_contra hdelimiter
  rw [Bool.not_eq_false] at hdelimiter
  have hcases : c = ' ' ∨ c = '\n' ∨ c = '\t' ∨ c = '\r' ∨ c = ',' ∨ c = ']' ∨ c = '\x7d' := by
    simpa [isDelimiter, isBlank, or_assoc] using hdelimiter
  rcases hcases with rfl | rfl | rfl | rfl | rfl | rfl | rfl <;> exact absurd h (by decide)

theorem IsDigits.isNumberChar {ds : List Char} (h : IsDigits ds) {c : Char} (hc : c ∈ ds) :
    isNumberChar c = true := by
  simp [Json.isNumberChar, h.2 c hc]

theorem IsNumber.isNumberChar {spelling : List Char} (h : IsNumber spelling) {c : Char}
    (hc : c ∈ spelling) : isNumberChar c = true := by
  obtain ⟨sign, whole, fraction, exponent, hsign, hwhole, hfraction, hexponent, rfl⟩ := h.parts
  simp only [List.mem_append] at hc
  rcases hc with ((hc | hc) | hc) | hc
  · rcases hsign with rfl | rfl
    · cases hc
    · rw [List.mem_singleton.mp hc]
      decide
  · exact hwhole.1.isNumberChar hc
  · rcases hfraction with rfl | ⟨ds, hds, rfl⟩
    · cases hc
    · rcases List.mem_cons.mp hc with rfl | hc
      · decide
      · exact hds.isNumberChar hc
  · rcases hexponent with rfl | ⟨mark, sign, ds, hmark, hsign, hds, rfl⟩
    · cases hc
    · rcases List.mem_cons.mp hc with rfl | hc
      · rcases hmark with rfl | rfl <;> decide
      · rcases List.mem_append.mp hc with hc | hc
        · rcases hsign with rfl | rfl | rfl
          · cases hc
          · rw [List.mem_singleton.mp hc]
            decide
          · rw [List.mem_singleton.mp hc]
            decide
        · exact hds.isNumberChar hc

structure Number (spelling s rest : List Char) : Prop where
  split : s = spelling ++ rest
  isNumber : IsNumber spelling
  delimited : Delimited rest

theorem append_inj_of_delimited {as bs rest rest' : List Char}
    (has : ∀ c ∈ as, isDelimiter c = false) (hbs : ∀ c ∈ bs, isDelimiter c = false)
    (hrest : Delimited rest) (hrest' : Delimited rest') (h : as ++ rest = bs ++ rest') :
    bs = as ∧ rest' = rest := by
  induction as generalizing bs with
  | nil =>
      cases bs with
      | nil => exact ⟨rfl, h.symm⟩
      | cons b bs =>
          rw [List.nil_append] at h
          rw [h] at hrest
          have hend := hrest b rfl
          rw [hbs b List.mem_cons_self] at hend
          cases hend
  | cons a as ih =>
      cases bs with
      | nil =>
          rw [List.nil_append] at h
          rw [← h] at hrest'
          have hend := hrest' a rfl
          rw [has a List.mem_cons_self] at hend
          cases hend
      | cons b bs =>
          obtain ⟨rfl, hsplit⟩ := List.cons.inj h
          obtain ⟨rfl, rfl⟩ := ih (fun c hc => has c (List.mem_cons_of_mem _ hc))
            (fun c hc => hbs c (List.mem_cons_of_mem _ hc)) hsplit
          exact ⟨rfl, rfl⟩

theorem Number.unique {spelling spelling' s rest rest' : List Char}
    (h : Number spelling s rest) (h' : Number spelling' s rest') :
    spelling' = spelling ∧ rest' = rest := by
  apply append_inj_of_delimited _ _ h.delimited h'.delimited (h.split.symm.trans h'.split)
  · intro c hc
    exact not_isDelimiter (h.isNumber.isNumberChar hc)
  · intro c hc
    exact not_isDelimiter (h'.isNumber.isNumberChar hc)

theorem IsNumber.exists_cons {spelling : List Char} (h : IsNumber spelling) :
    ∃ c cs, spelling = c :: cs ∧ startsNumber c = true := by
  obtain ⟨sign, whole, fraction, exponent, hsign, ⟨⟨hne, hdigits⟩, -⟩, -, -, rfl⟩ := h.parts
  rcases hsign with rfl | rfl
  · cases whole with
    | nil => exact absurd rfl hne
    | cons d ds => exact ⟨d, _, rfl, by simp [startsNumber, hdigits d]⟩
  · exact ⟨'-', _, rfl, rfl⟩

/-! ## Values -/

/-- What a part of a text says: a value, or what is left of an array or an object. -/
inductive Piece where
  | value (d : Document)
  | items (first : Bool) (items : List Document)
  | entries (first : Bool) (entries : List (List Nat × Document))

def Opens (first : Bool) (s inner : List Char) : Prop :=
  if first then inner = s else skipBlank s = ',' :: inner

/-- The piece stands at the front of the text and leaves the rest. -/
inductive Spells : Piece → List Char → List Char → Prop
  | null {s rest : List Char} (h : skipBlank s = 'n' :: 'u' :: 'l' :: 'l' :: rest) :
      Spells (.value .null) s rest
  | isTrue {s rest : List Char} (h : skipBlank s = 't' :: 'r' :: 'u' :: 'e' :: rest) :
      Spells (.value (.bool true)) s rest
  | isFalse {s rest : List Char} (h : skipBlank s = 'f' :: 'a' :: 'l' :: 's' :: 'e' :: rest) :
      Spells (.value (.bool false)) s rest
  | number {spelling s rest : List Char} (h : Number spelling (skipBlank s) rest) :
      Spells (.value (.number spelling)) s rest
  | text {us : List Nat} {s inner rest : List Char} (h : skipBlank s = '"' :: inner)
      (htext : Quoted us inner rest) : Spells (.value (.text us)) s rest
  | array {items : List Document} {s inner rest : List Char} (h : skipBlank s = '[' :: inner)
      (hitems : Spells (.items true items) inner rest) : Spells (.value (.array items)) s rest
  | object {entries : List (List Nat × Document)} {s inner rest : List Char}
      (h : skipBlank s = '\x7b' :: inner) (hentries : Spells (.entries true entries) inner rest) :
      Spells (.value (.object entries)) s rest
  | noItem {first : Bool} {s rest : List Char} (h : skipBlank s = ']' :: rest) :
      Spells (.items first []) s rest
  | item {first : Bool} {d : Document} {items : List Document} {s inner middle rest : List Char}
      (hopens : Opens first s inner) (hvalue : Spells (.value d) inner middle)
      (hitems : Spells (.items false items) middle rest) :
      Spells (.items first (d :: items)) s rest
  | noEntry {first : Bool} {s rest : List Char} (h : skipBlank s = '\x7d' :: rest) :
      Spells (.entries first []) s rest
  | entry {first : Bool} {key : List Nat} {d : Document} {entries : List (List Nat × Document)}
      {s inner keyText afterKey valueText middle rest : List Char}
      (hopens : Opens first s inner) (hquote : skipBlank inner = '"' :: keyText)
      (hkey : Quoted key keyText afterKey) (hcolon : skipBlank afterKey = ':' :: valueText)
      (hvalue : Spells (.value d) valueText middle)
      (hentries : Spells (.entries false entries) middle rest) :
      Spells (.entries first ((key, d) :: entries)) s rest

/-- The first character of a value tells what kind of value it is. -/
theorem Spells.inversion {d : Document} {s rest : List Char} (h : Spells (.value d) s rest) :
    match skipBlank s with
    | 'n' :: t => d = .null ∧ t = 'u' :: 'l' :: 'l' :: rest
    | 't' :: t => d = .bool true ∧ t = 'r' :: 'u' :: 'e' :: rest
    | 'f' :: t => d = .bool false ∧ t = 'a' :: 'l' :: 's' :: 'e' :: rest
    | '"' :: t => ∃ us, d = .text us ∧ Quoted us t rest
    | '[' :: t => ∃ items, d = .array items ∧ Spells (.items true items) t rest
    | '\x7b' :: t => ∃ entries, d = .object entries ∧ Spells (.entries true entries) t rest
    | t => ∃ spelling, d = .number spelling ∧ Number spelling t rest := by
  cases h with
  | null h =>
      rw [h]
      exact ⟨rfl, rfl⟩
  | isTrue h =>
      rw [h]
      exact ⟨rfl, rfl⟩
  | isFalse h =>
      rw [h]
      exact ⟨rfl, rfl⟩
  | number h =>
      obtain ⟨c, cs, hspelling, hc⟩ := h.isNumber.exists_cons
      have hsplit : skipBlank s = c :: (cs ++ rest) := by rw [h.split, hspelling, List.cons_append]
      have hnot {other : Char} {t : List Char} (hother : startsNumber other = false)
          (heq : skipBlank s = other :: t) : False := by
        rw [hsplit] at heq
        rw [(List.cons.inj heq).1, hother] at hc
        cases hc
      split
      · next heq => exact (hnot rfl heq).elim
      · next heq => exact (hnot rfl heq).elim
      · next heq => exact (hnot rfl heq).elim
      · next heq => exact (hnot rfl heq).elim
      · next heq => exact (hnot rfl heq).elim
      · next heq => exact (hnot rfl heq).elim
      · exact ⟨_, rfl, h⟩
  | text h htext =>
      rw [h]
      exact ⟨_, rfl, htext⟩
  | array h hitems =>
      rw [h]
      exact ⟨_, rfl, hitems⟩
  | object h hentries =>
      rw [h]
      exact ⟨_, rfl, hentries⟩

def openings : List Char := ['n', 't', 'f', '"', '[', '\x7b']

theorem Spells.number_of_head {d : Document} {s rest t : List Char} {c : Char}
    (h : Spells (.value d) s rest) (hs : skipBlank s = c :: t) (hc : c ∉ openings) :
    ∃ spelling, d = .number spelling ∧ Number spelling (skipBlank s) rest := by
  have hnot {other : Char} {t' : List Char} (hother : other ∈ openings)
      (heq : c :: t = other :: t') : False := by
    rw [(List.cons.inj heq).1] at hc
    exact hc hother
  have hinversion := h.inversion
  rw [hs] at hinversion ⊢
  split at hinversion
  · next heq => exact (hnot (by decide) heq).elim
  · next heq => exact (hnot (by decide) heq).elim
  · next heq => exact (hnot (by decide) heq).elim
  · next heq => exact (hnot (by decide) heq).elim
  · next heq => exact (hnot (by decide) heq).elim
  · next heq => exact (hnot (by decide) heq).elim
  · exact hinversion

theorem notMem_openings {p : Char → Bool} (hp : openings.any p = false) {c : Char}
    (h : p c = true) : c ∉ openings := by
  intro hmem
  exact absurd h (List.any_eq_false.mp hp c hmem)

theorem Spells.skipBlank_ne {d : Document} {s rest t : List Char} {c : Char}
    (h : Spells (.value d) s rest) (hc : isDelimiter c = true) : skipBlank s ≠ c :: t := by
  intro heq
  obtain ⟨spelling, -, hnumber⟩ := h.number_of_head heq (notMem_openings rfl hc)
  obtain ⟨first, cs, rfl, -⟩ := hnumber.isNumber.exists_cons
  have hfirst := not_isDelimiter (hnumber.isNumber.isNumberChar List.mem_cons_self)
  rw [heq] at hnumber
  rw [← (List.cons.inj hnumber.split).1, hc] at hfirst
  cases hfirst

theorem Opens.unique {first : Bool} {s inner inner' : List Char} (h : Opens first s inner)
    (h' : Opens first s inner') : inner' = inner := by
  cases first with
  | true => exact Eq.trans h' (Eq.symm h)
  | false => exact (List.cons.inj (Eq.trans (Eq.symm h') h)).2

theorem Opens.skipBlank_ne {first : Bool} {s inner t : List Char} {c : Char}
    (h : Opens first s inner) (hc : c ≠ ',') (hinner : skipBlank inner ≠ c :: t) :
    skipBlank s ≠ c :: t := by
  cases first with
  | true =>
      rw [← show inner = s from h]
      exact hinner
  | false =>
      rw [show skipBlank s = ',' :: inner from h]
      intro heq
      exact hc (List.cons.inj heq).1.symm

/-- Nothing else of the kind stands there. -/
def Only (s rest : List Char) : Piece → Prop
  | .value d => ∀ {d' rest'}, Spells (.value d') s rest' → d' = d ∧ rest' = rest
  | .items first items =>
      ∀ {items' rest'}, Spells (.items first items') s rest' → items' = items ∧ rest' = rest
  | .entries first entries =>
      ∀ {entries' rest'}, Spells (.entries first entries') s rest' →
        entries' = entries ∧ rest' = rest

theorem Spells.only {p : Piece} {s rest : List Char} (h : Spells p s rest) : Only s rest p := by
  -- the first character decides by which rule anything else is spelled there
  induction h with
  | null h | isTrue h | isFalse h =>
      intro d' rest' h'
      have hinversion := h'.inversion
      rw [h] at hinversion
      obtain ⟨rfl, hrest⟩ := hinversion
      cases hrest
      exact ⟨rfl, rfl⟩
  | @number _ s rest h =>
      intro d' rest' h'
      obtain ⟨c, cs, hspelling, hc⟩ := h.isNumber.exists_cons
      have hhead : skipBlank s = c :: (cs ++ rest) := by rw [h.split, hspelling, List.cons_append]
      obtain ⟨spelling', rfl, hnumber⟩ :=
        h'.number_of_head hhead (notMem_openings rfl hc)
      obtain ⟨rfl, rfl⟩ := h.unique hnumber
      exact ⟨rfl, rfl⟩
  | text h htext =>
      intro d' rest' h'
      have hinversion := h'.inversion
      rw [h] at hinversion
      obtain ⟨us, rfl, htext'⟩ := hinversion
      obtain ⟨rfl, rfl⟩ := htext.unique htext'
      exact ⟨rfl, rfl⟩
  | array h _ ih =>
      intro d' rest' h'
      have hinversion := h'.inversion
      rw [h] at hinversion
      obtain ⟨items, rfl, hitems⟩ := hinversion
      obtain ⟨rfl, rfl⟩ := ih hitems
      exact ⟨rfl, rfl⟩
  | object h _ ih =>
      intro d' rest' h'
      have hinversion := h'.inversion
      rw [h] at hinversion
      obtain ⟨entries, rfl, hentries⟩ := hinversion
      obtain ⟨rfl, rfl⟩ := ih hentries
      exact ⟨rfl, rfl⟩
  | noItem h =>
      intro items' rest' h'
      cases h' with
      | noItem h' =>
          rw [h] at h'
          cases h'
          exact ⟨rfl, rfl⟩
      | item hopens hvalue =>
          exact absurd h (hopens.skipBlank_ne (by decide) (hvalue.skipBlank_ne (by decide)))
  | item hopens hvalue _ ihvalue ihitems =>
      intro items' rest' h'
      cases h' with
      | noItem h' =>
          exact absurd h' (hopens.skipBlank_ne (by decide) (hvalue.skipBlank_ne (by decide)))
      | item hopens' hvalue' hitems' =>
          obtain rfl := hopens.unique hopens'
          obtain ⟨rfl, rfl⟩ := ihvalue hvalue'
          obtain ⟨rfl, rfl⟩ := ihitems hitems'
          exact ⟨rfl, rfl⟩
  | noEntry h =>
      intro entries' rest' h'
      cases h' with
      | noEntry h' =>
          rw [h] at h'
          cases h'
          exact ⟨rfl, rfl⟩
      | entry hopens hquote =>
          exact absurd h (hopens.skipBlank_ne (by decide) (by simp [hquote]))
  | entry hopens hquote hkey hcolon _ _ ihvalue ihentries =>
      intro entries' rest' h'
      cases h' with
      | noEntry h' =>
          exact absurd h' (hopens.skipBlank_ne (by decide) (by simp [hquote]))
      | entry hopens' hquote' hkey' hcolon' hvalue' hentries' =>
          obtain rfl := hopens.unique hopens'
          rw [hquote] at hquote'
          cases hquote'
          obtain ⟨rfl, rfl⟩ := hkey.unique hkey'
          rw [hcolon] at hcolon'
          cases hcolon'
          obtain ⟨rfl, rfl⟩ := ihvalue hvalue'
          obtain ⟨rfl, rfl⟩ := ihentries hentries'
          exact ⟨rfl, rfl⟩

/-! ## Documents -/

/-- The whole text is the document. -/
def Says (text : String) (d : Document) : Prop :=
  ∃ rest, Spells (.value d) text.toList rest ∧ skipBlank rest = []

theorem Says.unique {text : String} {d d' : Document} (h : Says text d) (h' : Says text d') :
    d' = d := by
  obtain ⟨rest, hspells, -⟩ := h
  obtain ⟨rest', hspells', -⟩ := h'
  exact (hspells.only hspells').1

end VoiceHub.Json
