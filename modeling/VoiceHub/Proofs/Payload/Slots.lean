import Mathlib.Data.List.Forall2
import VoiceHub.Payload
import VoiceHub.Proofs.Dict
import VoiceHub.Proofs.Json.Records

/-!
# From the slots to the parameters

A posted text says a document, and the intent is made of three of its fields.  What is last
given for a slot is what its parameter says, unless it is null.
-/

namespace VoiceHub.Payload

open Json

/-! ## The fields of a payload -/

def NameOf (o : Option Document) (name : Option String) : Prop :=
  match o with
  | none => name = none
  | some d => d.IsOptionalText name

def TextOf (o : Option Document) (text : String) : Prop :=
  match o with
  | none => text = ""
  | some d => d.IsText text

/-- The slots are the entries of an object; a slot that comes again has its last value. -/
def SlotsOf (o : Option Document) (slots : Dict Json) : Prop :=
  ∃ es vs, o.getD (.object []) = .object es ∧ List.Forall₂ (KeepsEntry Keeps) es vs ∧
    slots = Dict.ofList vs

theorem faithful_recognitionFields :
    Shape.Faithful recognitionFields fun key o name => key = "name" → NameOf o name := by
  intro field hfield b s rest f hread hrest
  simp only [recognitionFields, List.mem_cons, List.not_mem_nil, or_false] at hfield
  rcases hfield with rfl | rfl
  · obtain ⟨d, hd, name, hname, rfl⟩ := Shape.readsAs_of (readsAs_optionalText b) hread hrest
    refine ⟨d, hd, fun _ => ⟨fun _ => hname, ?_⟩⟩
    intro key hne o _ hkey
    exact absurd hkey hne
  · obtain ⟨d, hd, c, -, rfl⟩ := Shape.readsAs_of (readsAs_number b) hread hrest
    refine ⟨d, hd, fun _ => ⟨fun hkey => ?_, fun _ _ _ hshows => hshows⟩⟩
    exact absurd hkey (by decide)

theorem readsAs_recognition (b : Budget) :
    ReadsAs (Shape.record recognitionFields none b) fun d name =>
      NameOf (d.field? 0 "name") name := by
  intro s rest name hread hrest
  obtain ⟨d, hd, hshows⟩ := Shape.readsAs_record faithful_recognitionFields (by decide)
    (fun _ _ _ => rfl) b hread hrest
  exact ⟨d, hd, hshows 0 (by decide) rfl⟩

/-- What a payload shows of the value of one of its fields. -/
structure Shows (key : String) (o : Option Document) (p : Payload) : Prop where
  intent : key = "intent" → NameOf (o.bind (Document.field? 0 "name")) p.intentName
  text : key = "text" → TextOf o p.text
  slots : key = "slots" → SlotsOf o p.slots

theorem faithful_fields : Shape.Faithful fields Shows := by
  intro field hfield b s rest f hread hrest
  have hother {key key' : String} {P : Prop} (hne : (key == key') = false) : key = key' → P :=
    fun hkey => absurd hkey (beq_eq_false_iff_ne.mp hne)
  simp only [fields, List.mem_cons, List.not_mem_nil, or_false] at hfield
  rcases hfield with rfl | rfl | rfl
  · obtain ⟨d, hd, name, hname, rfl⟩ := Shape.readsAs_of (readsAs_recognition b) hread hrest
    refine ⟨d, hd, fun p => ⟨⟨fun _ => hname, hother rfl, hother rfl⟩, ?_⟩⟩
    intro key hne o hshows
    exact ⟨fun hkey => absurd hkey hne, hshows.text, hshows.slots⟩
  · obtain ⟨d, hd, text, htext, rfl⟩ := Shape.readsAs_of (readsAs_text b) hread hrest
    refine ⟨d, hd, fun p => ⟨⟨hother rfl, fun _ => htext, hother rfl⟩, ?_⟩⟩
    intro key hne o hshows
    exact ⟨hshows.intent, fun hkey => absurd hkey hne, hshows.slots⟩
  · obtain ⟨d, hd, vs, ⟨es, hes, hvs⟩, rfl⟩ := Shape.readsAs_of
      (readsAs_entries (fun b => readsAs_takeValue b.levels b.steps) b) hread hrest
    refine ⟨d, hd, fun p => ⟨⟨hother rfl, hother rfl, fun _ => ⟨es, vs, hes, hvs, rfl⟩⟩, ?_⟩⟩
    intro key hne o hshows
    exact ⟨hshows.intent, hshows.text, fun hkey => absurd hkey hne⟩

theorem says_of_ofText {body : String} {p : Payload} (h : ofText body = .ok p) :
    ∃ d, Says body d ∧
      NameOf ((d.field? 0 "intent").bind (Document.field? 0 "name")) p.intentName ∧
      TextOf (d.field? 1 "text") p.text ∧ SlotsOf (d.field? 2 "slots") p.slots := by
  have hblank : ∀ field ∈ fields, Shows field.key none {} := by
    intro field _
    exact ⟨fun _ => rfl, fun _ => rfl, fun _ => ⟨[], [], rfl, .nil, rfl⟩⟩
  obtain ⟨d, hd, hshows⟩ :=
    says_of_read (Shape.readsAs_record faithful_fields (by decide) hblank) h
  exact ⟨d, hd, (hshows 0 (by decide)).intent rfl, (hshows 1 (by decide)).text rfl,
    (hshows 2 (by decide)).slots rfl⟩

end VoiceHub.Payload

namespace VoiceHub.Json.Document

/-! ## Slots -/

def entries : Document → List (List Nat × Document)
  | .object es => es
  | _ => []

/-- The value that is given last for a slot. -/
def slot? (d : Document) (slot : String) : Option Document :=
  (((d.field? 2 "slots").map entries).getD []).reverse.lookup (Text.units slot.toList)

end VoiceHub.Json.Document

namespace VoiceHub.Json

theorem Keeps.eq_null_iff {d : Document} {v : Json} (h : Keeps d v) : v = .null ↔ d = .null := by
  cases h with
  | null => simp
  | @number n spelling v _ hv =>
      have hne : v ≠ .null := by
        rintro rfl
        simp only [Numeral.value?] at hv
        split at hv
        · cases hv
        · split at hv
          · cases hv
          · obtain ⟨_, -, hfloat⟩ := Option.map_eq_some_iff.mp hv
            cases hfloat
      simp [hne]
  | bool | text | array | object => simp

end VoiceHub.Json

namespace VoiceHub.Payload

open Json

/-- What is kept of the last entry with a key is what is kept last under the key. -/
theorem keeps_lookup {es : List (List Nat × Document)} {vs : List (String × Json)}
    (h : List.Forall₂ (KeepsEntry Keeps) es vs) (key : String) :
    Option.Rel Keeps (es.lookup (Text.units key.toList)) (vs.lookup key) := by
  induction h with
  | nil => exact .none
  | @cons entry kept es vs hentry _ ih =>
      obtain ⟨us, d⟩ := entry
      obtain ⟨other, v⟩ := kept
      obtain ⟨rfl, hkeeps⟩ : us = Text.units other.toList ∧ Keeps d v := hentry
      by_cases hkey : key = other
      · rw [hkey, List.lookup_cons_self, List.lookup_cons_self]
        exact .some hkeeps
      · have hne : (key == other) = false := by simp [hkey]
        rw [Shape.lookup_units_cons_of_ne hkey, List.lookup_cons, hne]
        exact ih

theorem keeps_slot? {d : Document} {slots : Dict Json} (h : SlotsOf (d.field? 2 "slots") slots)
    (slot : String) : Option.Rel Keeps (d.slot? slot) (slots.find? slot) := by
  obtain ⟨es, vs, hes, hvs, rfl⟩ := h
  have hentries : ((d.field? 2 "slots").map Document.entries).getD [] = es := by
    cases hfield : d.field? 2 "slots" with
    | none =>
        rw [hfield] at hes
        cases hes
        rfl
    | some o =>
        rw [hfield] at hes
        cases hes
        rfl
  have hfind : (Dict.ofList vs).find? slot = vs.reverse.lookup slot := by
    refine (Dict.find?_insertAll Dict.empty vs slot).trans ?_
    exact Option.or_none
  rw [Document.slot?, hentries, hfind]
  exact keeps_lookup (List.forall₂_reverse_iff.mpr hvs) slot

/-! ## Parameters -/

theorem parameter?_toIntent (p : Payload) (slot : String) :
    p.toIntent.parameter? slot = (p.slots.find? slot).bind slotText? :=
  Dict.find?_ofList_filterMap p.slots slotText? slot

theorem slotText?_eq_none_iff {v : Json} : slotText? v = none ↔ v = .null := by
  cases v <;> simp [slotText?]

/-- What an intent has of the document that was posted. -/
structure Conveys (d : Document) (i : Intent) : Prop where
  name : ∃ name, NameOf ((d.field? 0 "intent").bind (Document.field? 0 "name")) name ∧
    i.name = name.getD ""
  text : TextOf (d.field? 1 "text") i.text
  parameters : ∀ slot, (∃ text, i.parameter? slot = some text) ↔
    ∃ value, d.slot? slot = some value ∧ value ≠ .null
  texts : ∀ slot us, d.slot? slot = some (.text us) →
    ∃ text, i.parameter? slot = some text ∧ Text.units text.toList = us
  integers : ∀ slot spelling z, d.slot? slot = some (.number spelling) →
    WritesInteger spelling z → -2 ^ 63 ≤ z → z < 2 ^ 64 →
      i.parameter? slot = some (Decimal.intText z)
  bools : ∀ slot b, d.slot? slot = some (.bool b) →
    i.parameter? slot = some (if b then "true" else "false")

theorem exists_of_slot? {p : Payload} {d : Document} (h : SlotsOf (d.field? 2 "slots") p.slots)
    {slot : String} {given : Document} (hgiven : d.slot? slot = some given) :
    ∃ value, Keeps given value ∧ p.toIntent.parameter? slot = slotText? value := by
  have hkept := keeps_slot? h slot
  rw [hgiven] at hkept
  rw [parameter?_toIntent]
  cases hfind : p.slots.find? slot with
  | none =>
      rw [hfind] at hkept
      cases hkept
  | some value =>
      rw [hfind] at hkept
      cases hkept with
      | some hkeeps => exact ⟨value, hkeeps, rfl⟩

theorem parameter?_toIntent_of_absent {p : Payload} {d : Document}
    (h : SlotsOf (d.field? 2 "slots") p.slots) {slot : String} (habsent : d.slot? slot = none) :
    p.toIntent.parameter? slot = none := by
  have hkept := keeps_slot? h slot
  rw [habsent] at hkept
  rw [parameter?_toIntent]
  cases hfind : p.slots.find? slot with
  | none => rfl
  | some value =>
      rw [hfind] at hkept
      cases hkept

theorem conveys {p : Payload} {d : Document}
    (hname : NameOf ((d.field? 0 "intent").bind (Document.field? 0 "name")) p.intentName)
    (htext : TextOf (d.field? 1 "text") p.text)
    (hslots : SlotsOf (d.field? 2 "slots") p.slots) : Conveys d p.toIntent where
  name := ⟨p.intentName, hname, rfl⟩
  text := htext
  parameters slot := by
    cases hgiven : d.slot? slot with
    | none => simp [parameter?_toIntent_of_absent hslots hgiven]
    | some given =>
        obtain ⟨value, hkeeps, hparameter⟩ := exists_of_slot? hslots hgiven
        rw [hparameter, ← Option.ne_none_iff_exists', Ne, slotText?_eq_none_iff,
          hkeeps.eq_null_iff]
        simp
  texts slot us hgiven := by
    obtain ⟨value, hkeeps, hparameter⟩ := exists_of_slot? hslots hgiven
    cases hkeeps with
    | text t => exact ⟨t, hparameter, rfl⟩
  integers slot spelling z hgiven hz hleast hmost := by
    obtain ⟨value, hkeeps, hparameter⟩ := exists_of_slot? hslots hgiven
    cases hkeeps with
    | number hreads hvalue =>
        rw [hreads.value?_of_integer hz hleast hmost] at hvalue
        cases hvalue
        exact hparameter
  bools slot b hgiven := by
    obtain ⟨value, hkeeps, hparameter⟩ := exists_of_slot? hslots hgiven
    cases hkeeps
    cases b <;> exact hparameter

end VoiceHub.Payload
