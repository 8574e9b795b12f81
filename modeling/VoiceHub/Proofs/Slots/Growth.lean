import VoiceHub.Slots

/-!
# Growth of the slot dictionary

Entering a choice appends at most one entry and touches none of those before it.
So a dictionary is a prefix of every later one of the same walk, and whatever a
name holds it holds until the end.  A walk fails at the first choice that finds
both of its names held by other values.
-/

namespace VoiceHub

namespace Dict

variable {α : Type} {d e : Dict α} {key : String} {value held : α}

theorem insertEntry_of_lookup_eq_none {entries : List (String × α)}
    (h : entries.lookup key = none) (value : α) :
    insertEntry key value entries = entries ++ [(key, value)] := by
  induction entries with
  | nil => rfl
  | cons entry rest ih =>
      obtain ⟨first, held⟩ := entry
      rw [List.lookup_cons] at h
      split at h
      · contradiction
      · next hfirst =>
          have hne : ¬ first = key := fun e => by simp [e] at hfirst
          simp [insertEntry, hne, ih h]

theorem insertEntry_of_lookup_eq_some {entries : List (String × α)}
    (h : entries.lookup key = some value) :
    insertEntry key value entries = entries := by
  induction entries with
  | nil => simp at h
  | cons entry rest ih =>
      obtain ⟨first, held⟩ := entry
      rw [List.lookup_cons] at h
      split at h
      · next hfirst =>
          rw [beq_iff_eq] at hfirst
          rw [Option.some.injEq] at h
          simp [insertEntry, hfirst, h]
      · next hfirst =>
          have hne : ¬ first = key := fun e => by simp [e] at hfirst
          simp [insertEntry, hne, ih h]

def Admits (d : Dict α) (key : String) (value : α) : Prop :=
  ∀ held, d.find? key = some held → held = value

theorem entries_prefix_insert (h : d.Admits key value) :
    d.entries <+: (d.insert key value).entries := by
  change d.entries <+: insertEntry key value d.entries
  cases hfind : d.entries.lookup key with
  | none =>
      rw [insertEntry_of_lookup_eq_none hfind]
      exact List.prefix_append _ _
  | some held =>
      obtain rfl : held = value := h held hfind
      simp [insertEntry_of_lookup_eq_some hfind]

theorem find?_mono (h : d.entries <+: e.entries)
    (hfind : d.find? key = some value) : e.find? key = some value := by
  obtain ⟨later, hlater⟩ := h
  change d.entries.lookup key = some value at hfind
  change e.entries.lookup key = some value
  rw [← hlater, List.lookup_append, hfind]
  rfl

theorem not_admits_mono (h : d.entries <+: e.entries)
    (hd : ¬ d.Admits key value) : ¬ e.Admits key value := by
  intro he
  exact hd fun held hfind => he held (find?_mono h hfind)

theorem ne_of_not_admits (hfind : d.find? key = some held)
    (h : ¬ d.Admits key value) : held ≠ value := by
  rintro rfl
  refine h fun other hother => ?_
  rw [hfind] at hother
  exact (Option.some.inj hother).symm

theorem find?_insert_of_admits (h : d.Admits key value) (other : String) :
    (d.insert key value).find? other = some held ↔
      d.find? other = some held ∨ (key = other ∧ value = held) := by
  rw [find?_insert]
  by_cases hother : other = key
  · subst hother
    simp only [if_true, Option.some.injEq, true_and]
    constructor
    · exact Or.inr
    · rintro (hfind | hvalue)
      · exact (h held hfind).symm
      · exact hvalue
  · simp [hother, Ne.symm hother]

theorem keys_foldl_insert {β : Type} (key : β → String) (value : β → α)
    (items : List β) (d : Dict α) :
    (items.foldl (fun d item => d.insert (key item) (value item)) d).keys =
      d.keys ++ ((items.map key).removeAll d.keys).eraseDups := by
  induction items generalizing d with
  | nil => simp
  | cons item items ih =>
      rw [List.foldl_cons, ih, List.map_cons, List.cons_removeAll]
      by_cases hkey : key item ∈ d.keys
      · simp [hkey]
      · have hrest : (items.map key).removeAll (d.keys ++ [key item]) =
            ((items.map key).removeAll d.keys).filter
              fun k => !k == key item := by
          rw [List.removeAll, List.removeAll, List.filter_filter]
          refine List.filter_congr fun k _ => ?_
          by_cases hk : k = key item <;> simp [hk]
        simp [hkey, hrest, List.eraseDups_cons]

theorem entries_insert_of_notMem (h : key ∉ d.keys) (value : α) :
    (d.insert key value).entries = d.entries ++ [(key, value)] := by
  apply insertEntry_of_lookup_eq_none
  rw [List.lookup_eq_none_iff]
  intro entry hentry
  rw [bne_iff_ne]
  rintro rfl
  exact h (List.mem_map_of_mem hentry)

theorem entries_foldl_insert {entries : List (String × α)}
    (h : (d.keys ++ entries.map Prod.fst).Nodup) :
    (entries.foldl (fun d entry => d.insert entry.1 entry.2) d).entries = d.entries ++ entries := by
  induction entries generalizing d with
  | nil => simp
  | cons entry rest ih =>
      rw [List.map_cons, List.append_cons] at h
      have hnew : entry.1 ∉ d.keys := by
        intro hmem
        have hdisjoint := (List.nodup_append.mp (List.nodup_append.mp h).1).2.2
        exact hdisjoint _ hmem _ List.mem_cons_self rfl
      have hkeys : (d.insert entry.1 entry.2).keys = d.keys ++ [entry.1] := by
        rw [keys_insert, if_neg hnew]
      rw [← hkeys] at h
      rw [List.foldl_cons, ih h, entries_insert_of_notMem hnew, List.append_assoc]
      rfl

theorem ofList_entries (d : Dict α) : ofList d.entries = d :=
  ext_entries (entries_foldl_insert (d := empty) d.nodup)

end Dict

namespace SlotDictionary

variable {slots final : SlotDictionary} {o : Occurrence}
  {os before after : List Occurrence} {name : String} {e : GrammarError}

/-! ## One choice -/

theorem assign_eq_ok_iff :
    slots.assign o = .ok name ↔
      (name = o.plainName ∧ slots.Admits o.plainName o.values) ∨
        (name = o.joinedName ∧ ¬ slots.Admits o.plainName o.values ∧
          slots.Admits o.joinedName o.values) := by
  unfold assign Dict.Admits
  cases slots.find? o.plainName with
  | none => simp [eq_comm]
  | some held =>
      by_cases hheld : held = o.values
      · simp [hheld, eq_comm]
      · cases slots.find? o.joinedName with
        | none => simp [hheld, eq_comm]
        | some other =>
            by_cases hother : other = o.values <;>
              simp [hheld, hother, eq_comm]

theorem assign_eq_error_iff :
    slots.assign o = .error e ↔
      ¬ slots.Admits o.plainName o.values ∧
        ¬ slots.Admits o.joinedName o.values ∧
        e = .slotCollision o.joinedName o.intent := by
  unfold assign Dict.Admits
  cases slots.find? o.plainName with
  | none => simp
  | some held =>
      by_cases hheld : held = o.values
      · simp [hheld]
      · cases slots.find? o.joinedName with
        | none => simp [hheld]
        | some other =>
            by_cases hother : other = o.values <;>
              simp [hheld, hother, eq_comm]

theorem admits_of_assign (h : slots.assign o = .ok name) :
    slots.Admits name o.values := by
  rcases assign_eq_ok_iff.mp h with ⟨rfl, hplain⟩ | ⟨rfl, -, hjoined⟩
  · exact hplain
  · exact hjoined

theorem enter_of_assign (h : slots.assign o = .ok name) :
    slots.enter o = .ok (slots.insert name o.values) := by
  unfold enter
  rw [h]
  rfl

theorem enter_of_assign_error (h : slots.assign o = .error e) :
    slots.enter o = .error e := by
  unfold enter
  rw [h]
  rfl

/-! ## A walk -/

theorem enterAll_cons_eq_ok_iff {rest : List Occurrence} :
    slots.enterAll (o :: rest) = .ok final ↔
      ∃ name, slots.assign o = .ok name ∧
        enterAll (slots.insert name o.values) rest = .ok final := by
  rw [enterAll]
  cases hassign : slots.assign o with
  | error e => simp [enter_of_assign_error hassign]
  | ok name => simp [enter_of_assign hassign]

theorem entries_prefix_enterAll (h : slots.enterAll os = .ok final) :
    slots.entries <+: final.entries := by
  induction os generalizing slots with
  | nil =>
      cases h
      exact List.prefix_refl _
  | cons o rest ih =>
      obtain ⟨name, hassign, hrest⟩ := enterAll_cons_eq_ok_iff.mp h
      exact (Dict.entries_prefix_insert (admits_of_assign hassign)).trans
        (ih hrest)

theorem enterAll_append (slots : SlotDictionary)
    (before after : List Occurrence) :
    slots.enterAll (before ++ after) =
      (slots.enterAll before).bind fun middle => middle.enterAll after := by
  induction before generalizing slots with
  | nil => rfl
  | cons o rest ih =>
      rw [List.cons_append, enterAll, enterAll]
      cases slots.enter o with
      | error e => rfl
      | ok slots' => exact ih slots'

theorem enterAll_append_eq_ok_iff :
    slots.enterAll (before ++ after) = .ok final ↔
      ∃ middle, slots.enterAll before = .ok middle ∧
        middle.enterAll after = .ok final := by
  rw [enterAll_append]
  cases slots.enterAll before <;> simp [Except.bind]

theorem exists_assign_of_split
    (h : slots.enterAll (before ++ o :: after) = .ok final) :
    ∃ middle name, slots.enterAll before = .ok middle ∧
      middle.assign o = .ok name ∧
      Dict.entries (middle.insert name o.values) <+: final.entries := by
  obtain ⟨middle, hbefore, hafter⟩ := enterAll_append_eq_ok_iff.mp h
  obtain ⟨name, hassign, hrest⟩ := enterAll_cons_eq_ok_iff.mp hafter
  exact ⟨middle, name, hbefore, hassign, entries_prefix_enterAll hrest⟩

/-- A walk fails at the first choice that can be given no name. -/
theorem enterAll_eq_error_iff :
    slots.enterAll os = .error e ↔
      ∃ before o after middle, os = before ++ o :: after ∧
        slots.enterAll before = .ok middle ∧ middle.assign o = .error e := by
  constructor
  · intro h
    induction os generalizing slots with
    | nil => simp [enterAll] at h
    | cons o rest ih =>
        rw [enterAll] at h
        cases hassign : slots.assign o with
        | error e' =>
            rw [enter_of_assign_error hassign] at h
            cases h
            exact ⟨[], o, rest, slots, rfl, rfl, hassign⟩
        | ok name =>
            rw [enter_of_assign hassign] at h
            obtain ⟨before, o', after, middle, rfl, hbefore, herror⟩ := ih h
            exact ⟨o :: before, o', after, middle, rfl,
              enterAll_cons_eq_ok_iff.mpr ⟨name, hassign, hbefore⟩, herror⟩
  · rintro ⟨before, o, after, middle, rfl, hbefore, herror⟩
    rw [enterAll_append, hbefore]
    change middle.enterAll (o :: after) = .error e
    rw [enterAll, enter_of_assign_error herror]

end SlotDictionary

end VoiceHub
