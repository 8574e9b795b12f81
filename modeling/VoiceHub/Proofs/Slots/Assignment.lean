import VoiceHub.Proofs.Slots.Growth

/-!
# The names given along a walk

`assignments` records the name under which a walk enters each choice.  The
dictionary after the walk is exactly this record: a name holds a value list if
and only if a choice with these values was entered under it.  As names keep what
they hold, `resolve` finds in every later dictionary the name that was given.
-/

namespace VoiceHub

/-- A choice of the walk with the slot name it is entered under. -/
structure Assignment where
  occurrence : Occurrence
  name : String
  deriving DecidableEq, Repr

namespace SlotDictionary

/-- The names given along a walk, up to the first choice that can have none. -/
def assignments (slots : SlotDictionary) : List Occurrence → List Assignment
  | [] => []
  | o :: rest =>
      match slots.assign o with
      | .error _ => []
      | .ok name =>
          ⟨o, name⟩ :: assignments (slots.insert name o.values) rest

variable {slots final later : SlotDictionary} {o : Occurrence}
  {os : List Occurrence} {name : String} {a : Assignment}

theorem assignments_cons (h : slots.assign o = .ok name)
    (rest : List Occurrence) :
    slots.assignments (o :: rest) =
      ⟨o, name⟩ :: assignments (slots.insert name o.values) rest := by
  simp only [assignments, h]

/-! ## The record of a walk -/

theorem occurrences_assignments (h : slots.enterAll os = .ok final) :
    (slots.assignments os).map Assignment.occurrence = os := by
  induction os generalizing slots with
  | nil => rfl
  | cons o rest ih =>
      obtain ⟨name, hassign, hrest⟩ := enterAll_cons_eq_ok_iff.mp h
      rw [assignments_cons hassign, List.map_cons, ih hrest]

theorem eq_foldl_assignments (h : slots.enterAll os = .ok final) :
    final = (slots.assignments os).foldl
      (fun slots a => slots.insert a.name a.occurrence.values) slots := by
  induction os generalizing slots with
  | nil =>
      cases h
      rfl
  | cons o rest ih =>
      obtain ⟨name, hassign, hrest⟩ := enterAll_cons_eq_ok_iff.mp h
      rw [assignments_cons hassign, List.foldl_cons]
      exact ih hrest

theorem exists_split_of_mem_assignments (h : a ∈ slots.assignments os) :
    ∃ before after middle, os = before ++ a.occurrence :: after ∧
      slots.enterAll before = .ok middle ∧
      middle.assign a.occurrence = .ok a.name := by
  induction os generalizing slots with
  | nil => simp [assignments] at h
  | cons o rest ih =>
      cases hassign : slots.assign o with
      | error e => simp [assignments, hassign] at h
      | ok name =>
          rw [assignments_cons hassign, List.mem_cons] at h
          rcases h with rfl | h
          · exact ⟨[], rest, slots, rfl, rfl, hassign⟩
          · obtain ⟨before, after, middle, rfl, hbefore, hname⟩ := ih h
            exact ⟨o :: before, after, middle, rfl,
              enterAll_cons_eq_ok_iff.mpr ⟨name, hassign, hbefore⟩, hname⟩

theorem name_of_mem_assignments (h : a ∈ slots.assignments os) :
    a.occurrence ∈ os ∧
      (a.name = a.occurrence.plainName ∨
        a.name = a.occurrence.joinedName) := by
  obtain ⟨before, after, middle, rfl, -, hassign⟩ :=
    exists_split_of_mem_assignments h
  refine ⟨by simp, ?_⟩
  rcases assign_eq_ok_iff.mp hassign with ⟨hname, -⟩ | ⟨hname, -⟩
  · exact .inl hname
  · exact .inr hname

/-- A dictionary holds what it held before the walk and what was entered. -/
theorem find?_enterAll_iff (h : slots.enterAll os = .ok final) (key : String)
    (held : List String) :
    final.find? key = some held ↔
      slots.find? key = some held ∨
        ∃ a ∈ slots.assignments os,
          a.name = key ∧ a.occurrence.values = held := by
  induction os generalizing slots with
  | nil =>
      cases h
      simp [assignments]
  | cons o rest ih =>
      obtain ⟨name, hassign, hrest⟩ := enterAll_cons_eq_ok_iff.mp h
      rw [ih hrest, Dict.find?_insert_of_admits (admits_of_assign hassign),
        assignments_cons hassign]
      simp [or_assoc]

theorem admits_enterAll_iff (h : enterAll Dict.empty os = .ok final)
    (key : String) (values : List String) :
    final.Admits key values ↔
      ∀ a ∈ assignments Dict.empty os,
        a.name = key → a.occurrence.values = values := by
  have hcontents := find?_enterAll_iff h key
  constructor
  · intro hadmits a ha hname
    exact hadmits _ ((hcontents _).mpr (.inr ⟨a, ha, hname, rfl⟩))
  · intro hall held hfind
    rcases (hcontents held).mp hfind with hnone | ⟨a, ha, hname, rfl⟩
    · contradiction
    · exact hall a ha hname

/-! ## Resolution in later dictionaries -/

theorem resolve_of_assign (hassign : slots.assign o = .ok name)
    (hlater : Dict.entries (slots.insert name o.values) <+: later.entries) :
    later.resolve o = some name := by
  have hadmits := admits_of_assign hassign
  have hfind : later.find? name = some o.values :=
    Dict.find?_mono hlater (by simp)
  rcases assign_eq_ok_iff.mp hassign with ⟨rfl, -⟩ | ⟨rfl, hplain, -⟩
  · simp [resolve, hfind]
  · have hgrown := (Dict.entries_prefix_insert hadmits).trans hlater
    have htaken : later.find? o.plainName ≠ some o.values := fun hsame =>
      Dict.ne_of_not_admits hsame (Dict.not_admits_mono hgrown hplain) rfl
    simp [resolve, htaken, hfind]

theorem resolve_eq_of_mem (h : slots.enterAll os = .ok final)
    (hlater : final.entries <+: later.entries) (ho : o ∈ os) :
    later.resolve o = final.resolve o := by
  obtain ⟨before, after, rfl⟩ := List.append_of_mem ho
  obtain ⟨middle, name, -, hassign, hgrown⟩ := exists_assign_of_split h
  rw [resolve_of_assign hassign hgrown,
    resolve_of_assign hassign (hgrown.trans hlater)]

theorem resolve_of_mem_assignments (h : slots.enterAll os = .ok final)
    (ha : a ∈ slots.assignments os) :
    final.resolve a.occurrence = some a.name := by
  obtain ⟨before, after, middle, rfl, hbefore, hassign⟩ :=
    exists_split_of_mem_assignments ha
  obtain ⟨middle', name, hbefore', hassign', hgrown⟩ :=
    exists_assign_of_split h
  rw [hbefore] at hbefore'
  cases hbefore'
  rw [hassign] at hassign'
  cases hassign'
  exact resolve_of_assign hassign hgrown

/-- Choice by choice, resolution gives back the names of the walk. -/
theorem map_resolve (h : slots.enterAll os = .ok final) :
    os.map final.resolve =
      (slots.assignments os).map fun a => some a.name := by
  calc os.map final.resolve
      = ((slots.assignments os).map Assignment.occurrence).map
          final.resolve := by
        rw [occurrences_assignments h]
    _ = (slots.assignments os).map fun a => some a.name := by
        rw [List.map_map]
        exact List.map_congr_left fun a ha => resolve_of_mem_assignments h ha

private theorem map_some_eraseDups : ∀ names : List String,
    names.eraseDups.map some = (names.map some).eraseDups
  | [] => rfl
  | first :: rest => by
      rw [List.eraseDups_cons, List.map_cons, map_some_eraseDups,
        List.map_cons, List.eraseDups_cons, List.filter_map]
      rfl
termination_by names => names.length
decreasing_by exact Nat.lt_succ_of_le (List.length_filter_le _ _)

theorem keys_enterAll (h : enterAll Dict.empty os = .ok final) :
    final.keys.map some = (os.map final.resolve).eraseDups := by
  have hkeys : final.keys =
      ((assignments Dict.empty os).map Assignment.name).eraseDups := by
    rw [eq_foldl_assignments h, Dict.keys_foldl_insert]
    simp [Dict.keys, Dict.empty]
  rw [hkeys, map_some_eraseDups, map_resolve h, List.map_map]
  rfl

theorem find?_of_resolve (h : slots.resolve o = some name) :
    slots.find? name = some o.values ∧
      (name = o.plainName ∨ name = o.joinedName) := by
  unfold resolve at h
  split at h
  · next hplain =>
      cases h
      exact ⟨hplain, .inl rfl⟩
  · split at h
    · next hjoined =>
        cases h
        exact ⟨hjoined, .inr rfl⟩
    · contradiction

end SlotDictionary

end VoiceHub
