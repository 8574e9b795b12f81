import VoiceHub.Dict

/-!
# What a dictionary holds

No key comes twice, so what is found under a key is the entry with that key.  Entries
that are written one after the other win over what was there before, and new keys
go to the end.  Sorting rearranges the entries, and the sorted keys increase strictly.
-/

namespace VoiceHub

namespace Dict

universe v

variable {α : Type v} {key : String} {value : α} {d : Dict α}

theorem find?_eq_some_iff_mem : d.find? key = some value ↔ (key, value) ∈ d.entries := by
  obtain ⟨entries, hnodup⟩ := d
  change entries.lookup key = some value ↔ (key, value) ∈ entries
  induction entries with
  | nil => simp
  | cons entry rest ih =>
      obtain ⟨first, held⟩ := entry
      obtain ⟨hfirst, hrest⟩ := List.nodup_cons.mp hnodup
      by_cases hkey : key = first
      · subst hkey
        have habsent (value : α) : (key, value) ∉ rest := fun hmem =>
          hfirst (List.mem_map.mpr ⟨_, hmem, rfl⟩)
        simp [habsent, eq_comm]
      · have hb : (key == first) = false := by simp [hkey]
        rw [List.lookup_cons, hb, List.mem_cons, ih hrest]
        simp [hkey]

@[simp] theorem isEmpty_iff {d : Dict α} : d.isEmpty = true ↔ d.entries = [] :=
  List.isEmpty_iff

theorem find?_eq_of_perm {e : Dict α} (h : d.entries.Perm e.entries) (key : String) :
    d.find? key = e.find? key := by
  ext value
  rw [find?_eq_some_iff_mem, find?_eq_some_iff_mem, h.mem_iff]

def insertAll (d : Dict α) (entries : List (String × α)) : Dict α :=
  entries.foldl (fun d entry => d.insert entry.1 entry.2) d

variable {entries : List (String × α)}

theorem keys_insertAll (h : (entries.map Prod.fst).Nodup) (d : Dict α) :
    (d.insertAll entries).keys =
      d.keys ++ (entries.map Prod.fst).filter fun key => key ∉ d.keys := by
  induction entries generalizing d with
  | nil => exact (List.append_nil _).symm
  | cons entry rest ih =>
      obtain ⟨hfirst, hrest⟩ := List.nodup_cons.mp h
      have hinsert := ih hrest (d.insert entry.1 entry.2)
      have hkeys : ∀ key ∈ rest.map Prod.fst,
          decide (key ∉ (d.insert entry.1 entry.2).keys) = decide (key ∉ d.keys) := by
        intro key hkey
        have hne : key ≠ entry.1 := fun heq => hfirst (heq ▸ hkey)
        rw [keys_insert]
        split <;> simp [hne]
      rw [List.filter_congr hkeys] at hinsert
      refine hinsert.trans ?_
      rw [keys_insert, List.map_cons]
      by_cases hmem : entry.1 ∈ d.keys <;> simp [hmem]

theorem find?_insertAll (d : Dict α) (entries : List (String × α)) (key : String) :
    (d.insertAll entries).find? key = (entries.reverse.lookup key).or (d.find? key) := by
  induction entries generalizing d with
  | nil => rfl
  | cons entry rest ih =>
      obtain ⟨first, value⟩ := entry
      refine (ih (d.insert first value)).trans ?_
      rw [find?_insert, List.reverse_cons, List.lookup_append, Option.or_assoc]
      congr 1
      by_cases hkey : key = first
      · simp [hkey]
      · have hb : (key == first) = false := by simp [hkey]
        simp [List.lookup_cons, hkey, hb]

theorem mem_insertAll {entry : String × α} (h : entry ∈ (d.insertAll entries).entries) :
    entry ∈ entries ∨ entry ∈ d.entries ∧ entry.1 ∉ entries.map Prod.fst := by
  have hfind := find?_eq_some_iff_mem.mpr h
  rw [find?_insertAll, Option.or_eq_some_iff] at hfind
  rcases hfind with hwritten | ⟨hunwritten, hheld⟩
  · obtain ⟨before, after, hentries, -⟩ := List.lookup_eq_some_iff.mp hwritten
    left
    rw [← List.mem_reverse, hentries]
    exact List.mem_append_right before List.mem_cons_self
  · refine .inr ⟨find?_eq_some_iff_mem.mp hheld, fun hkey => ?_⟩
    obtain ⟨written, hmem, hsame⟩ := List.mem_map.mp hkey
    have hne := List.lookup_eq_none_iff.mp hunwritten written (List.mem_reverse.mpr hmem)
    simp [hsame] at hne

/-- No entry hides another, so what is made of the entries can be looked up as it is made. -/
theorem find?_ofList_filterMap {β : Type v} (d : Dict α) (f : α → Option β) (key : String) :
    (ofList (d.entries.filterMap fun (key, value) => (f value).map fun made => (key, made))).find?
      key = (d.find? key).bind f := by
  let made := d.entries.filterMap fun (key, value) => (f value).map fun made => (key, made)
  have hmem {other : String} {b : β} :
      (other, b) ∈ made ↔ ∃ value, (other, value) ∈ d.entries ∧ f value = some b := by
    simp only [made, List.mem_filterMap, Option.map_eq_some_iff, Prod.mk.injEq, Prod.exists]
    constructor
    · rintro ⟨_, value, hentry, _, hf, rfl, rfl⟩
      exact ⟨value, hentry, hf⟩
    · rintro ⟨value, hentry, hf⟩
      exact ⟨other, value, hentry, b, hf, rfl, rfl⟩
  have hnodup : (made.reverse.map Prod.fst).Nodup := by
    rw [List.Nodup, List.pairwise_map, List.pairwise_reverse]
    have hkeys := d.nodup
    rw [List.Nodup, List.pairwise_map] at hkeys
    apply hkeys.filterMap
    intro entry entry' hne b hb b' hb'
    obtain ⟨_, -, rfl⟩ := Option.map_eq_some_iff.mp hb
    obtain ⟨_, -, rfl⟩ := Option.map_eq_some_iff.mp hb'
    exact hne.symm
  have hfind : (ofList made).find? key = (Dict.mk made.reverse hnodup).find? key := by
    refine (find?_insertAll empty made key).trans ?_
    exact Option.or_none
  ext b
  rw [hfind, find?_eq_some_iff_mem, List.mem_reverse, hmem, Option.bind_eq_some_iff]
  simp only [find?_eq_some_iff_mem]

/-! ## Sorted entries -/

theorem sortedEntries_perm (d : Dict α) : d.sortedEntries.Perm d.entries :=
  List.mergeSort_perm _ _

theorem pairwise_sortedEntries (d : Dict α) :
    d.sortedEntries.Pairwise fun entry later => entry.1 < later.1 := by
  have hsorted : d.sortedEntries.Pairwise fun entry later => entry.1 ≤ later.1 := by
    have htrans (a b c : String × α) (hab : decide (a.1 ≤ b.1)) (hbc : decide (b.1 ≤ c.1)) :
        decide (a.1 ≤ c.1) :=
      decide_eq_true (String.le_trans (of_decide_eq_true hab) (of_decide_eq_true hbc))
    have htotal (a b : String × α) : (decide (a.1 ≤ b.1) || decide (b.1 ≤ a.1)) = true := by
      simpa using String.le_total a.1 b.1
    exact (List.pairwise_mergeSort htrans htotal d.entries).imp of_decide_eq_true
  have hdistinct : d.sortedEntries.Pairwise fun entry later => entry.1 ≠ later.1 :=
    List.pairwise_map.mp ((d.sortedEntries_perm.map Prod.fst).nodup_iff.mpr d.nodup)
  exact hsorted.imp₂ (fun _ _ hle hne => Std.lt_of_le_of_ne hle hne) hdistinct

theorem pairwise_sortedKeys (d : Dict α) : d.sortedKeys.Pairwise (· < ·) :=
  List.pairwise_map.mpr d.pairwise_sortedEntries

theorem sortedEntries_eq (hperm : entries.Perm d.entries)
    (h : entries.Pairwise fun entry later => entry.1 < later.1) : d.sortedEntries = entries := by
  refine (d.sortedEntries_perm.trans hperm.symm).eq_of_pairwise ?_ d.pairwise_sortedEntries h
  intro entry later _ _ hlt hgt
  exact absurd hgt (String.lt_asymm hlt)

theorem sortedKeys_eq {keys : List String} (hperm : keys.Perm d.keys)
    (h : keys.Pairwise (· < ·)) : d.sortedKeys = keys := by
  have hsorted := (d.sortedEntries_perm.map Prod.fst).trans hperm.symm
  refine hsorted.eq_of_pairwise ?_ d.pairwise_sortedKeys h
  intro key later _ _ hlt hgt
  exact absurd hgt (String.lt_asymm hlt)

theorem mem_sortedKeys : key ∈ d.sortedKeys ↔ key ∈ d.keys :=
  (d.sortedEntries_perm.map Prod.fst).mem_iff

theorem mem_keys_iff_contains : key ∈ d.keys ↔ d.contains key = true := by
  unfold keys contains find?
  induction d.entries with
  | nil => simp
  | cons entry rest ih =>
      obtain ⟨first, value⟩ := entry
      by_cases h : key = first
      · simp [h]
      · have hb : (key == first) = false := by simp [h]
        simp only [List.map_cons, List.mem_cons, h, false_or, ih, List.lookup_cons, hb]

end Dict

end VoiceHub
