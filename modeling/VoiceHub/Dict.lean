/-!
Dictionaries with text keys that keep the order in which their keys first came.

Writing a key again changes its value and keeps its place.  `entries` is the
view of a dictionary: `keys_insert` and `find?_insert` say what `insert` does
to it.
-/

namespace VoiceHub

universe u

structure Dict (α : Type u) where
  entries : List (String × α)
  nodup : (entries.map Prod.fst).Nodup
  deriving DecidableEq, Repr

namespace Dict

variable {α : Type u}

def insertEntry (key : String) (value : α) : List (String × α) → List (String × α)
  | [] => [(key, value)]
  | entry :: rest =>
      if entry.1 = key then (key, value) :: rest else entry :: insertEntry key value rest

theorem map_fst_insertEntry (key : String) (value : α) (entries : List (String × α)) :
    (insertEntry key value entries).map Prod.fst =
      if key ∈ entries.map Prod.fst then entries.map Prod.fst
      else entries.map Prod.fst ++ [key] := by
  induction entries with
  | nil => simp [insertEntry]
  | cons entry rest ih =>
      by_cases h : entry.1 = key
      · simp [insertEntry, h]
      · have h' : ¬ key = entry.1 := fun e => h e.symm
        simp only [insertEntry, h, if_false, List.map_cons, ih, List.mem_cons, h', false_or]
        split <;> rfl

theorem nodup_insertEntry (key : String) (value : α) {entries : List (String × α)}
    (h : (entries.map Prod.fst).Nodup) :
    ((insertEntry key value entries).map Prod.fst).Nodup := by
  rw [map_fst_insertEntry]
  split
  · exact h
  · rename_i hkey
    rw [List.nodup_append]
    refine ⟨h, by simp, ?_⟩
    intro a ha b hb
    rw [List.mem_singleton] at hb
    subst hb
    exact fun e => hkey (e ▸ ha)

def empty : Dict α := ⟨[], by simp⟩

instance : Inhabited (Dict α) := ⟨empty⟩

def insert (key : String) (value : α) (d : Dict α) : Dict α :=
  ⟨insertEntry key value d.entries, nodup_insertEntry key value d.nodup⟩

def keys (d : Dict α) : List String := d.entries.map Prod.fst

def find? (d : Dict α) (key : String) : Option α := d.entries.lookup key

def contains (d : Dict α) (key : String) : Bool := (d.find? key).isSome

def size (d : Dict α) : Nat := d.entries.length

def isEmpty (d : Dict α) : Bool := d.entries.isEmpty

/-- Later entries win, at the place of the first one with their key. -/
def ofList (entries : List (String × α)) : Dict α :=
  entries.foldl (fun d entry => d.insert entry.1 entry.2) empty

/-- All entries of the second dictionary written into the first. -/
def extend (d other : Dict α) : Dict α :=
  other.entries.foldl (fun d entry => d.insert entry.1 entry.2) d

/-- The entries in ascending order of their keys. -/
def sortedEntries (d : Dict α) : List (String × α) :=
  d.entries.mergeSort fun entry later => entry.1 ≤ later.1

def sortedKeys (d : Dict α) : List String := d.sortedEntries.map Prod.fst

theorem ext_entries {d e : Dict α} (h : d.entries = e.entries) : d = e := by
  cases d
  cases e
  simp_all

@[simp] theorem keys_insert (d : Dict α) (key : String) (value : α) :
    (d.insert key value).keys = if key ∈ d.keys then d.keys else d.keys ++ [key] :=
  map_fst_insertEntry key value d.entries

theorem lookup_insertEntry (key other : String) (value : α) (entries : List (String × α)) :
    (insertEntry key value entries).lookup other =
      if other = key then some value else entries.lookup other := by
  induction entries with
  | nil =>
      by_cases h : other = key
      · simp [insertEntry, h]
      · have hb : (other == key) = false := by simp [h]
        simp [insertEntry, List.lookup_cons, h, hb]
  | cons entry rest ih =>
      obtain ⟨first, held⟩ := entry
      by_cases hk : first = key
      · by_cases h : other = key
        · simp [insertEntry, hk, h]
        · have hb : (other == key) = false := by simp [h]
          simp [insertEntry, hk, List.lookup_cons, h, hb]
      · by_cases he : other = first
        · simp [insertEntry, he, hk]
        · have hb : (other == first) = false := by simp [he]
          simp only [insertEntry, hk, if_false, List.lookup_cons, hb, ih]

@[simp] theorem find?_insert (d : Dict α) (key other : String) (value : α) :
    (d.insert key value).find? other = if other = key then some value else d.find? other :=
  lookup_insertEntry key other value d.entries

end Dict

end VoiceHub
