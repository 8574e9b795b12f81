import VoiceHub.Definition
import VoiceHub.Intent
import VoiceHub.Backend

/-!
The choice between speech outputs.

Outputs have names in order of first mention, and one of them is the current
one.  A name that is spoken finds the first output with that name up to the case
of ASCII letters.
-/

namespace VoiceHub

structure Selector where
  outputs : Dict Output
  /-- The place of the current output. -/
  current : Nat
  current_lt : current < outputs.entries.length
  /-- Made anew whenever an output is added. -/
  definitions : List Definition := []

namespace Selector

def selectIntent : String := "SelectSpeaker"

def speakerParameter : String := "Speaker"

def names (s : Selector) : List String := s.outputs.keys

def rebuildDefinitions (s : Selector) : Selector :=
  { s with
    definitions :=
      [{ name := selectIntent,
         sentences :=
          [[.literal { text := "Talk to me on" },
            .literal { text := "the", isOptional := true },
            .choice { name := speakerParameter, returned := true, values := s.names }]] }] }

def ofOutput (name : String) (output : Output) : Selector :=
  rebuildDefinitions
    { outputs := ⟨[(name, output)], by simp⟩, current := 0, current_lt := by simp }

theorem length_le_insertEntry {α : Type} (key : String) (value : α) (entries : List (String × α)) :
    entries.length ≤ (Dict.insertEntry key value entries).length := by
  induction entries with
  | nil => simp
  | cons entry rest ih =>
      by_cases h : entry.1 = key
      · simp [Dict.insertEntry, h]
      · simpa [Dict.insertEntry, h] using ih

/-- A name given again keeps its place and gets the new output. -/
def withOutput (s : Selector) (name : String) (output : Output) : Selector :=
  rebuildDefinitions
    { s with
      outputs := s.outputs.insert name output
      current_lt :=
        Nat.lt_of_lt_of_le s.current_lt (length_le_insertEntry name output s.outputs.entries) }

def currentEntry (s : Selector) : String × Output :=
  s.outputs.entries.get ⟨s.current, s.current_lt⟩

def currentName (s : Selector) : String := s.currentEntry.1

def currentOutput (s : Selector) : Output := s.currentEntry.2

def sameName (a b : String) : Bool :=
  a.toList.map Char.toLower = b.toList.map Char.toLower

def select? (s : Selector) (name : String) : Option Selector :=
  let place := s.outputs.entries.findIdx fun entry => sameName entry.1 name
  if h : place < s.outputs.entries.length then
    some { s with current := place, current_lt := h }
  else none

def answer (s : Selector) (i : Intent) : Except Failure (Response × Selector) :=
  match i.require speakerParameter with
  | .error e => .error (.error e)
  | .ok name =>
      match s.select? name with
      | some s => .ok ({ text := "I'm here" }, s)
      | none => .error (.error (.invalidParameter speakerParameter name))

end Selector

end VoiceHub
