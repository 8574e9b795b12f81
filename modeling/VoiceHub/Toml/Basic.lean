import VoiceHub.Toml.Moment

/-!
TOML values.

A table remembers how it came about, since only some tables may be opened again:
`declared` ones have a header of their own, `implied` ones stand on the way to a
header, `dotted` ones on the way to a key, and `inline` ones between braces.
Floating-point numbers are told apart from whole ones and not kept.
-/

namespace VoiceHub.Toml

inductive Form where
  | declared
  | implied
  | dotted
  | inline
  deriving DecidableEq, Repr

inductive Value where
  | text (s : String)
  | integer (i : Int)
  | float
  | boolean (b : Bool)
  | moment (m : Moment)
  | array (items : List Value)
  | table (form : Form) (entries : List (String × Value))
  /-- The tables of one header in double brackets, one or more. -/
  | tables (members : List (List (String × Value)))

abbrev Entries := List (String × Value)

namespace Entries

def find? (entries : Entries) (key : String) : Option Value := entries.lookup key

/-- Replaces the value of a key that is there. -/
def replace (key : String) (value : Value) (entries : Entries) : Entries :=
  entries.map fun entry => if entry.1 = key then (key, value) else entry

/-- Changes the entries of the table at a path, or refuses.

Tables that are missing on the way come into being; an inline table is closed,
and a dotted path also stops at tables with a header. -/
def updateAt (isDotted : Bool) (change : Form → Entries → Option Entries) :
    List String → Form → Entries → Option Entries
  | [], form, entries => change form entries
  | key :: path, _, entries =>
      match entries.find? key with
      | none => do
          let form := if isDotted then .dotted else .implied
          let inner ← updateAt isDotted change path form []
          return entries ++ [(key, .table form inner)]
      | some (.table form inner) =>
          if form = .inline ∨ (form = .declared ∧ isDotted) then none
          else do
            let inner ← updateAt isDotted change path form inner
            return entries.replace key (.table form inner)
      | some (.tables members) => do
          let last ← updateAt isDotted change path .declared (members.getLast?.getD [])
          return entries.replace key (.tables (members.dropLast ++ [last]))
      | some _ => none

/-- A new key with its value, in a table that the way to it fits. -/
def addKey (isDotted : Bool) (key : String) (value : Value) (form : Form) (entries : Entries) :
    Option Entries :=
  if decide (form = .dotted) ≠ isDotted ∨ (entries.find? key).isSome then none
  else some (entries ++ [(key, value)])

/-- Writes a value at a dotted path. -/
def assign (path : List String) (key : String) (value : Value) (form : Form) (entries : Entries) :
    Option Entries :=
  updateAt true (addKey (!path.isEmpty) key value) path form entries

end Entries

end VoiceHub.Toml
