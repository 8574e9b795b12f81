import VoiceHub.Definition
import VoiceHub.Dict

/-!
The slot dictionary: lists of values that are too long to stand in a sentence.

`extract` walks the choices of the definitions in order and gives each large one
a slot.  A slot is named after its parameter; the name is shared by choices with
the same values, and a choice with other values falls back to the name joined
from intent and parameter.  `resolve` finds the slot of a choice afterwards.
-/

namespace VoiceHub

/-- Choices with more values than this get a slot. -/
def inlineChoiceLimit : Nat := 5

def Choice.isLarge (c : Choice) : Bool := inlineChoiceLimit < c.values.length

abbrev SlotDictionary := Dict (List String)

inductive GrammarError where
  /-- The joined name is taken as well, by other values. -/
  | slotCollision (slot intent : String)
  deriving DecidableEq, Repr

def GrammarError.message : GrammarError → String
  | .slotCollision slot intent =>
      "Slot '" ++ slot ++ "' for intent '" ++ intent ++
        "' collides with an existing slot holding different values"

/-- A choice as the walk meets it, with the intent it belongs to. -/
structure Occurrence where
  intent : String
  choice : Choice
  deriving DecidableEq, Repr

namespace Occurrence

def plainName (o : Occurrence) : String := o.choice.name

def joinedName (o : Occurrence) : String := o.intent ++ "_" ++ o.choice.name

def values (o : Occurrence) : List String := o.choice.values

end Occurrence

def Definition.occurrences (d : Definition) : List Occurrence :=
  (d.choices.filter Choice.isLarge).map fun c => ⟨d.name, c⟩

/-- The large choices of the definitions, in the order in which slots are given. -/
def walk (definitions : List Definition) : List Occurrence :=
  definitions.flatMap Definition.occurrences

namespace SlotDictionary

/-- The name under which a choice is entered, if it can be. -/
def assign (slots : SlotDictionary) (o : Occurrence) : Except GrammarError String :=
  match slots.find? o.plainName with
  | none => .ok o.plainName
  | some held =>
      if held = o.values then .ok o.plainName
      else match slots.find? o.joinedName with
        | none => .ok o.joinedName
        | some held =>
            if held = o.values then .ok o.joinedName
            else .error (.slotCollision o.joinedName o.intent)

def enter (slots : SlotDictionary) (o : Occurrence) : Except GrammarError SlotDictionary :=
  (slots.assign o).map fun name => slots.insert name o.values

def enterAll (slots : SlotDictionary) : List Occurrence → Except GrammarError SlotDictionary
  | [] => .ok slots
  | o :: rest =>
      match slots.enter o with
      | .error e => .error e
      | .ok slots => slots.enterAll rest

def extract (definitions : List Definition) : Except GrammarError SlotDictionary :=
  enterAll Dict.empty (walk definitions)

/-- The slot that holds exactly the values of the choice. -/
def resolve (slots : SlotDictionary) (o : Occurrence) : Option String :=
  if slots.find? o.plainName = some o.values then some o.plainName
  else if slots.find? o.joinedName = some o.values then some o.joinedName
  else none

end SlotDictionary

end VoiceHub
