import VoiceHub.Json

/-!
The utterances that a handler understands.

A `Definition` names one intent and holds its phrasings, the `Sentence`s, and
its `Variable`s, alternatives that the sentences can refer to.  A sentence is a
list of `Part`s in spoken order.  A definition without a name is never
compiled and never routed.

As a JSON value, a part says its kind first, and a sentence is the array of its parts.
-/

namespace VoiceHub

structure Literal where
  text : String
  isOptional : Bool := false
  /-- The text labels a value and is written with a colon after it. -/
  substitute : Bool := false
  deriving DecidableEq, Repr

/-- A parameter whose value is one of an ordered list of texts. -/
structure Choice where
  name : String
  /-- The matched value comes back with the recognized intent. -/
  returned : Bool
  values : List String
  isOptional : Bool := false
  deriving DecidableEq, Repr

/-- A parameter that matches the whole numbers from `lower` to `upper`. -/
structure Range where
  name : String
  returned : Bool
  lower : Int
  upper : Int
  isOptional : Bool := false
  deriving DecidableEq, Repr

/-- A mention of a variable of the same definition. -/
structure Reference where
  name : String
  returned : Bool
  isOptional : Bool := false
  deriving DecidableEq, Repr

inductive Part where
  | literal (literal : Literal)
  | choice (choice : Choice)
  | range (range : Range)
  | reference (reference : Reference)
  deriving DecidableEq, Repr

namespace Part

/-- The name of a parameter; for a literal, its text. -/
def name : Part → String
  | .literal l => l.text
  | .choice c => c.name
  | .range r => r.name
  | .reference r => r.name

def isOptional : Part → Bool
  | .literal l => l.isOptional
  | .choice c => c.isOptional
  | .range r => r.isOptional
  | .reference r => r.isOptional

def choice? : Part → Option Choice
  | .choice c => some c
  | _ => none

end Part

abbrev Sentence := List Part

/-- Alternatives under a name; each sentence is one branch. -/
structure Variable where
  name : String
  sentences : List Sentence := []
  deriving DecidableEq, Repr

structure Definition where
  name : String
  sentences : List Sentence := []
  vars : List Variable := []
  deriving DecidableEq, Repr

namespace Definition

/-- One sentence that is one literal. -/
def simple (name text : String) : Definition :=
  { name, sentences := [[.literal { text }]] }

def addSentence (d : Definition) (sentence : Sentence) : Definition :=
  { d with sentences := d.sentences ++ [sentence] }

def addVariable (d : Definition) (v : Variable) : Definition :=
  { d with vars := d.vars ++ [v] }

def isNamed (d : Definition) : Bool := d.name ≠ ""

/-- Sentences first, then the branches of the variables. -/
def allSentences (d : Definition) : List Sentence :=
  d.sentences ++ d.vars.flatMap Variable.sentences

def choices (d : Definition) : List Choice :=
  d.allSentences.flatten.filterMap Part.choice?

end Definition

/-! ## Definitions as JSON values -/

def Literal.toJson (l : Literal) : Json :=
  .object [("kind", .text "literal"), ("text", .text l.text), ("optional", .bool l.isOptional),
    ("substitute", .bool l.substitute)]

def Choice.toJson (c : Choice) : Json :=
  .object [("kind", .text "choice"), ("name", .text c.name), ("returnValue", .bool c.returned),
    ("possibleValues", .texts c.values), ("optional", .bool c.isOptional)]

def Range.toJson (r : Range) : Json :=
  .object [("kind", .text "range"), ("name", .text r.name), ("returnValue", .bool r.returned),
    ("lower", .int r.lower), ("upper", .int r.upper), ("optional", .bool r.isOptional)]

def Reference.toJson (r : Reference) : Json :=
  .object [("kind", .text "variableRef"), ("name", .text r.name),
    ("returnValue", .bool r.returned), ("optional", .bool r.isOptional)]

def Part.toJson : Part → Json
  | .literal l => l.toJson
  | .choice c => c.toJson
  | .range r => r.toJson
  | .reference r => r.toJson

def Sentence.toJson (sentence : Sentence) : Json := .array (sentence.map Part.toJson)

def Variable.toJson (v : Variable) : Json :=
  .object [("name", .text v.name), ("sentences", .array (v.sentences.map Sentence.toJson))]

def Definition.toJson (d : Definition) : Json :=
  .object [("name", .text d.name), ("sentences", .array (d.sentences.map Sentence.toJson)),
    ("variables", .array (d.vars.map Variable.toJson))]

end VoiceHub
