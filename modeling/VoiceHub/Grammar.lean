import VoiceHub.Json
import VoiceHub.Numeral
import VoiceHub.Slots

/-!
The sentence text of a set of definitions, and the compiler that makes it.

The reader of the text is sensitive to blanks and punctuation.  A literal is its
text, with a colon if it labels a value; a small choice is `(a | b)`, a large one
`$slot`, each with `{name}` if its value is returned; a range is `(1..10)` with
`{name!int}`; a mention of a variable is `<name>` with ` {name}`.  Square brackets
around all of this mark an optional part.

As a JSON value, the slot dictionary is one flat object, with the names in the order
in which they were given.
-/

namespace VoiceHub

namespace Grammar

def braced (text : String) : String := "\x7b" ++ text ++ "\x7d"

def renderLiteral (l : Literal) : String :=
  if l.substitute then l.text ++ ":" else l.text

def renderChoice (slots : SlotDictionary) (intent : String) (c : Choice) : String :=
  let alternatives :=
    if c.isLarge then "$" ++ (slots.resolve ⟨intent, c⟩).getD c.name
    else "(" ++ " | ".intercalate c.values ++ ")"
  if c.returned then alternatives ++ braced c.name else alternatives

def renderRange (r : Range) : String :=
  let bounds := "(" ++ Decimal.intText r.lower ++ ".." ++ Decimal.intText r.upper ++ ")"
  if r.returned then bounds ++ braced (r.name ++ "!int") else bounds

def renderReference (r : Reference) : String :=
  let mention := "<" ++ r.name ++ ">"
  if r.returned then mention ++ " " ++ braced r.name else mention

def renderPart (slots : SlotDictionary) (intent : String) (part : Part) : String :=
  let rendered := match part with
    | .literal l => renderLiteral l
    | .choice c => renderChoice slots intent c
    | .range r => renderRange r
    | .reference r => renderReference r
  if part.isOptional then "[" ++ rendered ++ "]" else rendered

def renderSentence (slots : SlotDictionary) (intent : String) (sentence : Sentence) : String :=
  " ".intercalate (sentence.map (renderPart slots intent))

def renderVariable (slots : SlotDictionary) (intent : String) (v : Variable) : String :=
  let branches := v.sentences.map (renderSentence slots intent)
  if 1 < branches.length then v.name ++ " = (" ++ "|".intercalate branches ++ ")"
  else v.name ++ " = " ++ "".intercalate branches

/-- Header line, a line for each variable, a blank line if there was one, then the sentences. -/
def renderDefinition (slots : SlotDictionary) (d : Definition) : String :=
  let header := "[" ++ d.name ++ "]\n"
  let variableLines := d.vars.map fun v => renderVariable slots d.name v ++ "\n"
  let gap := if d.vars.isEmpty then "" else "\n"
  header ++ String.join variableLines ++ gap ++
    "\n".intercalate (d.sentences.map (renderSentence slots d.name))

def renderDefinitions (slots : SlotDictionary) (definitions : List Definition) : String :=
  "\n\n".intercalate (definitions.map (renderDefinition slots))

end Grammar

/-- What the speech backend trains on. -/
structure Grammar where
  slots : SlotDictionary
  sentences : String

namespace Grammar

/-- There is nothing to upload. -/
def isEmpty (g : Grammar) : Bool := g.slots.isEmpty && g.sentences.isEmpty

def compile (definitions : List Definition) : Except GrammarError Grammar :=
  let named := definitions.filter Definition.isNamed
  (SlotDictionary.extract named).map fun slots =>
    { slots, sentences := renderDefinitions slots named }

end Grammar

def SlotDictionary.toJson (slots : SlotDictionary) : Json :=
  .object (slots.entries.map fun (name, values) => (name, .texts values))

/-- The text that is uploaded. -/
def SlotDictionary.upload (slots : SlotDictionary) : String := slots.toJson.compact

def Grammar.toJson (g : Grammar) : Json :=
  .object [("slots", g.slots.toJson), ("sentences", .text g.sentences)]

end VoiceHub
