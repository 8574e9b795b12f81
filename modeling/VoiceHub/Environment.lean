import VoiceHub.Dict
import VoiceHub.Text.Alphanumeric
import VoiceHub.Text.Scan
import VoiceHub.Text.Utf8

/-!
Environment variables, and files that add to them.

Each line of such a file is blank, a comment, or `NAME=value`, with the word
`export` allowed in front.  A value ends at its first blank outside of quotes,
after which only a comment may follow; outside of single quotes a dollar sign
with a name, in braces or not, stands for a variable.  A variable that is set
keeps its value, and the first line that cannot be read ends the file.
-/

namespace VoiceHub

abbrev Environment := Dict String

namespace Environment

section Values

/-- A part of a value: a character, or a variable in whose place its value stands. -/
inductive Piece where
  | char (c : Char)
  | variable (name : List Char)
  deriving DecidableEq, Repr

/-- Where in a value a character stands; `isQuoted` says whether in double quotes. -/
inductive Place where
  | text (isQuoted : Bool)
  | escape (isQuoted : Bool)
  | singleQuotes
  | name (isQuoted : Bool) (name : List Char)
  | braces (isQuoted : Bool) (name : List Char)
  | ended
  deriving DecidableEq, Repr

def escaped? (c : Char) : Option Char :=
  if c = 'n' then some '\n'
  else if ['\\', '\'', '"', '$', ' '].contains c then some c
  else none

def isBlank (c : Char) : Bool := c = ' ' || c = '\t'

/-- Whether a value may end here, and what it then ends with. -/
def finish? : Place → Option (List Piece)
  | .text isQuoted | .escape isQuoted => if isQuoted then none else some []
  | .name isQuoted name => if isQuoted then none else some [.variable name]
  | .ended => some []
  | .singleQuotes | .braces _ _ => none

/-- The pieces that one character completes, and the place after it; no place ends the value.

The character after a name without braces stands for itself, whatever it is, unless a dollar sign
begins the next name. -/
def step? (c : Char) : Place → Option (List Piece × Option Place)
  | .ended =>
      if isBlank c then some ([], some .ended) else if c = '#' then some ([], none) else none
  | .escape isQuoted => (escaped? c).map fun c => ([.char c], some (.text isQuoted))
  | .singleQuotes =>
      if c = '\'' then some ([], some (.text false)) else some ([.char c], some .singleQuotes)
  | .name isQuoted name =>
      if Text.isAlphanumeric c then some ([], some (.name isQuoted (name ++ [c])))
      else if c = '\x7b' ∧ name = [] then some ([], some (.braces isQuoted []))
      else if c = '$' then some ([.variable name], some (.name isQuoted []))
      else some ([.variable name, .char c], some (.text isQuoted))
  | .braces isQuoted name =>
      if c = '\x7d' then some ([.variable name], some (.text isQuoted))
      else some ([], some (.braces isQuoted (name ++ [c])))
  | .text isQuoted =>
      if c = '$' then some ([], some (.name isQuoted []))
      else if c = '\\' then some ([], some (.escape isQuoted))
      else if c = '"' then some ([], some (.text !isQuoted))
      else if isQuoted then some ([.char c], some (.text true))
      else if c = '\'' then some ([], some .singleQuotes)
      else if isBlank c then some ([], some .ended)
      else some ([.char c], some (.text false))

def pieces? : Place → List Char → Option (List Piece)
  | place, [] => finish? place
  | place, c :: s => do
      match ← step? c place with
      | (pieces, none) => return pieces
      | (pieces, some place) => return pieces ++ (← pieces? place s)

end Values

section Lines

structure Assignment where
  name : String
  value : List Piece
  deriving DecidableEq, Repr

def isKeyStart (c : Char) : Bool := c.isAlpha || c = '_'

def isKeyChar (c : Char) : Bool := c.isAlphanum || c = '_' || c = '.'

/-- A name and what follows it and the white space after it. -/
def takeName? : Scan (List Char) := fun s =>
  if s.head?.any isKeyStart then
    some (s.takeWhile isKeyChar, Text.trimLeft (s.dropWhile isKeyChar))
  else none

/-- The name that is assigned to, and what follows the equals sign. -/
def takeTarget? : Scan (List Char) := fun s => do
  let (name, s) ← takeName? s
  match skip? '=' s with
  | some s => return (name, s)
  | none =>
      if name ≠ "export".toList then none
      let (name, s) ← takeName? s
      return (name, ← skip? '=' s)

/-- What a line without white space at its ends assigns, if it can be read. -/
def assignment? (line : List Char) : Option Assignment := do
  let (name, s) ← takeTarget? line
  let value := Text.trimLeft s
  let pieces ← if value.head? = some '#' then some [] else pieces? (.text false) value
  return { name := String.ofList name, value := pieces }

end Lines

section Files

/-- Sets a variable unless it is set. -/
def add (env : Environment) (name value : String) : Environment :=
  if env.contains name then env else env.insert name value

/-- A variable that is not set stands for nothing. -/
def expand (env : Environment) (pieces : List Piece) : String :=
  String.ofList (pieces.flatMap fun piece =>
    match piece with
    | .char c => [c]
    | .variable name => ((env.find? (String.ofList name)).getD "").toList)

/-- What the lines add, up to the first one that cannot be read. -/
def addLines (env : Environment) : List (List UInt8) → Environment
  | [] => env
  | bytes :: rest =>
      match Utf8.decode bytes with
      | .error _ => env
      | .ok line =>
          match Text.trim line.toList with
          | [] => addLines env rest
          | '#' :: _ => addLines env rest
          | line =>
              match assignment? line with
              | none => env
              | some a => addLines (env.add a.name (env.expand a.value)) rest

def addFile (env : Environment) (bytes : List UInt8) : Environment :=
  env.addLines (bytes.splitOn 10)

end Files

end Environment

end VoiceHub
