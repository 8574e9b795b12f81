import VoiceHub.Numeral
import VoiceHub.Text.Scan

/-!
Quoted texts and keys of TOML.

A text between double quotes has escapes, one between single quotes has none.
Three quotes open a text of many lines, whose first line break does not count;
one or two quotes may stand anywhere in it, also before its end.
-/

namespace VoiceHub.Toml

def isBlank (c : Char) : Bool := c = ' ' || c = '\t'

def skipBlank (s : List Char) : List Char := s.dropWhile isBlank

/-- What follows a line break, which may begin with a carriage return. -/
def skipBreak? : List Char → Option (List Char)
  | '\n' :: s => some s
  | '\r' :: '\n' :: s => some s
  | _ => none

/-- A character that stands for itself in texts and comments. -/
def isPlain (c : Char) : Bool := c = '\t' || (' ' ≤ c && c ≠ '\x7f')

section Escapes

def escaped? (letter : Char) : Option Char :=
  match letter with
  | 'b' => some '\x08'
  | 't' => some '\t'
  | 'n' => some '\n'
  | 'f' => some '\x0c'
  | 'r' => some '\r'
  | '"' => some '"'
  | '\\' => some '\\'
  | _ => none

/-- The character with a number of exactly so many hexadecimal digits. -/
def takeCodePoint? (count : Nat) : Scan Char := fun s =>
  let ds := s.take count
  if ds.length = count ∧ ds.all Hex.isDigit ∧ (Hex.value ds).isValidChar then
    some (Char.ofNat (Hex.value ds), s.drop count)
  else none

/-- What stands after a backslash. -/
def takeEscape? : Scan Char
  | [] => none
  | 'u' :: s => takeCodePoint? 4 s
  | 'U' :: s => takeCodePoint? 8 s
  | letter :: s => (escaped? letter).map fun c => (c, s)

end Escapes

section Lines

/-- The rest of a text on one line, after its opening quote. -/
def takeBasic? : Nat → Scan (List Char)
  | 0, _ => none
  | _ + 1, [] => none
  | _ + 1, '"' :: s => some ([], s)
  | steps + 1, '\\' :: s => do
      let (c, s) ← takeEscape? s
      let (cs, s) ← takeBasic? steps s
      return (c :: cs, s)
  | steps + 1, c :: s =>
      if isPlain c then (takeBasic? steps s).map fun (cs, s) => (c :: cs, s) else none

def takeLiteral? : Scan (List Char)
  | [] => none
  | '\'' :: s => some ([], s)
  | c :: s => if isPlain c then (takeLiteral? s).map fun (cs, s) => (c :: cs, s) else none

/-- Drops blanks and line breaks. -/
def skipLayout : List Char → List Char
  | [] => []
  | '\r' :: '\n' :: s => skipLayout s
  | c :: s => if isBlank c || c = '\n' then skipLayout s else c :: s

/-- A run of quotes: one or two stand for themselves, three end the text, two more may precede
them. -/
def takeQuotes? (quote : Char) (s : List Char) : Option (List Char × List Char × Bool) :=
  let count := (s.takeWhile (· = quote)).length
  let rest := s.drop count
  if count < 3 then some (List.replicate count quote, rest, false)
  else if count < 6 then some (List.replicate (count - 3) quote, rest, true)
  else none

/-- What a backslash stands for in a text of many lines: a line break after it, with all blanks and
line breaks that follow, stands for nothing. -/
def takeLineEscape? : Scan (List Char) := fun s =>
  match skipBreak? (skipBlank s) with
  | some rest => some ([], skipLayout rest)
  | none => (takeEscape? s).map fun (c, rest) => ([c], rest)

/-- The rest of a text of many lines; `quote` tells whether it has escapes. -/
def takeLines? (quote : Char) : Nat → Scan (List Char)
  | 0, _ => none
  | _ + 1, [] => none
  | steps + 1, c :: s =>
      if c = quote then do
        let (quotes, rest, isEnd) ← takeQuotes? quote (c :: s)
        if isEnd then return (quotes, rest)
        let (cs, rest) ← takeLines? quote steps rest
        return (quotes ++ cs, rest)
      else if c = '\\' ∧ quote = '"' then do
        let (escape, rest) ← takeLineEscape? s
        let (cs, rest) ← takeLines? quote steps rest
        return (escape ++ cs, rest)
      else match skipBreak? (c :: s) with
        | some rest => (takeLines? quote steps rest).map fun (cs, rest) => ('\n' :: cs, rest)
        | none =>
            if isPlain c then (takeLines? quote steps s).map fun (cs, rest) => (c :: cs, rest)
            else none

def takeLinesFrom? (quote : Char) : Scan (List Char) := fun s =>
  takeLines? quote s.length ((skipBreak? s).getD s)

end Lines

/-- A text with its quotes. -/
def takeText? : Scan String := fun s =>
  (match s with
    | '"' :: '"' :: '"' :: s => takeLinesFrom? '"' s
    | '\'' :: '\'' :: '\'' :: s => takeLinesFrom? '\'' s
    | '"' :: s => takeBasic? s.length s
    | '\'' :: s => takeLiteral? s
    | _ => none).map fun (cs, rest) => (String.ofList cs, rest)

section Keys

def isBareKeyChar (c : Char) : Bool := c.isAlphanum || c = '-' || c = '_'

/-- One part of a key, bare or quoted on one line. -/
def takeKeyPart? : Scan String := fun s =>
  match s with
  | '"' :: s => (takeBasic? s.length s).map fun (cs, rest) => (String.ofList cs, rest)
  | '\'' :: s => (takeLiteral? s).map fun (cs, rest) => (String.ofList cs, rest)
  | s =>
      let cs := s.takeWhile isBareKeyChar
      if cs.isEmpty then none else some (String.ofList cs, s.drop cs.length)

/-- The parts of a key with points between them; blanks may surround each part. -/
def takeParts? : Nat → Scan (List String)
  | 0, _ => none
  | steps + 1, s => do
      let (part, s) ← takeKeyPart? (skipBlank s)
      match skipBlank s with
      | '.' :: s =>
          let (parts, s) ← takeParts? steps s
          return (part :: parts, s)
      | s => return ([part], s)

/-- Tables and values may be nested so many levels deep. -/
def levelLimit : Nat := 79

/-- The tables on the way to a key, and the key. -/
def takeKey? : Scan (List String × String) := fun s => do
  let (parts, s) ← takeParts? levelLimit s
  return ((parts.dropLast, parts.getLast?.getD ""), s)

end Keys

end VoiceHub.Toml
