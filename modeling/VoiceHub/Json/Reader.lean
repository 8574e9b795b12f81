import VoiceHub.Numeral
import VoiceHub.Dict
import VoiceHub.Json

/-!
Reading JSON text against an expected shape.

A `Scan` takes one thing off the front of a text.  The first fault in reading
order decides: the text is malformed, it is well formed so far and of the wrong
shape, or it ends too early.  `record` reads a record from an object, or from an
array of its fields in order; keys that are no field are skipped, and what is
skipped only has to be well formed.  What is kept may be nested 127 levels deep.
-/

namespace VoiceHub.Json

inductive ReadError where
  | malformed
  | mismatch
  | ended
  deriving DecidableEq, Repr

abbrev Scan (α : Type) := List Char → Except ReadError (α × List Char)

/-- How much a reader may do: levels still to be opened, and steps of one loop. -/
structure Budget where
  levels : Nat
  steps : Nat

abbrev Reader (α : Type) := Budget → Scan α

def levelLimit : Nat := 127

/-- No character takes more than two steps, one for a value and one for what follows it. -/
def stepLimit (s : List Char) : Nat := 2 * s.length + 2

def isBlank (c : Char) : Bool := c = ' ' || c = '\n' || c = '\t' || c = '\r'

def skipBlank (s : List Char) : List Char := s.dropWhile isBlank

/-- The fault of a text that stops here or goes on with the wrong character. -/
def unexpected (s : List Char) : ReadError := if s.isEmpty then .ended else .malformed

/-- The rest of a word that has to be there letter by letter. -/
def word (letters : List Char) (s : List Char) : Except ReadError (List Char) :=
  match letters, s with
  | [], s => .ok s
  | _ :: _, [] => .error .ended
  | letter :: letters, c :: s => if c = letter then word letters s else .error .malformed

section Texts

def hexUnit? (a b c d : Char) : Option Nat := do
  return (((← Hex.digit? a) * 16 + (← Hex.digit? b)) * 16 + (← Hex.digit? c)) * 16 +
    (← Hex.digit? d)

/-- Four bytes that are no hexadecimal unit are malformed; fewer are an early end. -/
def unitFault (s : List Char) : ReadError :=
  if 4 ≤ (String.ofList (s.take 4)).utf8ByteSize then .malformed else .ended

def takeUnit : Scan Nat
  | a :: b :: c :: d :: s =>
      match hexUnit? a b c d with
      | some n => .ok (n, s)
      | none => .error (unitFault (a :: b :: c :: d :: s))
  | s => .error (unitFault s)

def escaped? (letter : Char) : Option Char :=
  match letter with
  | '"' => some '"'
  | '\\' => some '\\'
  | '/' => some '/'
  | 'b' => some '\x08'
  | 'f' => some '\x0c'
  | 'n' => some '\n'
  | 'r' => some '\r'
  | 't' => some '\t'
  | _ => none

def isHighUnit (n : Nat) : Bool := 0xD800 ≤ n && n < 0xDC00

def isLowUnit (n : Nat) : Bool := 0xDC00 ≤ n && n < 0xE000

def joinUnits (high low : Nat) : Char :=
  Char.ofNat (0x10000 + (high - 0xD800) * 0x400 + (low - 0xDC00))

/-- The second half of a character beyond the first 2 ^ 16, after its first half. -/
def takeLowUnit (high : Nat) : Scan Char
  | [] => .error .ended
  | '\\' :: [] => .error .ended
  | '\\' :: 'u' :: s => do
      let (low, s) ← takeUnit s
      if isLowUnit low then .ok (joinUnits high low, s) else .error .malformed
  | _ => .error .malformed

/-- What stands after a backslash. -/
def takeEscape : Scan Char
  | [] => .error .ended
  | 'u' :: s => do
      let (unit, s) ← takeUnit s
      if isLowUnit unit then .error .malformed
      else if isHighUnit unit then takeLowUnit unit s
      else .ok (Char.ofNat unit, s)
  | letter :: s =>
      match escaped? letter with
      | some c => .ok (c, s)
      | none => .error .malformed

/-- The characters of a text after its opening quote, and what follows its closing one. -/
def takeText : Nat → Scan (List Char)
  | 0, _ => .error .ended
  | _ + 1, [] => .error .ended
  | _ + 1, '"' :: s => .ok ([], s)
  | steps + 1, '\\' :: s => do
      let (c, s) ← takeEscape s
      let (cs, s) ← takeText steps s
      .ok (c :: cs, s)
  | steps + 1, c :: s =>
      if c.toNat < 0x20 then .error .malformed
      else do
        let (cs, s) ← takeText steps s
        .ok (c :: cs, s)

def skipEscape (s : List Char) : Except ReadError (List Char) :=
  match s with
  | [] => .error .ended
  | 'u' :: s => (takeUnit s).map Prod.snd
  | letter :: s => if (escaped? letter).isSome then .ok s else .error .malformed

/-- As `takeText`, for a text whose halves of characters need no partner. -/
def skipText : Nat → List Char → Except ReadError (List Char)
  | 0, _ => .error .ended
  | _ + 1, [] => .error .ended
  | _ + 1, '"' :: s => .ok s
  | steps + 1, '\\' :: s => do skipText steps (← skipEscape s)
  | steps + 1, c :: s => if c.toNat < 0x20 then .error .malformed else skipText steps s

end Texts

section Numbers

/-- A number as it is spelled. -/
structure Numeral where
  negative : Bool
  whole : List Char
  fraction : List Char
  /-- The exponent, if one is written. -/
  exponent : Option Int
  deriving DecidableEq, Repr

/-- One or more digits; `atEnd` is the fault of a text that stops before the first. -/
def takeDigits (atEnd : ReadError) : Scan (List Char)
  | [] => .error atEnd
  | c :: s =>
      if c.isDigit then .ok (c :: s.takeWhile Char.isDigit, s.dropWhile Char.isDigit)
      else .error .malformed

/-- A zero stands alone before the point. -/
def takeWhole (atEnd : ReadError) : Scan (List Char)
  | '0' :: s => if (s.head?.map Char.isDigit).getD false then .error .malformed else .ok (['0'], s)
  | s => takeDigits atEnd s

def takeFraction (atEnd : ReadError) : Scan (List Char)
  | '.' :: s => takeDigits atEnd s
  | s => .ok ([], s)

def takeExponent (atEnd : ReadError) : Scan (Option Int)
  | 'e' :: s | 'E' :: s => do
      let (negative, s) := match s with
        | '-' :: s => (true, s)
        | '+' :: s => (false, s)
        | _ => (false, s)
      let (ds, s) ← takeDigits atEnd s
      let n : Int := Decimal.value ds
      .ok (some (if negative then -n else n), s)
  | s => .ok (none, s)

def takeNumeral (atEnd : ReadError) (s : List Char) : Except ReadError (Numeral × List Char) := do
  let (negative, s) := match s with
    | '-' :: s => (true, s)
    | _ => (false, s)
  let (whole, s) ← takeWhole atEnd s
  let (fraction, s) ← takeFraction atEnd s
  let (exponent, s) ← takeExponent atEnd s
  .ok ({ negative, whole, fraction, exponent }, s)

def startsNumber (c : Char) : Bool := c = '-' || c.isDigit

namespace Numeral

def float? (n : Numeral) : Option Float :=
  let (head, dropped) := Decimal.absorb 0 n.whole
  let (significand, ignored) := Decimal.absorb head n.fraction
  let shift : Int := dropped.length - (n.fraction.length - ignored.length : Nat)
  let magnitude := Decimal.scaled? significand (shift + n.exponent.getD 0)
  if n.negative then magnitude.map (-·) else magnitude

def isWhole (n : Numeral) : Bool := n.fraction.isEmpty && n.exponent.isNone

/-- Whole numbers of 64 bits, signed or unsigned, are exact; negative zero is a float. -/
def value? (n : Numeral) : Option Json :=
  let magnitude := Decimal.value n.whole
  if n.isWhole ∧ n.negative = false ∧ magnitude < Decimal.wordLimit then some (.int magnitude)
  else if n.isWhole ∧ n.negative ∧ 0 < magnitude ∧ 2 * magnitude ≤ Decimal.wordLimit then
    some (.int (-(magnitude : Int)))
  else n.float?.map .float

end Numeral

def takeNumber (s : List Char) : Except ReadError (Json × List Char) := do
  let (n, s) ← takeNumeral .ended s
  match n.value? with
  | some v => .ok (v, s)
  | none => .error .malformed

end Numbers

section Lists

/-- Before an item: `none` at the closing bracket. -/
def nextItem (first : Bool) (s : List Char) : Except ReadError (Option (List Char)) :=
  match first, skipBlank s with
  | _, ']' :: _ => .ok none
  | _, [] => .error .ended
  | true, s => .ok (some s)
  | false, ',' :: s =>
      match skipBlank s with
      | [] => .error .ended
      | ']' :: _ => .error .malformed
      | s => .ok (some s)
  | false, _ => .error .malformed

/-- The closing bracket of an array of which nothing more is expected. -/
def closeArray (s : List Char) : Except ReadError (List Char) :=
  match skipBlank s with
  | ']' :: s => .ok s
  | s => .error (unexpected s)

def takeKey (steps : Nat) : Scan (List Char) := fun s =>
  match skipBlank s with
  | '"' :: s => takeText steps s
  | s => .error (unexpected s)

/-- Before an entry: its key, or `none` after the closing brace. -/
def nextKey (steps : Nat) (first : Bool) : Scan (Option (List Char)) := fun s =>
  match first, skipBlank s with
  | _, '\x7d' :: s => .ok (none, s)
  | true, s => do
      let (key, s) ← takeKey steps s
      .ok (some key, s)
  | false, ',' :: s => do
      let (key, s) ← takeKey steps s
      .ok (some key, s)
  | false, s => .error (unexpected s)

def takeColon (s : List Char) : Except ReadError (List Char) :=
  match skipBlank s with
  | ':' :: s => .ok s
  | s => .error (unexpected s)

/-- The items of an array after its opening bracket. -/
def takeItems {α : Type} (item : Scan α) : Nat → Bool → Scan (List α)
  | 0, _, _ => .error .ended
  | steps + 1, first, s => do
      match ← nextItem first s with
      | none => .ok ([], ← closeArray s)
      | some s =>
          let (v, s) ← item s
          let (vs, s) ← takeItems item steps false s
          .ok (v :: vs, s)

/-- The entries of an object after its opening brace. -/
def takeEntries {α : Type} (steps : Nat) (value : Scan α) : Nat → Bool → Scan (List (String × α))
  | 0, _, _ => .error .ended
  | left + 1, first, s => do
      match ← nextKey steps first s with
      | (none, s) => .ok ([], s)
      | (some key, s) =>
          let s ← takeColon s
          let (v, s) ← value s
          let (vs, s) ← takeEntries steps value left false s
          .ok ((String.ofList key, v) :: vs, s)

end Lists

section Values

/-- Any value that is kept; an object has its keys in order, each with its last value. -/
def takeValue : Nat → Nat → Scan Json
  | levels, steps, s =>
      match skipBlank s with
      | [] => .error .ended
      | 'n' :: s => (word ['u', 'l', 'l'] s).map (Json.null, ·)
      | 't' :: s => (word ['r', 'u', 'e'] s).map (Json.bool true, ·)
      | 'f' :: s => (word ['a', 'l', 's', 'e'] s).map (Json.bool false, ·)
      | '"' :: s => do
          let (cs, s) ← takeText steps s
          .ok (.text (String.ofList cs), s)
      | '[' :: s =>
          match levels with
          | 0 => .error .malformed
          | levels + 1 => do
              let (items, s) ← takeItems (takeValue levels steps) steps true s
              .ok (.array items, s)
      | '\x7b' :: s =>
          match levels with
          | 0 => .error .malformed
          | levels + 1 => do
              let (entries, s) ← takeEntries steps (takeValue levels steps) steps true s
              .ok (.object (Dict.ofList entries).sortedEntries, s)
      | c :: s => if startsNumber c then takeNumber (c :: s) else .error .malformed

mutual

/-- Passes over any value, however deep it is. -/
def skipValue : Nat → List Char → Except ReadError (List Char)
  | 0, _ => .error .ended
  | steps + 1, s =>
      match skipBlank s with
      | [] => .error .ended
      | 'n' :: s => word ['u', 'l', 'l'] s
      | 't' :: s => word ['r', 'u', 'e'] s
      | 'f' :: s => word ['a', 'l', 's', 'e'] s
      | '"' :: s => skipText steps s
      | '[' :: s => skipItems steps true s
      | '\x7b' :: s => skipEntries steps true s
      | c :: s =>
          if startsNumber c then (takeNumeral .malformed (c :: s)).map Prod.snd
          else .error .malformed

def skipItems : Nat → Bool → List Char → Except ReadError (List Char)
  | 0, _, _ => .error .ended
  | steps + 1, first, s => do
      match ← nextItem first s with
      | none => closeArray s
      | some s => skipItems steps false (← skipValue steps s)

def skipEntries : Nat → Bool → List Char → Except ReadError (List Char)
  | 0, _, _ => .error .ended
  | steps + 1, first, s =>
      match first, skipBlank s with
      | _, '\x7d' :: s => .ok s
      | true, '"' :: s => do
          skipEntries steps false (← skipValue steps (← takeColon (← skipText steps s)))
      | true, s => .error (unexpected s)
      | false, ',' :: s =>
          match skipBlank s with
          | '"' :: s => do
              skipEntries steps false (← skipValue steps (← takeColon (← skipText steps s)))
          | s => .error (unexpected s)
      | false, s => .error (unexpected s)

end

/--
The fault of a value of the wrong shape.  A scalar is read to its end first; an
array or object is refused at its opening.
-/
def refuse (steps : Nat) (s : List Char) : ReadError :=
  let afterScalar {α : Type} (r : Except ReadError α) : ReadError :=
    match r with
    | .ok _ => .mismatch
    | .error e => e
  match skipBlank s with
  | [] => .ended
  | '[' :: _ | '\x7b' :: _ => .mismatch
  | 'n' :: s => afterScalar (word ['u', 'l', 'l'] s)
  | 't' :: s => afterScalar (word ['r', 'u', 'e'] s)
  | 'f' :: s => afterScalar (word ['a', 'l', 's', 'e'] s)
  | '"' :: s => afterScalar (takeText steps s)
  | c :: s => if startsNumber c then afterScalar (takeNumber (c :: s)) else .malformed

end Values

namespace Shape

def value : Reader Json := fun b => takeValue b.levels b.steps

def text : Reader String := fun b s =>
  match skipBlank s with
  | '"' :: s => do
      let (cs, s) ← takeText b.steps s
      .ok (String.ofList cs, s)
  | s => .error (refuse b.steps s)

def optionalText : Reader (Option String) := fun b s =>
  match skipBlank s with
  | 'n' :: s => (word ['u', 'l', 'l'] s).map (none, ·)
  | s => do
      let (t, s) ← text b s
      .ok (some t, s)

def number : Reader Float := fun b s =>
  match skipBlank s with
  | c :: s =>
      if startsNumber c then do
        match ← takeNumber (c :: s) with
        | (.int n, s) => .ok (Float.ofInt n, s)
        | (.float f, s) => .ok (f, s)
        | _ => .error .mismatch
      else .error (refuse b.steps (c :: s))
  | [] => .error .ended

/-- An object with values of one shape, as entries in order of writing. -/
def entries {α : Type} (item : Reader α) : Reader (List (String × α)) := fun b s =>
  match b.levels, skipBlank s with
  | 0, '\x7b' :: _ => .error .malformed
  | levels + 1, '\x7b' :: s => takeEntries b.steps (item { b with levels }) b.steps true s
  | _, s => .error (refuse b.steps s)

/-- A field of a record with fields so far in `σ`; reading it gives the change to make. -/
structure Field (σ : Type) where
  key : String
  isRequired : Bool
  change : Reader (σ → σ)

def Field.of {σ α : Type} (key : String) ( isRequired : Bool) (item : Reader α)
    (set : α → σ → σ) : Field σ :=
  { key, isRequired, change := fun b s => (item b s).map fun (v, s) => (set v, s) }

/-- The fields of a record that is an array; fields may be missing at its end. -/
def takeFieldItems {σ : Type} (b : Budget) : List (Field σ) → Bool → σ → Scan σ
  | [], _, record, s => (closeArray s).map (record, ·)
  | field :: fields, first, record, s => do
      match ← nextItem first s with
      | none =>
          if (field :: fields).any Field.isRequired then .error .mismatch
          else .ok (record, ← closeArray s)
      | some s =>
          let (change, s) ← field.change b s
          takeFieldItems b fields false (change record) s

/-- The fields of a record that is an object; a field that comes again is of the wrong shape. -/
def takeFieldEntries {σ : Type} (b : Budget) (fields : List (Field σ)) :
    Nat → Bool → List String → σ → Scan σ
  | 0, _, _, _, _ => .error .ended
  | steps + 1, first, seen, record, s => do
      match ← nextKey b.steps first s with
      | (none, s) =>
          if fields.any fun f => f.isRequired && !seen.contains f.key then .error .mismatch
          else .ok (record, s)
      | (some key, s) =>
          match fields.find? (·.key = String.ofList key) with
          | none =>
              let s ← takeColon s
              takeFieldEntries b fields steps false seen record (← skipValue b.steps s)
          | some field =>
              if seen.contains field.key then .error .mismatch
              else
                let s ← takeColon s
                let (change, s) ← field.change b s
                takeFieldEntries b fields steps false (field.key :: seen) (change record) s

def record {σ : Type} (fields : List (Field σ)) (blank : σ) : Reader σ := fun b s =>
  match b.levels, skipBlank s with
  | 0, '[' :: _ | 0, '\x7b' :: _ => .error .malformed
  | levels + 1, '[' :: s => takeFieldItems { b with levels } fields true blank s
  | levels + 1, '\x7b' :: s =>
      takeFieldEntries { b with levels } fields b.steps true [] blank s
  | _, s => .error (refuse b.steps s)

end Shape

/-- Reads a whole text. -/
def read {α : Type} (reader : Reader α) (s : String) : Except ReadError α := do
  let cs := s.toList
  let (v, rest) ← reader ⟨levelLimit, stepLimit cs⟩ cs
  if (skipBlank rest).isEmpty then .ok v else .error .malformed

end VoiceHub.Json
