import VoiceHub.Numeral

/-!
Tables of characters, kept as text.

A row begins with a code point in hexadecimal.  A count after `+` makes it a row
for as many characters one after the other, after `*` for every second one; their
values ascend with them.  After `~` the characters have one value in common.  The
value follows an equals sign, code points with dots between; after a comma comes
that of the next character.
-/

namespace VoiceHub.Text

structure Row where
  first : Nat
  count : Nat := 1
  /-- How far the characters are apart, and how far their values are. -/
  stride : Nat := 1
  advance : Nat := 0
  value : List Nat := []
  deriving DecidableEq, Repr

namespace Row

def value? (row : Row) (n : Nat) : Option (List Nat) :=
  let place := (n - row.first) / row.stride
  if row.first ≤ n ∧ place < row.count ∧ row.first + place * row.stride = n then
    some (row.value.map (· + place * row.advance))
  else none

def parseValue (s : List Char) : List Nat := if s.isEmpty then [] else (s.splitOn '.').map Hex.value

/-- One row, or a row for each of the values between commas. -/
def parse (s : List Char) : List Row :=
  let ds := s.takeWhile Hex.isDigit
  let s := s.drop ds.length
  let row : Row := { first := Hex.value ds }
  let count := Hex.value ((s.drop 1).takeWhile Hex.isDigit)
  let row : Row := match s.head? with
    | some '+' => { row with count, advance := 1 }
    | some '*' => { row with count, stride := 2, advance := 2 }
    | some '~' => { row with count }
    | _ => row
  match s.dropWhile (· ≠ '=') with
  | [] => [row]
  | _ :: s => (s.splitOn ',').zipIdx.map fun (value, place) =>
      { row with first := row.first + place, value := parseValue value }

end Row

abbrev Table := List Row

namespace Table

/-- The rows with blanks or line breaks between them. -/
def parse (text : String) : Table :=
  let words := (text.toList.map fun c => if c = '\n' then ' ' else c).splitOn ' '
  (words.filter (· ≠ [])).flatMap Row.parse

def find? (t : Table) (c : Char) : Option (List Nat) := t.findSome? fun row => row.value? c.toNat

def contains (t : Table) (c : Char) : Bool := (t.find? c).isSome

end Table

end VoiceHub.Text
