import VoiceHub.Numeral

/-!
Values of the JSON data format.

Whole numbers keep their exact value; all other numbers are floats.  An object
is the list of its entries in order of writing.

The compact text has nothing between the tokens.  A text escapes quotes, backslashes
and control characters; a float has the fewest digits that identify it, laid out with
a decimal point from 0.00001 up to 10 ^ 16 and with an exponent elsewhere.
-/

namespace VoiceHub

inductive Json where
  | null
  | bool (value : Bool)
  | int (value : Int)
  | float (value : Float)
  | text (value : String)
  | array (items : List Json)
  | object (entries : List (String × Json))

namespace Json

def nat (n : Nat) : Json := .int n

def texts (values : List String) : Json := .array (values.map .text)

end Json

end VoiceHub

namespace VoiceHub.Json

/-- The letter that stands for a control character after a backslash. -/
def escapeLetter? (c : Char) : Option Char :=
  if c = '\x08' then some 'b'
  else if c = '\x0c' then some 'f'
  else if c = '\n' then some 'n'
  else if c = '\r' then some 'r'
  else if c = '\t' then some 't'
  else none

def escapeChar (c : Char) : List Char :=
  if c = '"' ∨ c = '\\' then ['\\', c]
  else match escapeLetter? c with
    | some letter => ['\\', letter]
    | none =>
        if c.toNat < 0x20 then
          ['\\', 'u', '0', '0', Hex.lower (c.toNat / 16), Hex.lower (c.toNat % 16)]
        else [c]

def writeText (s : String) : List Char :=
  '"' :: s.toList.flatMap escapeChar ++ ['"']

/-- Digits with the decimal point after the first `point` of them. -/
def positional (ds : List Char) (point : Int) : List Char :=
  if point ≤ 0 then '0' :: '.' :: List.replicate (-point).toNat '0' ++ ds
  else
    let whole := ds.take point.toNat
    let zeros := List.replicate (point.toNat - ds.length) '0'
    let fraction := ds.drop point.toNat
    whole ++ zeros ++ '.' :: (if fraction.isEmpty then ['0'] else fraction)

def withExponent (ds : List Char) (exponent : Int) : List Char :=
  let fraction := ds.drop 1
  let sign := if exponent < 0 then '-' else '+'
  ds.take 1 ++ (if fraction.isEmpty then [] else '.' :: fraction) ++
    'e' :: sign :: Decimal.digits exponent.natAbs

def writeScientific (d : Decimal.Scientific) : List Char :=
  let ds := Decimal.digits d.digits
  let point := ds.length + d.exponent
  if -5 < point ∧ point ≤ 16 then positional ds point else withExponent ds (point - 1)

/-- A value that is not finite is no number and is written as null. -/
def writeFloat (f : Float) : List Char :=
  if f.isNaN || f.isInf then ['n', 'u', 'l', 'l']
  else
    let magnitude := Decimal.Binary.ofBits f.toBits
    let sign := if f.toBits >>> 63 = 1 then ['-'] else []
    sign ++ (if magnitude.m = 0 then ['0', '.', '0'] else writeScientific magnitude.shortest)

mutual

def write : Json → List Char
  | .null => ['n', 'u', 'l', 'l']
  | .bool true => ['t', 'r', 'u', 'e']
  | .bool false => ['f', 'a', 'l', 's', 'e']
  | .int value => Decimal.ofInt value
  | .float value => writeFloat value
  | .text value => writeText value
  | .array items => '[' :: writeItems items ++ [']']
  | .object entries => '\x7b' :: writeEntries entries ++ ['\x7d']

def writeItems : List Json → List Char
  | [] => []
  | [item] => write item
  | item :: rest => write item ++ ',' :: writeItems rest

def writeEntries : List (String × Json) → List Char
  | [] => []
  | [(key, value)] => writeText key ++ ':' :: write value
  | (key, value) :: rest => writeText key ++ ':' :: write value ++ ',' :: writeEntries rest

end

def compact (v : Json) : String := String.ofList v.write

end VoiceHub.Json
