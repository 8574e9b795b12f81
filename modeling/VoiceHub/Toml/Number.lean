import VoiceHub.Numeral
import VoiceHub.Text.Scan

/-!
Numbers of TOML.

Single underscores may stand between digits.  Whole numbers have 64 bits with
sign and, in decimal, no leading zeros; a float has a fraction or an exponent and
is no positive number beyond the finite range.
-/

namespace VoiceHub.Toml

section Digits

/-- Digits after the first one, each with at most one underscore before it. -/
def takeMoreDigits (isDigit : Char → Bool) : List Char → List Char × List Char
  | '_' :: c :: s =>
      if isDigit c then
        let (ds, rest) := takeMoreDigits isDigit s
        (c :: ds, rest)
      else ([], '_' :: c :: s)
  | c :: s =>
      if isDigit c then
        let (ds, rest) := takeMoreDigits isDigit s
        (c :: ds, rest)
      else ([], c :: s)
  | [] => ([], [])

/-- One or more digits. -/
def takeDigits1? (isDigit : Char → Bool) : Scan (List Char)
  | [] => none
  | c :: s =>
      if isDigit c then
        let (ds, rest) := takeMoreDigits isDigit s
        some (c :: ds, rest)
      else none

end Digits

section Whole

def takeSign : List Char → Bool × List Char
  | '+' :: s => (false, s)
  | '-' :: s => (true, s)
  | s => (false, s)

/-- The sign and the digits of a decimal number without leading zeros. -/
def takeSigned? : Scan (Bool × List Char) := fun s =>
  let (isNegative, s) := takeSign s
  match s with
  | '0' :: s => some ((isNegative, ['0']), s)
  | s => (takeDigits1? Char.isDigit s).map fun (ds, rest) => ((isNegative, ds), rest)

def signed (isNegative : Bool) (n : Nat) : Int := if isNegative then -n else n

/-- The number has 64 bits with its sign. -/
def isWord (i : Int) : Bool := -9223372036854775808 ≤ i && i < 9223372036854775808

def takeRadix? (radix : Nat) (isDigit : Char → Bool) : Scan Int := fun s => do
  let (ds, rest) ← takeDigits1? isDigit s
  let i : Int := ds.foldl (fun v d => radix * v + (Hex.digit? d).getD 0) 0
  if isWord i then return (i, rest) else none

def isOctalDigit (c : Char) : Bool := '0' ≤ c && c ≤ '7'

def isBinaryDigit (c : Char) : Bool := c = '0' || c = '1'

def takeInteger? : Scan Int
  | '0' :: 'x' :: s => takeRadix? 16 Hex.isDigit s
  | '0' :: 'o' :: s => takeRadix? 8 isOctalDigit s
  | '0' :: 'b' :: s => takeRadix? 2 isBinaryDigit s
  | s => do
      let ((isNegative, ds), rest) ← takeSigned? s
      let i := signed isNegative (Decimal.value ds)
      if isWord i then return (i, rest) else none

end Whole

section Floats

/-- From here on a number rounds to infinity. -/
def infiniteFrom : Nat := Nat.pow 2 1024 - Nat.pow 2 970

/-- Whether `n * 10 ^ exponent` rounds to infinity. -/
def isInfinite (n : Nat) (exponent : Int) : Bool :=
  match exponent with
  | .ofNat e => n ≠ 0 && (310 ≤ e || infiniteFrom ≤ n * Nat.pow 10 e)
  | .negSucc e => e < (Decimal.digits n).length && infiniteFrom * Nat.pow 10 (e + 1) ≤ n

/-- The digits after a point. -/
def takeFractionDigits? : Scan (List Char)
  | '.' :: s => takeDigits1? Char.isDigit s
  | _ => none

def takeExponent? : Scan Int
  | c :: s =>
      if c = 'e' ∨ c = 'E' then do
        let (isNegative, s) := takeSign s
        let (ds, rest) ← takeDigits1? Char.isDigit s
        return (signed isNegative (Decimal.value ds), rest)
      else none
  | [] => none

/-- A fraction, an exponent, or both. -/
def takeFloatTail? : Scan (List Char × Int) := fun s =>
  match takeFractionDigits? s with
  | none => (takeExponent? s).map fun (exponent, rest) => (([], exponent), rest)
  | some (fraction, s) =>
      match takeExponent? s with
      | none => some ((fraction, 0), s)
      | some (exponent, rest) => some ((fraction, exponent), rest)

def takeNamedFloat? : Scan Unit := fun s =>
  let s := (takeSign s).2
  ((skipWord? ['i', 'n', 'f'] s).or (skipWord? ['n', 'a', 'n'] s)).map fun rest => ((), rest)

def takeDecimalFloat? : Scan Unit := fun s => do
  let ((isNegative, whole), s) ← takeSigned? s
  let ((fraction, exponent), rest) ← takeFloatTail? s
  let n := Decimal.value (whole ++ fraction)
  if !isNegative && isInfinite n (exponent - fraction.length) then none else return ((), rest)

/-- A float; its value is not kept. -/
def takeFloat? : Scan Unit := .firstOf [takeNamedFloat?, takeDecimalFloat?]

end Floats

end VoiceHub.Toml
