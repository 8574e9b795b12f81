/-!
Numbers in digits.

In decimal, `digits` writes a whole number without leading zeros, `value?` reads any
run of digits, leading zeros included, and `word64?` what fits in 64 bits, with a
plus sign allowed.

A floating-point value is read from digits that are first cut to a 64-bit
significand, which is then scaled by one power of ten; so the last bit is that of one
conversion and one multiplication or division, and a value beyond the finite range
has no reading.

It is written as the shortest decimal that stands for it.  A finite value is
`m * 2 ^ q`, and the reals that round to it form an interval from halfway to the value
below to halfway to the value above, its ends included when `m` is even.  `shortest`
searches the decimal grids from coarse to fine and takes the first point in the
interval that is next to the value; of two such points the nearer, and the even one
if they are equally near.
-/

namespace VoiceHub.Hex

/-- The value of a digit in either case. -/
def digit? (c : Char) : Option Nat :=
  if c.isDigit then some (c.toNat - 48)
  else if 'a' ≤ c ∧ c ≤ 'f' then some (c.toNat - 87)
  else if 'A' ≤ c ∧ c ≤ 'F' then some (c.toNat - 55)
  else none

def isDigit (c : Char) : Bool := (digit? c).isSome

/-- The value of a run of digits; other characters count as zero. -/
def value (ds : List Char) : Nat := ds.foldl (fun v d => 16 * v + (digit? d).getD 0) 0

def lower (n : Nat) : Char := Char.ofNat (if n < 10 then 48 + n else 87 + n)

def upper (n : Nat) : Char := Char.ofNat (if n < 10 then 48 + n else 55 + n)

/-- Without leading zeros, in lower case. -/
def digits (n : Nat) : List Char :=
  if n < 16 then [lower n] else digits (n / 16) ++ [lower (n % 16)]

end VoiceHub.Hex

namespace VoiceHub.Decimal

/-! ## Whole numbers -/

def digitChar (d : Nat) : Char := Char.ofNat (48 + d)

def digits (n : Nat) : List Char :=
  if n < 10 then [digitChar n] else digits (n / 10) ++ [digitChar (n % 10)]

def ofInt : Int → List Char
  | .ofNat n => digits n
  | .negSucc n => '-' :: digits (n + 1)

def text (n : Nat) : String := String.ofList (digits n)

def intText (i : Int) : String := String.ofList (ofInt i)

/-- At least `width` digits, filled up with zeros on the left. -/
def padded (width n : Nat) : List Char :=
  List.replicate (width - (digits n).length) '0' ++ digits n

def value (ds : List Char) : Nat :=
  ds.foldl (fun v d => 10 * v + (d.toNat - 48)) 0

def value? (ds : List Char) : Option Nat :=
  if ds ≠ [] ∧ ds.all Char.isDigit then some (value ds) else none

/-- Numbers below this have 64 bits. -/
def wordLimit : Nat := 18446744073709551616

/-- An optional plus sign, then one or more digits of a number of 64 bits. -/
def word64? (cs : List Char) : Option Nat :=
  let ds := match cs with
    | '+' :: rest => rest
    | _ => cs
  (value? ds).filter (· < wordLimit)

/-! ## Floats that are read -/

/-- Takes digits as long as the number stays below 2 ^ 64; the digits left over come back. -/
def absorb (significand : Nat) : List Char → Nat × List Char
  | [] => (significand, [])
  | d :: ds =>
      let next := 10 * significand + (d.toNat - 48)
      if next < wordLimit then absorb next ds else (significand, d :: ds)

def powerOfTen (n : Nat) : Float := Float.ofScientific 1 false n

def largestPower : Nat := 308

/-- Divides by the largest power while more than that is left of the exponent. -/
def shrink (f : Float) (exponent : Nat) : Float :=
  if exponent ≤ largestPower then f / powerOfTen exponent
  else if f == 0 then f
  else shrink (f / powerOfTen largestPower) (exponent - largestPower)
termination_by exponent
decreasing_by simp only [largestPower] at *; omega

def grow? (f : Float) (exponent : Nat) : Option Float :=
  if exponent ≤ largestPower then
    let scaled := f * powerOfTen exponent
    if scaled.isInf then none else some scaled
  else if f == 0 then some f
  else none

/-- The value of `significand * 10 ^ exponent`, if it is finite. -/
def scaled? (significand : Nat) : Int → Option Float
  | .ofNat n => grow? significand.toUInt64.toFloat n
  | .negSucc n => some (shrink significand.toUInt64.toFloat (n + 1))

/-! ## Floats that are written -/

/-- The magnitude of a finite value, `m * 2 ^ q`. -/
structure Binary where
  m : Nat
  q : Int
  /-- The gap to the value below is half of the gap to the value above. -/
  narrow : Bool
  deriving DecidableEq, Repr

/-- The sign bit is left out; the bits are those of a finite value. -/
def Binary.ofBits (bits : UInt64) : Binary :=
  let exponent := ((bits >>> 52) &&& 0x7FF).toNat
  let fraction := (bits &&& 0xFFFFFFFFFFFFF).toNat
  if exponent = 0 then ⟨fraction, -1074, false⟩
  else ⟨0x10000000000000 + fraction, (exponent : Int) - 1075, fraction = 0 ∧ 1 < exponent⟩

/-- The number `digits * 10 ^ exponent`. -/
structure Scientific where
  digits : Nat
  exponent : Int
  deriving DecidableEq, Repr

namespace Scientific

/-- The order of the number and `n * 2 ^ j`. -/
def compareBinary (d : Scientific) (n : Nat) (j : Int) : Ordering :=
  compare (d.digits * Nat.pow 10 d.exponent.toNat * Nat.pow 2 (-j).toNat)
    (n * Nat.pow 2 j.toNat * Nat.pow 10 (-d.exponent).toNat)

end Scientific

namespace Binary

/-- The decimal is one of the reals that round to the value. -/
def covers (b : Binary) (d : Scientific) : Bool :=
  let below := if b.narrow then 4 * b.m - 1 else 4 * b.m - 2
  let above := 4 * b.m + 2
  let closed := b.m % 2 = 0
  let low := d.compareBinary below (b.q - 2)
  let high := d.compareBinary above (b.q - 2)
  (low = .gt || (closed && low = .eq)) && (high = .lt || (closed && high = .eq))

/-- The point just below or at the value on the grid of `10 ^ exponent`. -/
def floorOn (b : Binary) (exponent : Int) : Nat :=
  (b.m * Nat.pow 2 b.q.toNat * Nat.pow 10 (-exponent).toNat) /
    (Nat.pow 10 exponent.toNat * Nat.pow 2 (-b.q).toNat)

def pointOn (b : Binary) (exponent : Int) : Option Scientific :=
  let n := b.floorOn exponent
  let lower : Scientific := ⟨n, exponent⟩
  let upper : Scientific := ⟨n + 1, exponent⟩
  match b.covers lower, b.covers upper with
  | true, true =>
      match Scientific.compareBinary ⟨2 * n + 1, exponent⟩ (2 * b.m) b.q with
      | .gt => some lower
      | .lt => some upper
      | .eq => some (if n % 2 = 0 then lower else upper)
  | true, false => some lower
  | false, true => some upper
  | false, false => none

/-- The value in full, on the finest grid it needs. -/
def exact (b : Binary) : Scientific :=
  if 0 ≤ b.q then ⟨b.m * Nat.pow 2 b.q.toNat, 0⟩ else ⟨b.m * Nat.pow 5 (-b.q).toNat, b.q⟩

/-- Grids from `10 ^ 309`, above every finite value, down to the one of the least values. -/
def shortest (b : Binary) : Scientific :=
  ((List.range 634).findSome? fun i : Nat => b.pointOn (309 - (i : Int))).getD b.exact

end Binary

end VoiceHub.Decimal
