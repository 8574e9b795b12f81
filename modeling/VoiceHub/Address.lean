import VoiceHub.Numeral
import VoiceHub.Text.Scan

/-!
Addresses to listen at, a host in numbers and a port.

Four octets are written in decimal without leading zeros.  Eight groups of
sixteen bits are written in hexadecimal between brackets, with `::` for the first
of the longest runs of two or more zero groups; the last two groups may be read
as four octets, and a host that stands for four octets is written with them.
-/

namespace VoiceHub

structure Octets where
  first : UInt8
  second : UInt8
  third : UInt8
  fourth : UInt8
  deriving DecidableEq, Repr

abbrev Groups := Vector UInt16 8

inductive Host where
  | octets (octets : Octets)
  | groups (groups : Groups) (scope : UInt32)
  deriving DecidableEq

structure Address where
  host : Host
  port : UInt16
  deriving DecidableEq

namespace Octets

/-- One to three digits of a number below 256, without a leading zero. -/
def takeOctet? : Scan UInt8 := fun s =>
  let ds := s.takeWhile Char.isDigit
  let hasLeadingZero := ds.head? = some '0' ∧ ds.length ≠ 1
  if ds = [] ∨ hasLeadingZero ∨ 3 < ds.length ∨ 255 < Decimal.value ds then none
  else some ((Decimal.value ds).toUInt8, s.drop ds.length)

def take? : Scan Octets := fun s => do
  let (first, s) ← takeOctet? s
  let (second, s) ← takeOctet? (← skip? '.' s)
  let (third, s) ← takeOctet? (← skip? '.' s)
  let (fourth, s) ← takeOctet? (← skip? '.' s)
  return (⟨first, second, third, fourth⟩, s)

def chars (o : Octets) : List Char :=
  List.intercalate ['.']
    ([o.first, o.second, o.third, o.fourth].map fun n => Decimal.digits n.toNat)

/-- The octets as two groups. -/
def pair (o : Octets) : List UInt16 :=
  [o.first.toUInt16 * 256 + o.second.toUInt16, o.third.toUInt16 * 256 + o.fourth.toUInt16]

def ofPair (high low : UInt16) : Octets :=
  ⟨(high / 256).toUInt8, high.toUInt8, (low / 256).toUInt8, low.toUInt8⟩

end Octets

namespace Groups

section Reading

/-- One to four hexadecimal digits. -/
def takeGroup? : Scan UInt16 := fun s =>
  let ds := s.takeWhile Hex.isDigit
  if ds = [] ∨ 4 < ds.length then none else some ((Hex.value ds).toUInt16, s.drop ds.length)

/-- The groups that stand between colons; `endsInOctets` if the last two were octets. -/
structure Run where
  groups : List UInt16
  endsInOctets : Bool
  rest : List Char

/-- Takes at most so many groups. -/
def takeRun (isFirst : Bool) : Nat → List Char → Run
  | 0, s => ⟨[], false, s⟩
  | left + 1, s =>
      match if isFirst then some s else skip? ':' s with
      | none => ⟨[], false, s⟩
      | some t =>
          match if left = 0 then none else Octets.take? t with
          | some (octets, rest) => ⟨octets.pair, true, rest⟩
          | none =>
              match takeGroup? t with
              | none => ⟨[], false, s⟩
              | some (group, rest) =>
                  let run := takeRun false left rest
                  { run with groups := group :: run.groups }

def ofList? (groups : List UInt16) : Option Groups :=
  if h : groups.length = 8 then some ⟨groups.toArray, by simp [h]⟩ else none

/-- Eight groups, or fewer around a `::` that stands for one or more zeros. -/
def take? : Scan Groups := fun s => do
  let head := takeRun true 8 s
  if head.groups.length = 8 then return (← ofList? head.groups, head.rest)
  if head.endsInOctets then none
  let s ← skip? ':' (← skip? ':' head.rest)
  let tail := takeRun true (7 - head.groups.length) s
  let zeros := List.replicate (8 - head.groups.length - tail.groups.length) 0
  return (← ofList? (head.groups ++ zeros ++ tail.groups), tail.rest)

end Reading

section Writing

def leadingZeros (groups : List UInt16) : Nat := (groups.takeWhile (· = 0)).length

/-- Place and length of the longest run of zeros, the first one of equals. -/
def longestZeros : Nat → List UInt16 → Nat × Nat
  | place, [] => (place, 0)
  | place, group :: rest =>
      let here := leadingZeros (group :: rest)
      let later := longestZeros (place + 1) rest
      if later.2 ≤ here then (place, here) else later

def colonChars (groups : List UInt16) : List Char :=
  List.intercalate [':'] (groups.map fun group => Hex.digits group.toNat)

/-- The octets that a host of the mapped range stands for. -/
def octets? (groups : List UInt16) : Option Octets :=
  match groups with
  | [0, 0, 0, 0, 0, 0xFFFF, high, low] => some (.ofPair high low)
  | _ => none

/-- All groups in hexadecimal. -/
def hexChars (g : Groups) : List Char :=
  let groups := g.toList
  let (place, length) := longestZeros 0 groups
  if length < 2 then colonChars groups
  else colonChars (groups.take place) ++ [':', ':'] ++ colonChars (groups.drop (place + length))

def chars (g : Groups) : List Char :=
  match octets? g.toList with
  | some octets => "::ffff:".toList ++ octets.chars
  | none => g.hexChars

end Writing

end Groups

/-- Whether every machine has the host: one of its own, or the one that stands for all of them. -/
def Host.isLocal : Host → Bool
  | .octets o => o.first = 127 || o = ⟨0, 0, 0, 0⟩
  | .groups g _ => g.toList.dropLast.all (· = 0) && g.back ≤ 1

namespace Address

/-- Decimal digits of a number below the bound, leading zeros allowed. -/
def takeNumber? (bound : Nat) : Scan Nat := fun s => do
  let ds := s.takeWhile Char.isDigit
  let n ← (Decimal.value? ds).filter (· < bound)
  return (n, s.drop ds.length)

/-- The number after a percent sign; without one the scope is zero. -/
def takeScope (s : List Char) : UInt32 × List Char :=
  match (skip? '%' s).bind (takeNumber? 4294967296) with
  | some (n, rest) => (n.toUInt32, rest)
  | none => (0, s)

def takeHost? : Scan Host
  | '[' :: s => do
      let (groups, s) ← Groups.take? s
      let (scope, s) := takeScope s
      return (.groups groups scope, ← skip? ']' s)
  | s => do
      let (octets, s) ← Octets.take? s
      return (.octets octets, s)

def ofChars? (s : List Char) : Option Address := do
  let (host, s) ← takeHost? s
  let (port, s) ← takeNumber? 65536 (← skip? ':' s)
  if s.isEmpty then return { host, port := port.toUInt16 } else none

def parse? (s : String) : Option Address := ofChars? s.toList

def hostChars : Host → List Char
  | .octets o => o.chars
  | .groups g scope =>
      let scopeChars := if scope = 0 then [] else '%' :: Decimal.digits scope.toNat
      '[' :: g.chars ++ scopeChars ++ [']']

def text (a : Address) : String :=
  String.ofList (hostChars a.host ++ ':' :: Decimal.digits a.port.toNat)

end Address

end VoiceHub
