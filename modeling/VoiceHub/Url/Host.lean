import VoiceHub.Address
import VoiceHub.Url.Domain
import VoiceHub.Url.Syntax

/-!
Hosts in addresses.

Eight groups stand in brackets.  Where the scheme is known, any other host is a
name, and a name that ends in a number has to be four octets, of which the last
ones may be written as one number, each in decimal, octal or hexadecimal.
-/

namespace VoiceHub.Url

inductive Host where
  | name (text : List Char)
  | octets (octets : Octets)
  | groups (groups : Groups)
  deriving DecidableEq

namespace Host

section Numbers

def octalValue (ds : List Char) : Nat := ds.foldl (fun v d => 8 * v + (d.toNat - 48)) 0

/-- Hexadecimal after `0x`, octal after another zero, else decimal. -/
def number? : List Char → Option Nat
  | [] => none
  | ['0'] => some 0
  | '0' :: 'x' :: ds => if ds.all Hex.isDigit then some (Hex.value ds) else none
  | '0' :: ds => if ds.all fun d => '0' ≤ d && d ≤ '7' then some (octalValue ds) else none
  | ds => Decimal.value? ds

/-- The parts between dots; a dot at the end does not count. -/
def parts (name : List Char) : List (List Char) :=
  let parts := name.splitOn '.'
  if parts.length ≠ 1 ∧ parts.getLast? = some [] then parts.dropLast else parts

def endsInNumber (name : List Char) : Bool :=
  let last := (parts name).getLast?.getD []
  (last ≠ [] && last.all Char.isDigit) || (number? last).isSome

/-- The first numbers are one octet each; the last one stands for all that are left. -/
def joinOctets? : Nat → List Nat → Option Nat
  | bytes + 1, [last] => if last < Nat.pow 256 (bytes + 1) then some last else none
  | bytes + 1, n :: ns =>
      if n < 256 then (joinOctets? bytes ns).map (n * Nat.pow 256 bytes + ·) else none
  | _, _ => none

def octets? (name : List Char) : Option Octets := do
  let n ← joinOctets? 4 (← (parts name).mapM number?)
  return Octets.ofPair (n / 65536).toUInt16 (n % 65536).toUInt16

end Numbers

def groups? (s : List Char) : Option Groups :=
  match Groups.take? s with
  | some (g, []) => some g
  | _ => none

/-- Characters that no host of an unknown scheme has. -/
def forbidden : List Char := "\x00\t\n\r #/:<>?@[\\]^|".toList

def ofName? (s : List Char) : Option Host := do
  let s ← (Utf8.decode (Percent.decode s)).toOption
  let name ← Domain.normal? s.toList
  if name = [] then none
  else if endsInNumber name then (octets? name).map .octets
  else some (.name name)

def ofChars? (scheme : Scheme) (s : List Char) : Option Host :=
  match s with
  | '[' :: s => if s.getLast? = some ']' then (groups? s.dropLast).map .groups else none
  | s =>
      if scheme.isKnown then ofName? s
      else if s.any forbidden.contains then none
      else some (.name (Percent.encode [] s))

def chars : Host → List Char
  | .name s => s
  | .octets o => o.chars
  | .groups g => '[' :: g.hexChars ++ [']']

/-- Whether a request can be sent to a host of that name. -/
def canBeAsked : Host → Bool
  | .name s => !s.any ['"', '`', '\x7b', '\x7d'].contains
  | _ => true

end Host

end VoiceHub.Url
