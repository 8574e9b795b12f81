/-!
Labels of any characters, spelled with letters, digits and hyphens.

The plain characters stand first, up to the last hyphen.  The others follow in
order of their code points, each as a number that says how far it is from the one
before, counted over all places and code points between.  A number has the lowest
digit first; which digit is the last one follows from a threshold that adapts to
the numbers before it.
-/

namespace VoiceHub.Url.Punycode

def digitChar (d : Nat) : Char := Char.ofNat (if d < 26 then 97 + d else 22 + d)

def digit? (c : Char) : Option Nat :=
  if 'a' ≤ c ∧ c ≤ 'z' then some (c.toNat - 97)
  else if 'A' ≤ c ∧ c ≤ 'Z' then some (c.toNat - 65)
  else if c.isDigit then some (c.toNat - 22)
  else none

/-- A digit below the threshold of its place is the last one. -/
def threshold (bias place : Nat) : Nat := min 26 (max 1 (36 * (place + 1) - bias))

def initialBias : Nat := 72

/-- The bias of a distance that is cut down to `455` first. -/
def biasOf (bias distance : Nat) : Nat :=
  if distance ≤ 455 then bias + 36 * distance / (distance + 38)
  else biasOf (bias + 36) (distance / 35)
termination_by distance
decreasing_by omega

/-- The bias after a number, with so many characters in place. -/
def adapt (number count : Nat) (isFirst : Bool) : Nat :=
  let distance := if isFirst then number / 700 else number / 2
  biasOf 0 (distance + distance / count)

section Writing

def digits (bias place n : Nat) : List Char :=
  let t := threshold bias place
  if n < t then [digitChar n]
  else digitChar (t + (n - t) % (36 - t)) :: digits bias (place + 1) ((n - t) / (36 - t))
termination_by n
decreasing_by
  have : 1 ≤ threshold bias place := by unfold threshold; omega
  have := Nat.div_le_self (n - threshold bias place) (36 - threshold bias place)
  omega

/-- How far the writer is: characters in place, the distance so far, and the bias. -/
structure Progress where
  count : Nat
  distance : Nat := 0
  bias : Nat := initialBias
  written : List Char := []

/-- Passes a character on the way to the next one of code point `n`. -/
def Progress.pass (plain n : Nat) (p : Progress) (c : Char) : Progress :=
  if c.toNat < n then { p with distance := p.distance + 1 }
  else if c.toNat = n then
    { count := p.count + 1
      distance := 0
      bias := adapt p.distance (p.count + 1) (p.count = plain)
      written := p.written ++ digits p.bias 0 p.distance }
  else p

/-- The least code point from `n` on. -/
def next? (n : Nat) (s : List Char) : Option Nat := ((s.map Char.toNat).filter (n ≤ ·)).min?

/-- Places the characters from code point `n` on, in at most so many rounds. -/
def place (s : List Char) (plain : Nat) : Nat → Nat → Progress → Progress
  | 0, _, p => p
  | rounds + 1, n, p =>
      match next? n s with
      | none => p
      | some next =>
          let p := { p with distance := p.distance + (next - n) * (p.count + 1) }
          let p := s.foldl (Progress.pass plain next) p
          place s plain rounds (next + 1) { p with distance := p.distance + 1 }

def encode (s : List Char) : List Char :=
  let plain := s.filter (·.toNat < 0x80)
  let spelled := (place s plain.length s.length 0x80 { count := plain.length }).written
  (if plain = [] then [] else plain ++ ['-']) ++ spelled

end Writing

section Reading

/-- A number, added to what the reader has passed already. -/
def takeNumber? (bias : Nat) : Nat → Nat → Nat → List Char → Option (Nat × List Char)
  | _, _, _, [] => none
  | place, weight, n, c :: s => do
      let d ← digit? c
      let n := n + d * weight
      let t := threshold bias place
      if d < t then return (n, s) else takeNumber? bias (place + 1) (weight * (36 - t)) n s

/-- Inserts the characters that are spelled, at most so many. -/
def insertAll? : Nat → Nat → Nat → Nat → List Char → List Char → Option (List Char)
  | _, _, _, _, done, [] => some done
  | 0, _, _, _, _, _ => none
  | steps + 1, bias, code, passed, done, s => do
      let (n, s) ← takeNumber? bias 0 1 passed s
      let count := done.length + 1
      let code := code + n / count
      if ¬ code.isValidChar then none
      else
        insertAll? steps (adapt (n - passed) count (passed = 0)) code (n % count + 1)
          (done.insertIdx (n % count) (Char.ofNat code)) s

/-- A hyphen at the front belongs to what is spelled, which cannot have one. -/
def decode? (s : List Char) : Option (List Char) :=
  let spelled := (s.reverse.takeWhile (· ≠ '-')).reverse
  let plain := s.take (s.length - spelled.length)
  if plain = ['-'] then none
  else insertAll? s.length initialBias 0x80 0 plain.dropLast spelled

end Reading

end VoiceHub.Url.Punycode
