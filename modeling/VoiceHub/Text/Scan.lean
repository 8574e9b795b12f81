/-!
Taking things off the front of a text, and white space off its ends.

A `Scan` gives the thing and what follows it, or refuses.  White space is the 25
characters of the Unicode property.
-/

namespace VoiceHub

abbrev Scan (α : Type) := List Char → Option (α × List Char)

/-- What follows a character that has to be there. -/
def skip? (c : Char) : List Char → Option (List Char)
  | [] => none
  | d :: s => if d = c then some s else none

/-- What follows a word that has to be there. -/
def skipWord? : List Char → List Char → Option (List Char)
  | [], s => some s
  | c :: word, s => (skip? c s).bind (skipWord? word)

namespace Scan

def map {α β : Type} (f : α → β) (scan : Scan α) : Scan β := fun s =>
  (scan s).map fun (a, rest) => (f a, rest)

/-- What the first of the scans takes that does not refuse. -/
def firstOf {α : Type} (scans : List (Scan α)) : Scan α := fun s =>
  scans.findSome? fun scan => scan s

end Scan

end VoiceHub

namespace VoiceHub.Text

/-- Closed ranges of code points, ascending and apart. -/
def blankRanges : List (Nat × Nat) :=
  [(0x09, 0x0D), (0x20, 0x20), (0x85, 0x85), (0xA0, 0xA0), (0x1680, 0x1680), (0x2000, 0x200A),
    (0x2028, 0x2029), (0x202F, 0x202F), (0x205F, 0x205F), (0x3000, 0x3000)]

def isBlank (c : Char) : Bool :=
  blankRanges.any fun range => range.1 ≤ c.toNat && c.toNat ≤ range.2

def trimLeft (s : List Char) : List Char := s.dropWhile isBlank

def trimRight (s : List Char) : List Char := (s.reverse.dropWhile isBlank).reverse

def trim (s : List Char) : List Char := trimRight (trimLeft s)

end VoiceHub.Text
