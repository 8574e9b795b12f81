import VoiceHub.Numeral
import VoiceHub.Text.Scan

/-!
Which texts are patterns that other texts can be matched with.

A pattern is made of runs between bars; a run repeats characters, escapes, sets in
brackets and groups in parentheses.  The classes of digits, blanks and word
characters, the borders of words and letters in either case are there for ASCII
only, in a group that does without Unicode.
-/

namespace VoiceHub.Text.Pattern

structure Flags where
  ignoresCase : Bool := false
  isUnicode : Bool := true
  deriving DecidableEq, Repr

/-- What an escape stands for, if it is not a character of its own. -/
inductive Item where
  | char (c : Char)
  | anyOf
  | border
  deriving DecidableEq, Repr

section Escapes

def punctuation : List Char := "\\.+*?()|[]\x7b\x7d^$#&-~!\"%',/:;=@_ ".toList

def controls : List (Char × Char) :=
  [('a', '\x07'), ('f', '\x0c'), ('t', '\t'), ('n', '\n'), ('r', '\r'), ('v', '\x0b')]

/-- A code point in so many digits, or in any number of them between braces. -/
def takeCode? (count : Nat) : Scan Char := fun s => do
  let (ds, rest) ← match s with
    | '\x7b' :: s =>
        let ds := s.takeWhile Hex.isDigit
        (skip? '\x7d' (s.drop ds.length)).map (ds, ·)
    | s =>
        let ds := s.take count
        if ds.length = count && ds.all Hex.isDigit then some (ds, s.drop count) else none
  let n := Hex.value ds
  if ds ≠ [] ∧ n.isValidChar then some (Char.ofNat n, rest) else none

/-- What stands after a backslash. -/
def takeEscape? (f : Flags) : Scan Item
  | [] => none
  | c :: s =>
      if c = 'x' then (takeCode? 2).map .char s
      else if c = 'u' then (takeCode? 4).map .char s
      else if c = 'U' then (takeCode? 8).map .char s
      else if ['d', 's', 'w'].contains c then if f.isUnicode then none else some (.anyOf, s)
      else if ['A', 'z'].contains c then some (.border, s)
      else if ['b', 'B', '<', '>'].contains c then if f.isUnicode then none else some (.border, s)
      else if punctuation.contains c || c = '`' then some (.char c, s)
      else (controls.lookup c).map fun control => (.char control, s)

end Escapes

section Sets

def classNames : List String :=
  ["alnum", "alpha", "ascii", "blank", "cntrl", "digit", "graph", "lower", "print", "punct",
    "space", "upper", "word", "xdigit"]

/-- A named class after its opening bracket. -/
def skipNamedClass? : List Char → Option (List Char)
  | ':' :: s =>
      let s := (skip? '^' s).getD s
      let name := s.takeWhile (· ≠ ':')
      if classNames.contains (String.ofList name) then skipWord? [':', ']'] (s.drop name.length)
      else none
  | _ => none

def takeItem? (f : Flags) : Scan Item
  | [] => none
  | '\\' :: s => takeEscape? f s
  | c :: s => some (.char c, s)

/-- One item, or the two ends of a range. -/
def skipRange? (f : Flags) (s : List Char) : Option (List Char) :=
  match takeItem? f s with
  | none | some (.border, _) => none
  | some (first, s) =>
      match s with
      | [] => none
      | '-' :: ']' :: _ | '-' :: '-' :: _ => some s
      | '-' :: s =>
          match first, takeItem? f s with
          | .char low, some (.char high, s) => if low ≤ high then some s else none
          | _, _ => none
      | s => some s

mutual

/-- A set after its opening bracket. -/
def skipSet? : Nat → Flags → List Char → Option (List Char)
  | 0, _, _ => none
  | steps + 1, f, s =>
      if s.head? = some '^' ∧ f.isUnicode = false then none
      else
        let s := (skip? '^' s).getD s
        match s with
        | ']' :: s => skipItems? steps f s
        | s => skipItems? steps f (s.dropWhile (· = '-'))

/-- The items of a set up to its closing bracket. -/
def skipItems? : Nat → Flags → List Char → Option (List Char)
  | 0, _, _ => none
  | _ + 1, _, [] => none
  | _ + 1, _, ']' :: s => some s
  | steps + 1, f, '&' :: '&' :: s | steps + 1, f, '-' :: '-' :: s | steps + 1, f, '~' :: '~' :: s =>
      skipItems? steps f s
  | steps + 1, f, '[' :: s =>
      match skipNamedClass? s with
      | some s => skipItems? steps f s
      | none => (skipSet? steps f s).bind (skipItems? steps f)
  | steps + 1, f, s => (skipRange? f s).bind (skipItems? steps f)

end

end Sets

section Groups

/-- Flags that are switched on, and after a minus sign off, each at most once. -/
def setFlags? (f : Flags) (isOn : Bool) (seen : List Char) : List Char → Option Flags
  | [] => if seen.head? = some '-' then none else some f
  | c :: s =>
      if seen.contains c then none
      else match c with
        | '-' => setFlags? f false (c :: seen) s
        | 'i' => setFlags? { f with ignoresCase := isOn } isOn (c :: seen) s
        | 'u' => setFlags? { f with isUnicode := isOn } isOn (c :: seen) s
        | 'm' | 's' | 'U' | 'R' | 'x' => setFlags? f isOn (c :: seen) s
        | _ => none

def isName : List Char → Bool
  | [] => false
  | c :: s => (c.isAlpha || c = '_') && s.all fun c => c.isAlphanum || "_.[]".toList.contains c

/-- Where the reader of a pattern is: inside of some groups, each with the flags outside of it. -/
structure State where
  flags : Flags := {}
  outer : List Flags := []
  names : List (List Char) := []
  canRepeat : Bool := false

namespace State

def enter (st : State) : State := { st with outer := st.flags :: st.outer, canRepeat := false }

def enterNamed? (st : State) (s : List Char) : Option (State × List Char) :=
  let name := s.takeWhile (· ≠ '>')
  if isName name && !st.names.contains name then
    (skip? '>' (s.drop name.length)).map fun s => ({ st.enter with names := name :: st.names }, s)
  else none

/-- A group after its parenthesis and question mark, or a change of flags. -/
def open? (st : State) (s : List Char) : Option (State × List Char) :=
  match s with
  | '<' :: s | 'P' :: '<' :: s => st.enterNamed? s
  | s =>
      let letters := s.takeWhile fun c => c ≠ ':' && c ≠ ')'
      match setFlags? st.flags true [] letters, s.drop letters.length with
      | some flags, ':' :: s => some ({ st.enter with flags }, s)
      | some flags, ')' :: s =>
          if letters = [] then none else some ({ st with flags, canRepeat := false }, s)
      | _, _ => none

def leave? (st : State) : Option State :=
  match st.outer with
  | [] => none
  | flags :: outer => some { st with flags, outer, canRepeat := true }

/-- After a character or a set. -/
def taken? (st : State) : Option State :=
  if st.flags.ignoresCase && st.flags.isUnicode then none else some { st with canRepeat := true }

end State

end Groups

def isValidFrom : Nat → State → List Char → Bool
  | 0, _, _ => false
  | _ + 1, st, [] => st.outer.isEmpty
  | steps + 1, st, '(' :: '?' :: s =>
      match st.open? s with
      | some (st, s) => isValidFrom steps st s
      | none => false
  | steps + 1, st, '(' :: s => isValidFrom steps st.enter s
  | steps + 1, st, ')' :: s =>
      match st.leave? with
      | some st => isValidFrom steps st s
      | none => false
  | steps + 1, st, '|' :: s => isValidFrom steps { st with canRepeat := false } s
  | steps + 1, st, '[' :: s =>
      match st.taken?, skipSet? steps st.flags s with
      | some st, some s => isValidFrom steps st s
      | _, _ => false
  | steps + 1, st, '\\' :: s =>
      match takeEscape? st.flags s, st.taken? with
      | some (.char _, s), some st => isValidFrom steps st s
      | some (.char _, _), none | none, _ => false
      | some (_, s), _ => isValidFrom steps { st with canRepeat := true } s
  | steps + 1, st, c :: s =>
      if c = '*' ∨ c = '+' ∨ c = '?' then st.canRepeat && isValidFrom steps st s
      else if c = '\x7b' then false
      else if c = '.' then st.flags.isUnicode && isValidFrom steps { st with canRepeat := true } s
      else if c = '^' ∨ c = '$' then isValidFrom steps { st with canRepeat := true } s
      else match st.taken? with
        | some st => isValidFrom steps st s
        | none => false

/-- Counts of repetitions in braces are left out. -/
def isValid (s : List Char) : Bool := isValidFrom (s.length + 1) {} s

end VoiceHub.Text.Pattern
