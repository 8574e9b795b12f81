import VoiceHub.Toml.Basic
import VoiceHub.Toml.Number
import VoiceHub.Toml.Text

/-!
Reading a TOML document.

A document is a sequence of lines: a key with its value, or the header of a
table, which holds the keys that follow.  Headers and dotted keys build one tree
of tables, where no key is given twice and no table opened twice.
-/

namespace VoiceHub.Toml

section Layout

/-- Drops a comment, up to the end of its line. -/
def skipComment : List Char → List Char
  | '#' :: s => s.dropWhile isPlain
  | s => s

/-- The rest after a line has ended: blanks, a comment, and a line break unless the text ends. -/
def endLine? (s : List Char) : Option (List Char) :=
  match skipComment (skipBlank s) with
  | [] => some []
  | s => skipBreak? s

/-- Drops blanks, line breaks and comments, at most so many. -/
def skipLines : Nat → List Char → List Char
  | 0, s => s
  | steps + 1, s =>
      let s := skipBlank s
      match skipBreak? (skipComment s) with
      | some rest => skipLines steps rest
      | none => s

end Layout

section Values

/-- Items of an array after its opening bracket; each may be followed by a comma. -/
def takeItems? (item : Scan Value) : Nat → Scan (List Value)
  | 0, _ => none
  | steps + 1, s =>
      match skipLines s.length s with
      | ']' :: s => some ([], s)
      | s => do
          let (value, s) ← item s
          match skipLines s.length s with
          | ']' :: s => return ([value], s)
          | ',' :: s =>
              let (values, s) ← takeItems? item steps s
              return (value :: values, s)
          | _ => none

/-- Pairs of an inline table, one or more, onto the entries so far. -/
def takePairs? (item : Scan Value) (entries : Entries) : Nat → Scan Entries
  | 0, _ => none
  | steps + 1, s => do
      let ((path, key), s) ← takeKey? s
      let (value, s) ← item (skipBlank (← skip? '=' s))
      let entries ← Entries.assign path key value .inline entries
      match skipBlank s with
      | '\x7d' :: s => return (entries, s)
      | ',' :: s => takePairs? item entries steps s
      | _ => none

def takeInline? (item : Scan Value) : Scan Value := fun s =>
  match skipBlank s with
  | '\x7d' :: s => some (.table .inline [], s)
  | s => (takePairs? item [] s.length s).map fun (entries, s) => (.table .inline entries, s)

def takeBoolean? : Scan Bool := fun s =>
  match skipWord? ['t', 'r', 'u', 'e'] s with
  | some rest => some (true, rest)
  | none => (skipWord? ['f', 'a', 'l', 's', 'e'] s).map fun rest => (false, rest)

/-- A moment may begin as a number does, and a float as a whole number does. -/
def takeScalar? : Scan Value :=
  .firstOf [.map .text takeText?, .map .moment Moment.take?, .map (fun _ => .float) takeFloat?,
    .map .integer takeInteger?, .map .boolean takeBoolean?]

/-- A value with at most so many levels. -/
def takeValue? : Nat → Scan Value
  | 0, '[' :: _ => none
  | 0, '\x7b' :: _ => none
  | levels + 1, '[' :: s =>
      (takeItems? (takeValue? levels) (s.length + 1) s).map fun (items, s) => (.array items, s)
  | levels + 1, '\x7b' :: s => takeInline? (takeValue? levels) s
  | _, s => takeScalar? s

end Values

section Documents

inductive Line where
  | pair (path : List String) (key : String) (value : Value)
  | header (path : List String) (key : String)
  | member (path : List String) (key : String)

/-- What is between the brackets of a header. -/
def takeHeader? (isMember : Bool) : Scan Line := fun s => do
  let ((path, key), s) ← takeKey? s
  let s ← skip? ']' s
  if isMember then return (.member path key, ← skip? ']' s)
  return (.header path key, s)

def takeKeyValue? : Scan Line := fun s => do
  let ((path, key), s) ← takeKey? s
  let (value, s) ← takeValue? levelLimit (skipBlank (← skip? '=' s))
  return (.pair path key value, s)

def takeContent? : Scan Line
  | '[' :: '[' :: s => takeHeader? true s
  | '[' :: s => takeHeader? false s
  | s => takeKeyValue? s

/-- A line with something on it, up to the next line. -/
def takeLine? : Scan Line := fun s => do
  let (line, s) ← takeContent? s
  return (line, ← endLine? s)

/-- The lines of a document, blank ones left out. -/
def takeDocument? : Nat → List Char → Option (List Line)
  | 0, _ => none
  | steps + 1, s =>
      match skipLines s.length s with
      | [] => some []
      | '#' :: s => if (s.dropWhile isPlain).isEmpty then some [] else none
      | s => do
          let (line, s) ← takeLine? s
          return line :: (← takeDocument? steps s)

/-- A table with a header of its own; one that was only implied so far may get it. -/
def declare (key : String) (_ : Form) (entries : Entries) : Option Entries :=
  match entries.find? key with
  | none => some (entries ++ [(key, .table .declared [])])
  | some (.table .implied inner) => some (entries.replace key (.table .declared inner))
  | some _ => none

def addMember (key : String) (_ : Form) (entries : Entries) : Option Entries :=
  match entries.find? key with
  | none => some (entries ++ [(key, .tables [[]])])
  | some (.tables members) => some (entries.replace key (.tables (members ++ [[]])))
  | some _ => none

/-- The tree so far and the table that is open. -/
structure Draft where
  current : List String := []
  root : Entries := []

namespace Draft

/-- Changes the table at a path from the root, whose name is no dotted key. -/
def change (d : Draft) (change : Form → Entries → Option Entries) (path : List String) :
    Option Draft := do
  return { d with root := ← Entries.updateAt false change path .declared d.root }

def add (d : Draft) : Line → Option Draft
  | .pair path key value => d.change (Entries.assign path key value) d.current
  | .header path key => Draft.change { d with current := path ++ [key] } (declare key) path
  | .member path key => Draft.change { d with current := path ++ [key] } (addMember key) path

end Draft

/-- The entries of a document. -/
def read? (text : String) : Option Entries := do
  let s := text.toList
  let s := if s.head? = some '\ufeff' then s.tail else s
  let lines ← takeDocument? (s.length + 1) s
  return (← lines.foldlM Draft.add {}).root

end Documents

end VoiceHub.Toml
