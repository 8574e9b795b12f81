import VoiceHub.Numeral
import VoiceHub.Journal
import VoiceHub.Text.Alphanumeric
import VoiceHub.Text.Scan
import VoiceHub.Text.Pattern

/-!
Which log records are shown.

A filter is a list of directives between commas.  `level` alone sets the level of
all records, `target=level` that of the targets that begin with a name; a name
alone shows all of its records.  In brackets a directive may ask for a field that
a record has to have; one that asks for a span, or for the value of a field,
applies to no record that the hub writes.  Of the directives that fit a record the
one with the longest name decides, then one that asks for a field, and of two that
ask for the same the later one.
-/

namespace VoiceHub

def Level.severity : Level → Nat
  | .trace => 0
  | .debug => 1
  | .info => 2
  | .warn => 3
  | .error => 4

/-- The least level that is shown, if any is. -/
abbrev Threshold := Option Level

inductive FilterError where
  | directive
  | level
  | field
  deriving DecidableEq, Repr

def FilterError.message : FilterError → String
  | .directive => "invalid filter directive"
  | .level =>
      "error parsing level filter: expected one of \"off\", \"error\", \"warn\", " ++
        "\"info\", \"debug\", \"trace\", or a number 0-5"
  | .field => "invalid field filter: error building NFA"

structure Directive where
  target : Option String := none
  /-- The field that a record has to have. -/
  field : Option String := none
  /-- It asks for what is known inside of a span only. -/
  isScoped : Bool := false
  threshold : Threshold := some .trace
  deriving DecidableEq, Repr

namespace Directive

section Reading

def thresholdOfNumber? : Nat → Option Threshold
  | 0 => some none
  | 1 => some (some .error)
  | 2 => some (some .warn)
  | 3 => some (some .info)
  | 4 => some (some .debug)
  | 5 => some (some .trace)
  | _ => none

def thresholdNames : List (String × Threshold) :=
  [("off", none), ("error", some .error), ("warn", some .warn), ("info", some .info),
    ("debug", some .debug), ("trace", some .trace)]

/-- A number or a name in any case. -/
def threshold? (s : List Char) : Option Threshold :=
  ((Decimal.word64? s).bind thresholdOfNumber?).or
    (thresholdNames.lookup (String.ofList (s.map Char.toLower)))

def isExponent : List Char → Bool
  | [] => true
  | mark :: s =>
      let ds := match s with
        | '+' :: ds | '-' :: ds => ds
        | ds => ds
      mark.toLower = 'e' && ds ≠ [] && ds.all Char.isDigit

def numberWords : List String := ["inf", "infinity", "nan"]

/-- A number after a plus sign, which no pattern begins with. -/
def isSignedNumber : List Char → Bool
  | '+' :: s =>
      let whole := s.takeWhile Char.isDigit
      let rest := s.drop whole.length
      let fraction := match rest with
        | '.' :: rest => rest.takeWhile Char.isDigit
        | _ => []
      let exponent := match rest with
        | '.' :: rest => rest.drop fraction.length
        | rest => rest
      numberWords.contains (String.ofList (s.map Char.toLower)) ||
        (whole ≠ [] || fraction ≠ []) && isExponent exponent
  | _ => false

/-- The field that is asked for, with or without a value; a value is a number or a pattern. -/
def withField (d : Directive) (part : List Char) : Except FilterError Directive :=
  let name := String.ofList (part.takeWhile (· ≠ '='))
  match part.dropWhile (· ≠ '=') with
  | [] => .ok { d with field := some name }
  | _ :: s =>
      let value := s.takeWhile (· ≠ '=')
      if isSignedNumber value || Text.Pattern.isValid value then
        .ok { d with field := some name, isScoped := true }
      else .error .field

/-- Where in a directive a character stands, with the characters of the part so far. -/
inductive Place where
  | start
  | word (part : List Char)
  | span (part : List Char)
  | field (part : List Char)
  | fields
  | afterSpan
  | level (part : List Char)
  deriving DecidableEq, Repr

def mayStart (c : Char) : Bool := Text.isAlphanumeric c || c = '-' || c = ':' || c = '_'

/-- The directive so far and the place after one more character.

`c` tells what the character does, and `kept` is what a part takes up for it. -/
def step (c kept : Char) : Directive × Place → Except FilterError (Directive × Place)
  | (d, .start) =>
      if c = '[' then .ok (d, .span [])
      else if mayStart c then .ok (d, .word [kept])
      else .error .directive
  | (d, .word part) =>
      if c = '=' then .ok ({ d with target := some (String.ofList part) }, .level [])
      else if c = '[' then .ok ({ d with target := some (String.ofList part) }, .span [])
      else .ok (d, .word (part ++ [kept]))
  | (d, .span part) =>
      if c = ']' then .ok ({ d with isScoped := true }, .afterSpan)
      else if c = '\x7b' then .ok ({ d with isScoped := part ≠ [] }, .field [])
      else .ok (d, .span (part ++ [kept]))
  | (d, .field part) =>
      if c ≠ '\x7d' then .ok (d, .field (part ++ [kept]))
      else if part = [] then .error .directive
      else (d.withField part).map (·, .fields)
  | (d, .fields) => if c = ']' then .ok (d, .afterSpan) else .error .directive
  | (d, .afterSpan) => if c = '=' then .ok (d, .level []) else .error .directive
  | (d, .level part) => .ok (d, .level (part ++ [kept]))

/-- The directive at the end; `rest` still belongs to its last part. -/
def finish (rest : List Char) : Directive × Place → Except FilterError Directive
  | (d, .word part) =>
      match threshold? (part ++ rest) with
      | some threshold => .ok { d with threshold }
      | none => .ok { d with target := some (String.ofList (part ++ rest)) }
  | (d, .level part) =>
      if part ++ rest = [] then .ok d
      else match threshold? (part ++ rest) with
        | some threshold => .ok { d with threshold }
        | none => .error .level
  | (d, .afterSpan) => .ok d
  | _ => .error .directive

/-- White space at the ends does not count for the form, but the parts are cut out of the text with
it, as many characters from its start. -/
def ofChars (s : List Char) : Except FilterError Directive := do
  let trimmed := Text.trim s
  let state ← (trimmed.zip s).foldlM (fun state (c, kept) => step c kept state) ({}, .start)
  finish (s.drop trimmed.length) state

end Reading

def fits (d : Directive) (r : Record) : Bool :=
  !d.isScoped && (d.target.getD "").toList.isPrefixOf r.origin.target.toList &&
    (d.field.map r.hasField).getD true

/-- A name fits better the longer it is, and any name better than none. -/
def weight (d : Directive) : Nat :=
  match d.target with
  | none => 0
  | some name => name.length + 1

/-- Of two fields the later one in the alphabet fits better, and any field better than none. -/
def isLooserField : Option String → Option String → Bool
  | none, some _ => true
  | some field, some other => field < other
  | _, none => false

def isLooser (d other : Directive) : Bool :=
  d.weight < other.weight || d.weight = other.weight && isLooserField d.field other.field

end Directive

abbrev Filter := List Directive

namespace Filter

def parse (text : String) : Except FilterError Filter :=
  ((text.toList.splitOn ',').filter (· ≠ [])).mapM Directive.ofChars

/-- The directive that decides for a record. -/
def deciding? (f : Filter) (r : Record) : Option Directive :=
  f.foldl (fun best d =>
    if !d.fits r then best
    else match best with
      | none => some d
      | some other => if d.isLooser other then best else some d) none

def shows (f : Filter) (r : Record) : Bool :=
  match f.deciding? r with
  | some { threshold := some level, .. } => level.severity ≤ r.level.severity
  | _ => false

/-- The targets that the hub's own level applies to; all others show their warnings. -/
def ownTargets : List String := ["server", "intents", "handlers", "rhasspy_client"]

def textOfLevel (level : String) : String :=
  "warn," ++ ",".intercalate (ownTargets.map fun target => target ++ "=" ++ level)

end Filter

end VoiceHub
