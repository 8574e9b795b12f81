import VoiceHub.Numeral
import VoiceHub.Text.Scan

/-!
Dates and times of TOML.

A moment has a date, a time of day, or both; only both may have an offset from
universal time.  Dates are those of the Gregorian calendar, times may be a leap
second, and fractions of a second are cut to nine digits.
-/

namespace VoiceHub.Toml

structure Date where
  year : Nat
  month : Nat
  day : Nat
  deriving DecidableEq, Repr

structure Time where
  hour : Nat
  minute : Nat
  second : Nat
  nanosecond : Nat
  deriving DecidableEq, Repr

inductive Offset where
  | universal
  | minutes (east : Int)
  deriving DecidableEq, Repr

structure Moment where
  date : Option Date := none
  time : Option Time := none
  offset : Option Offset := none
  deriving DecidableEq, Repr

section Reading

/-- Exactly so many digits. -/
def takeDigits? (count : Nat) : Scan Nat := fun s =>
  if (s.take count).length = count ∧ (s.take count).all Char.isDigit then
    some (Decimal.value (s.take count), s.drop count)
  else none

/-- Two digits of a number up to a bound. -/
def takePair? (bound : Nat) : Scan Nat := fun s =>
  (takeDigits? 2 s).filter fun (n, _) => n ≤ bound

def isLeapYear (year : Nat) : Bool := year % 4 = 0 && (year % 100 ≠ 0 || year % 400 = 0)

def daysInMonth (year month : Nat) : Nat :=
  if month = 2 then if isLeapYear year then 29 else 28
  else if month = 4 ∨ month = 6 ∨ month = 9 ∨ month = 11 then 30
  else 31

def Date.take? : Scan Date := fun s => do
  let (year, s) ← takeDigits? 4 s
  let (month, s) ← takePair? 12 (← skip? '-' s)
  let (day, s) ← takePair? (daysInMonth year month) (← skip? '-' s)
  if month = 0 ∨ day = 0 then none else return ({ year, month, day }, s)

/-- The nanoseconds of a fraction's digits. -/
def nanoseconds (ds : List Char) : Nat :=
  Decimal.value (ds.take 9) * Nat.pow 10 (9 - (ds.take 9).length)

/-- A fraction may be missing, but a point has to have digits after it. -/
def takeFraction? : Scan Nat
  | '.' :: s =>
      let ds := s.takeWhile Char.isDigit
      if ds.isEmpty then none else some (nanoseconds ds, s.drop ds.length)
  | s => some (0, s)

def Time.take? : Scan Time := fun s => do
  let (hour, s) ← takePair? 23 s
  let (minute, s) ← takePair? 59 (← skip? ':' s)
  let (second, s) ← takePair? 60 (← skip? ':' s)
  let (nanosecond, s) ← takeFraction? s
  return ({ hour, minute, second, nanosecond }, s)

def takeHourMinute? : Scan Nat := fun s => do
  let (hour, s) ← takePair? 23 s
  let (minute, s) ← takePair? 59 (← skip? ':' s)
  return (60 * hour + minute, s)

/-- The offset, if one follows. -/
def takeOffset? : Scan (Option Offset)
  | 'Z' :: s | 'z' :: s => some (some .universal, s)
  | '+' :: s => (takeHourMinute? s).map fun (n, s) => (some (.minutes n), s)
  | '-' :: s => (takeHourMinute? s).map fun (n, s) => (some (.minutes (-n)), s)
  | s => some (none, s)

def isTimeMark (c : Char) : Bool := c = 'T' || c = 't' || c = ' '

/-- A date with a time if one follows; a blank may also end the date. -/
def Moment.take? : Scan Moment := fun s =>
  match Date.take? s with
  | none => (Time.take? s).map fun (time, s) => ({ time := some time }, s)
  | some (date, s) =>
      match s with
      | [] => some ({ date := some date }, [])
      | mark :: rest =>
          if !isTimeMark mark then some ({ date := some date }, s)
          else match Time.take? rest with
            | none => some ({ date := some date }, s)
            | some (time, rest) => do
                let (offset, rest) ← takeOffset? rest
                return ({ date := some date, time := some time, offset }, rest)

end Reading

section Writing

def Date.chars (d : Date) : List Char :=
  Decimal.padded 4 d.year ++ '-' :: Decimal.padded 2 d.month ++ '-' :: Decimal.padded 2 d.day

/-- Nine digits without the zeros at their end. -/
def fractionChars (nanosecond : Nat) : List Char :=
  if nanosecond = 0 then []
  else '.' :: ((Decimal.padded 9 nanosecond).reverse.dropWhile (· = '0')).reverse

def Time.chars (t : Time) : List Char :=
  Decimal.padded 2 t.hour ++ ':' :: Decimal.padded 2 t.minute ++ ':' :: Decimal.padded 2 t.second ++
    fractionChars t.nanosecond

def Offset.chars : Offset → List Char
  | .universal => ['Z']
  | .minutes east =>
      (if east < 0 then '-' else '+') ::
        (Decimal.padded 2 (east.natAbs / 60) ++ ':' :: Decimal.padded 2 (east.natAbs % 60))

def Moment.text (m : Moment) : String :=
  let date := (m.date.map Date.chars).getD []
  let time := (m.time.map Time.chars).getD []
  let mark := if m.date.isSome && m.time.isSome then ['T'] else []
  String.ofList (date ++ mark ++ time ++ (m.offset.map Offset.chars).getD [])

end Writing

end VoiceHub.Toml
