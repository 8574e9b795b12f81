import VoiceHub.Definition
import VoiceHub.Intent
import VoiceHub.Numeral

/-!
Time: how it is told, when something that waits is due, and timers.

Time is counted in milliseconds.  A deadline is a delay after the present, as far
as the clock goes: what would be due after the clock has run out of seconds is
due in thirty years, and nothing is due later than the last millisecond that the
clock can wait for.

A timer is asked for in seconds or minutes, in an amount that fits in 64 bits.
Minutes that come to more than 64 bits of seconds are a panic of the handler.
-/

namespace VoiceHub

structure TimeOfDay where
  hour : Nat
  minute : Nat
  deriving DecidableEq, Repr

namespace TimeOfDay

/-- Nanoseconds from 10 ^ 9 up are those of a leap second, which only ends a minute. -/
def ofParts? (hour minute second nanosecond : Nat) : Option TimeOfDay :=
  if hour < 24 ∧ minute < 60 ∧ second < 60 ∧ nanosecond < 2000000000 ∧
      (nanosecond < 1000000000 ∨ second = 59) then
    some { hour, minute }
  else none

/-- Hours and minutes, two digits each. -/
def clock (t : TimeOfDay) : String :=
  String.ofList (Decimal.padded 2 t.hour ++ ':' :: Decimal.padded 2 t.minute)

def answer (t : TimeOfDay) : String := "It is currently " ++ t.clock ++ " o'clock"

end TimeOfDay

end VoiceHub

namespace VoiceHub.Deadline

/-- The last millisecond that the clock can wait for. -/
def last : Nat := 18446744073709551612

/-- Where the clock, which has 63 bits of seconds and ran before the hub did, has none left. -/
def clockEnd : Nat := 9223372036854772208000

def thirtyYears : Nat := 946080000000

def after (now delay : Nat) : Nat :=
  min last (if now + delay < clockEnd then now + delay else now + thirtyYears)

end VoiceHub.Deadline

namespace VoiceHub.Timer

def setIntent : String := "SetTimer"

def amountParameter : String := "Amount"

def unitParameter : String := "TimeUnit"

def definitions : List Definition :=
  [{ name := setIntent,
     sentences :=
      [[.literal { text := "Set a timer for" },
        .range { name := amountParameter, returned := true, lower := 0, upper := 60 },
        .choice { name := unitParameter, returned := true, values := ["seconds", "minutes"] },
        .literal { text := "from now", isOptional := true }]] }]

/-- The seconds that the intent asks for. -/
def seconds (i : Intent) : Except Failure Nat :=
  match i.require amountParameter with
  | .error e => .error (.error e)
  | .ok amountText =>
      match Decimal.word64? amountText.toList with
      | none => .error (.error (.invalidParameter amountParameter amountText))
      | some amount =>
          match i.require unitParameter with
          | .error e => .error (.error e)
          | .ok unit =>
              if unit = "seconds" then .ok amount
              else if unit = "minutes" then
                if 60 * amount < Decimal.wordLimit then .ok (60 * amount)
                else .error (.panic (some "attempt to multiply with overflow"))
              else .error (.error (.invalidParameter unitParameter unit))

def answerText (seconds : Nat) : String :=
  "I've set a timer for " ++ Decimal.text seconds ++ " seconds from now"

def expiry : String := "Timer expired"

end VoiceHub.Timer
