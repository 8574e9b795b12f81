import VoiceHub.Proofs.Numeral
import VoiceHub.Proofs.Hub.Handling
import VoiceHub.Session

/-!
# How long a timer runs

An intent asks for a number of seconds, or one of its parameters is at fault.  The
timer runs exactly as long as it is asked to, if the seconds have 64 bits.  Minutes
are checked as an amount and not as seconds, so there are amounts that are read and
then come to too much.
-/

namespace VoiceHub

namespace Timer

variable {i : Intent} {n m : Nat} {e : HandlerError}

/-! ## What an intent asks for -/

def Amount (i : Intent) (n : Nat) : Prop :=
  ∃ text, i.parameter? amountParameter = some text ∧ Decimal.Spells text.toList n ∧ n < 2 ^ 64

inductive Asks (i : Intent) : Nat → Prop
  | seconds {n : Nat} (hamount : Amount i n)
      (hunit : i.parameter? unitParameter = some "seconds") : Asks i n
  | minutes {n : Nat} (hamount : Amount i n)
      (hunit : i.parameter? unitParameter = some "minutes") : Asks i (60 * n)

inductive Faults (i : Intent) : HandlerError → Prop
  | amountMissing (h : i.parameter? amountParameter = none) :
      Faults i (.missingParameter amountParameter)
  | amountInvalid {text : String} (h : i.parameter? amountParameter = some text)
      (hnumber : ∀ n, ¬ Amount i n) : Faults i (.invalidParameter amountParameter text)
  | unitMissing {n : Nat} (hamount : Amount i n) (h : i.parameter? unitParameter = none) :
      Faults i (.missingParameter unitParameter)
  | unitInvalid {n : Nat} {unit : String} (hamount : Amount i n)
      (h : i.parameter? unitParameter = some unit) (hseconds : unit ≠ "seconds")
      (hminutes : unit ≠ "minutes") : Faults i (.invalidParameter unitParameter unit)

theorem word64?_of_amount {text : String} (htext : i.parameter? amountParameter = some text) :
    Decimal.word64? text.toList = some n ↔ Amount i n := by
  rw [Decimal.word64?_eq_some_iff, Amount, htext]
  simp

theorem Amount.unique (h : Amount i n) (h' : Amount i m) : n = m := by
  obtain ⟨text, htext, -⟩ := id h
  have hword := (word64?_of_amount htext).mpr h
  rw [(word64?_of_amount htext).mpr h'] at hword
  exact (Option.some.inj hword).symm

theorem Asks.unique (h : Asks i n) (h' : Asks i m) : n = m := by
  cases h with
  | seconds hamount hunit =>
      cases h' with
      | seconds hamount' => exact hamount.unique hamount'
      | minutes hamount' hunit' => simp [hunit] at hunit'
  | minutes hamount hunit =>
      cases h' with
      | seconds hamount' hunit' => simp [hunit] at hunit'
      | minutes hamount' => rw [hamount.unique hamount']

theorem asks_or_faults (i : Intent) : (∃ n, Asks i n) ∨ ∃ e, Faults i e := by
  cases htext : i.parameter? amountParameter with
  | none => exact .inr ⟨_, .amountMissing htext⟩
  | some text =>
      by_cases hamount : ∃ n, Amount i n
      · obtain ⟨n, hamount⟩ := hamount
        cases hunit : i.parameter? unitParameter with
        | none => exact .inr ⟨_, .unitMissing hamount hunit⟩
        | some unit =>
            by_cases hseconds : unit = "seconds"
            · exact .inl ⟨n, .seconds hamount (hseconds ▸ hunit)⟩
            by_cases hminutes : unit = "minutes"
            · exact .inl ⟨60 * n, .minutes hamount (hminutes ▸ hunit)⟩
            exact .inr ⟨_, .unitInvalid hamount hunit hseconds hminutes⟩
      · exact .inr ⟨_, .amountInvalid htext (not_exists.mp hamount)⟩

def overflow : Failure := .panic (some "attempt to multiply with overflow")

theorem seconds_of_amount (h : Amount i n) :
    seconds i =
      match i.require unitParameter with
      | .error e => .error (.error e)
      | .ok unit =>
          if unit = "seconds" then .ok n
          else if unit = "minutes" then
            if 60 * n < 2 ^ 64 then .ok (60 * n) else .error overflow
          else .error (.error (.invalidParameter unitParameter unit)) := by
  obtain ⟨text, htext, hspells⟩ := h
  have hrequire : i.require amountParameter = .ok text := by rw [Intent.require, htext]
  unfold seconds
  rw [hrequire]
  dsimp only
  rw [Decimal.word64?_eq_some_iff.mpr hspells]
  rfl

theorem seconds_of_asks (h : Asks i n) :
    seconds i = if n < 2 ^ 64 then .ok n else .error overflow := by
  cases h with
  | seconds hamount hunit =>
      obtain ⟨text, -, -, hword⟩ := id hamount
      rw [seconds_of_amount hamount, Intent.require, hunit, if_pos hword]
      rfl
  | minutes hamount hunit => simp [seconds_of_amount hamount, Intent.require, hunit]

theorem seconds_of_faults (h : Faults i e) : seconds i = .error (.error e) := by
  cases h with
  | amountMissing h => simp [seconds, Intent.require, h]
  | amountInvalid h hnumber =>
      have hnone : Decimal.word64? _ = none :=
        Option.eq_none_iff_forall_ne_some.mpr fun n hsome =>
          hnumber n ((word64?_of_amount h).mp hsome)
      simp [seconds, Intent.require, h, hnone]
  | unitMissing hamount h => simp [seconds_of_amount hamount, Intent.require, h]
  | unitInvalid hamount h hseconds hminutes =>
      simp [seconds_of_amount hamount, Intent.require, h, hseconds, hminutes]

theorem Faults.isAboutParameter (h : Faults i e) :
    (∃ name, e = .missingParameter name) ∨ ∃ name value, e = .invalidParameter name value := by
  cases h with
  | amountMissing | unitMissing => exact .inl ⟨_, rfl⟩
  | amountInvalid | unitInvalid => exact .inr ⟨_, _, rfl⟩

end Timer

/-! ## What the handler does -/

namespace Hub

open Timer

variable {i : Intent} {n : Nat} {e : HandlerError} (hub : Hub)

theorem handle_timer_of_error {failure : Failure} (h : Timer.seconds i = .error failure) :
    handle .timer i hub = (.error failure, hub) := by
  rw [handle_apply]
  unfold outcome handled timerTasks
  dsimp only
  rw [h]
  exact congrArg (Prod.mk _) hub.planned_nil

theorem handle_timer_of_asks (h : Asks i n) (hn : n < 2 ^ 64) :
    handle .timer i hub =
      (.ok { text := answerText n }, { hub with tasks := hub.tasks ++ [hub.timerTask n] }) := by
  have hseconds := seconds_of_asks h
  rw [if_pos hn] at hseconds
  rw [handle_apply]
  unfold outcome handled timerTasks
  dsimp only
  rw [hseconds]
  rfl

theorem handle_timer_of_overflow (h : Asks i n) (hn : 2 ^ 64 ≤ n) :
    handle .timer i hub = (.error overflow, hub) := by
  have hseconds := seconds_of_asks h
  rw [if_neg (Nat.not_lt.mpr hn)] at hseconds
  exact handle_timer_of_error hub hseconds

/-- What the handler promises: the timer that is asked for if its seconds have 64 bits, to
run exactly so long, and an error about a parameter, with no timer, in any other case. -/
structure ExactTimer (i : Intent) (hub : Hub) : Prop where
  starts : ∀ n, Asks i n → n < 2 ^ 64 →
    handle .timer i hub =
      (.ok { text := "I've set a timer for " ++ Decimal.text n ++ " seconds from now" },
        { hub with
          tasks := hub.tasks ++
            [{ due := Deadline.after hub.now (1000 * n), job := .timer n }] })
  refuses : (∀ n, Asks i n → ¬ n < 2 ^ 64) →
    ∃ e, ((∃ name, e = .missingParameter name) ∨ ∃ name value, e = .invalidParameter name value) ∧
      handle .timer i hub = (.error (.error e), hub)

theorem not_exactTimer_of_overflow (h : Asks i n) (hn : 2 ^ 64 ≤ n) : ¬ ExactTimer i hub := by
  intro hexact
  have hlarge (m : Nat) (hm : Asks i m) : ¬ m < 2 ^ 64 := by
    rw [← h.unique hm]
    exact Nat.not_lt.mpr hn
  obtain ⟨e, -, hrefused⟩ := hexact.refuses hlarge
  rw [handle_timer_of_overflow hub h hn] at hrefused
  cases congrArg Prod.fst hrefused

/-- The promise is kept unless the seconds that are asked for overflow.  Then the handler
panics, and starts no timer. -/
theorem exactTimer_iff_no_overflow (i : Intent) (hub : Hub) :
    (ExactTimer i hub ↔ ∀ n, Asks i n → n < 2 ^ 64) ∧
      (∀ n, Asks i n → 2 ^ 64 ≤ n →
        handle .timer i hub =
          (.error (.panic (some "attempt to multiply with overflow")), hub)) ∧
      ∀ e, Faults i e → handle .timer i hub = (.error (.error e), hub) := by
  have hfaults (e : HandlerError) (h : Faults i e) :
      handle .timer i hub = (.error (.error e), hub) :=
    handle_timer_of_error hub (seconds_of_faults h)
  refine ⟨⟨fun hexact n hasks => ?_, fun hsmall => ⟨fun n hasks hn => ?_, fun hlarge => ?_⟩⟩,
    fun n hasks hn => handle_timer_of_overflow hub hasks hn, hfaults⟩
  · by_contra hn
    exact not_exactTimer_of_overflow hub hasks (Nat.not_lt.mp hn) hexact
  · exact handle_timer_of_asks hub hasks hn
  · -- nothing that is asked for overflows, so a refusal means that nothing is asked for
    rcases asks_or_faults i with ⟨n, hasks⟩ | ⟨e, hfault⟩
    · exact absurd (hsmall n hasks) (hlarge n hasks)
    · exact ⟨e, hfault.isAboutParameter, hfaults e hfault⟩

def quietHub : Hub :=
  Session.start {} ⟨12, 34⟩ (.ofOutput "Kitchen" (.device 0)) none .selected 0

def timerIntent (amount unit : String) : Intent :=
  { name := setIntent, text := "set a timer"
    parameters := Dict.ofList [(amountParameter, amount), (unitParameter, unit)] }

theorem exactTimer_iff_no_overflow_quarter :
    Asks (timerIntent "+015" "minutes") 900 ∧
      ExactTimer (timerIntent "+015" "minutes") quietHub ∧
      (handle .timer (timerIntent "+015" "minutes") quietHub).2.tasks =
        [{ due := 900000, job := .timer 900 }] := by
  have hamount : Amount (timerIntent "+015" "minutes") 15 := (word64?_of_amount rfl).mp rfl
  have hasks : Asks (timerIntent "+015" "minutes") 900 := .minutes hamount rfl
  have hexact : ExactTimer (timerIntent "+015" "minutes") quietHub := by
    refine (exactTimer_iff_no_overflow _ quietHub).1.mpr fun n hn => ?_
    rw [← hasks.unique hn]
    decide
  have hstarts := hexact.starts 900 hasks (by decide)
  exact ⟨hasks, hexact, by rw [hstarts]; decide +kernel⟩

theorem not_exactTimer_endless :
    Asks (timerIntent "307445734561825861" "minutes") (60 * 307445734561825861) ∧
      handle .timer (timerIntent "307445734561825861" "minutes") quietHub =
        (.error (.panic (some "attempt to multiply with overflow")), quietHub) ∧
      ¬ ExactTimer (timerIntent "307445734561825861" "minutes") quietHub := by
  have hamount : Amount (timerIntent "307445734561825861" "minutes") 307445734561825861 :=
    (word64?_of_amount rfl).mp rfl
  have hasks : Asks (timerIntent "307445734561825861" "minutes") (60 * 307445734561825861) :=
    .minutes hamount rfl
  exact ⟨hasks, handle_timer_of_overflow quietHub hasks (by decide),
    not_exactTimer_of_overflow quietHub hasks (by decide)⟩

end Hub

end VoiceHub
