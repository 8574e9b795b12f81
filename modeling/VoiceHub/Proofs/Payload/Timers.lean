import VoiceHub.Proofs.Hub.Receiving
import VoiceHub.Proofs.Payload.Slots
import VoiceHub.Proofs.Setup.Builtins
import VoiceHub.Proofs.Timer.Duration

/-!
# A timer that is posted

What a slot gives as a number or as its digits is the number that the timer runs, whatever
else is in the document.  A number below zero gives a text that is no amount.
-/

namespace VoiceHub

open Json

namespace Json.Document

def GivesAmount (d : Document) (n : Nat) : Prop :=
  (∃ spelling, d.slot? Timer.amountParameter = some (.number spelling) ∧
    WritesInteger spelling n) ∨
  d.slot? Timer.amountParameter = some (.text (Text.units (Decimal.digits n)))

def GivesSeconds (d : Document) : Prop :=
  d.slot? Timer.unitParameter = some (.text (Text.units "seconds".toList))

end Json.Document

namespace Payload.Conveys

variable {d : Document} {i : Intent} {n : Nat}

theorem parameter?_of_text (h : Conveys d i) {slot text : String}
    (hgiven : d.slot? slot = some (.text (Text.units text.toList))) :
    i.parameter? slot = some text := by
  obtain ⟨kept, hparameter, hunits⟩ := h.texts slot _ hgiven
  rw [hparameter, Text.units_toList_inj.mp hunits]

theorem amount (h : Conveys d i) (hamount : d.GivesAmount n) (hn : n < 2 ^ 64) :
    Timer.Amount i n := by
  have hdigits : i.parameter? Timer.amountParameter = some (Decimal.text n) := by
    rcases hamount with ⟨spelling, hgiven, hwrites⟩ | hgiven
    · exact h.integers _ spelling n hgiven hwrites (by omega) (by omega)
    · apply h.parameter?_of_text
      rw [hgiven, Decimal.text, String.toList_ofList]
  refine ⟨Decimal.text n, hdigits, ?_, hn⟩
  rw [Decimal.text, String.toList_ofList]
  exact .inl (Decimal.numeral_digits n)

theorem asks (h : Conveys d i) (hamount : d.GivesAmount n) (hn : n < 2 ^ 64)
    (hseconds : d.GivesSeconds) : Timer.Asks i n :=
  .seconds (h.amount hamount hn) (h.parameter?_of_text hseconds)

theorem faults_of_neg (h : Conveys d i) {spelling : List Char} {z : Int}
    (hgiven : d.slot? Timer.amountParameter = some (.number spelling))
    (hwrites : WritesInteger spelling z) (hleast : -2 ^ 63 ≤ z) (hneg : z < 0) :
    Timer.Faults i (.invalidParameter Timer.amountParameter (Decimal.intText z)) := by
  have hparameter := h.integers _ spelling z hgiven hwrites hleast (by omega)
  apply Timer.Faults.amountInvalid hparameter
  rintro n ⟨text, htext, hspells, -⟩
  rw [hparameter] at htext
  rw [← Option.some.inj htext, Decimal.toList_intText] at hspells
  exact Decimal.not_spells_ofInt_of_neg hneg hspells

end Payload.Conveys

namespace Hub

variable {hub : Hub}

def KeepsTime (hub : Hub) : Prop :=
  ∃ h, hub.registry.route? Timer.setIntent = some h ∧ h.behaviour = .timer

/-- A hub that is set up keeps time, as long as no handler is registered later. -/
theorem keepsTime_run (c : Config) (world : World) (clock : TimeOfDay) {steps : List Session.Step}
    (hsteps : ∀ step ∈ steps, step.registers = false) :
    (Session.run steps (ofConfig c world clock)).2.KeepsTime := by
  have howner : Builtin.owner? Timer.setIntent = some .timer := by decide
  refine ⟨Builtin.timer.handler c.selector, ?_, Builtin.behaviour_handler _ _⟩
  rw [Session.registry_run hsteps, registry_ofConfig, route?_ofHandlers_builtinHandlers
    c.isRebuilt_selector, howner]
  rfl

theorem dispatch_timer (h : hub.KeepsTime) {i : Intent} (hname : i.name = Timer.setIntent) :
    (dispatch i hub).1 = (hub.outcome .timer i).reply i.text ∧
      (dispatch i hub).2.tasks = hub.tasks ++ hub.timerTasks .timer i := by
  obtain ⟨handler, hroute, hbehaviour⟩ := h
  rw [← hname] at hroute
  constructor
  · rw [dispatch_apply, replied, hroute]
    dsimp only
    rw [invoke_apply, handle_apply, hbehaviour]
    rfl
  · have htasks := (quiet_dispatch i hub).view_eq tasks fun _ _ _ _ => rfl
    rw [htasks, planned, dispatchTasks, hroute]
    dsimp only
    rw [hbehaviour]

theorem continues_reply_timer (i : Intent) (utterance : String) :
    ((hub.outcome .timer i).reply utterance).continues = false := by
  unfold outcome
  dsimp only
  cases Timer.seconds i <;> rfl

theorem serve_timer (h : hub.KeepsTime) {request : Http.Request} {body : String} {p : Payload}
    (hposts : request.PostsIntent body) (hp : Payload.ofText body = .ok p)
    (hname : p.name = Timer.setIntent) (htext : p.text ≠ "") :
    (serve request hub).1.Replies Timer.setIntent
        ((hub.outcome .timer p.toIntent).reply p.text).text ∧
      (serve request hub).2.tasks = hub.tasks ++ hub.timerTasks .timer p.toIntent := by
  have hsome : p.intentName = some Timer.setIntent := by
    rw [Payload.name] at hname
    cases hintent : p.intentName with
    | none =>
        rw [hintent] at hname
        exact absurd hname (by decide)
    | some name =>
        rw [hintent] at hname
        exact congrArg some hname
  obtain ⟨response, after, events, hdispatch, -, hreplies, hserved⟩ :=
    (received body hub).recognized p _ hp hsome (by decide) htext
  obtain ⟨hresponse, htasks⟩ := dispatch_timer h (i := p.toIntent) hname
  rw [hdispatch] at hresponse htasks
  dsimp only at hresponse htasks
  have hends : response.continues = false := by
    rw [hresponse]
    exact continues_reply_timer _ _
  rw [serve_of_postsIntent hposts]
  refine ⟨hresponse ▸ hreplies, ?_⟩
  rw [← htasks, hserved, hends]
  exact List.append_nil _

/-- What posting the document to set a timer comes to. -/
structure SetsTimer (d : Document) (utterance : String) (hub : Hub) (served : Http.Answer × Hub) :
    Prop where
  starts : ∀ n, n < 2 ^ 64 → d.GivesAmount n → d.GivesSeconds →
    served.1.Replies "SetTimer"
        ("I've set a timer for " ++ Decimal.text n ++ " seconds from now") ∧
      served.2.tasks =
        hub.tasks ++ [{ due := Deadline.after hub.now (1000 * n), job := .timer n }] ∧
      (hub.now + 1000 * n ≤ 18446744073709551612 →
        Deadline.after hub.now (1000 * n) = hub.now + 1000 * n)
  refuses : ∀ spelling z, d.slot? Timer.amountParameter = some (.number spelling) →
    WritesInteger spelling z → -2 ^ 63 ≤ z → z < 0 →
      served.1.Replies "SetTimer"
          ("Something went wrong while handling your request: " ++ utterance) ∧
        served.2.tasks = hub.tasks

theorem setsTimer_serve (h : hub.KeepsTime) {request : Http.Request} {body : String} {p : Payload}
    {d : Document} (hposts : request.PostsIntent body) (hp : Payload.ofText body = .ok p)
    (hd : Payload.Conveys d p.toIntent) (hname : p.name = Timer.setIntent) (htext : p.text ≠ "") :
    SetsTimer d p.text hub (serve request hub) := by
  obtain ⟨hanswer, htasks⟩ := serve_timer h hposts hp hname htext
  rw [timerTasks] at htasks
  rw [outcome] at hanswer
  constructor
  · intro n hn hamount hseconds
    have hasked := Timer.seconds_of_asks (hd.asks hamount hn hseconds)
    rw [if_pos hn] at hasked
    rw [hasked] at htasks hanswer
    exact ⟨hanswer, htasks, Deadline.after_eq⟩
  · intro spelling z hgiven hwrites hleast hneg
    have hfault := Timer.seconds_of_faults (hd.faults_of_neg hgiven hwrites hleast hneg)
    rw [hfault] at htasks hanswer
    rw [List.append_nil] at htasks
    exact ⟨hanswer, htasks⟩

/-- A text that is accepted says one document.  The intent has all of its slots that are not
null, and a timer that it sets runs as long as the document says. -/
theorem slots_reach_timer {body : String} {p : Payload} (h : Payload.ofText body = .ok p) :
    (∃ d, Says body d) ∧
      (∀ d, Says body d →
        Payload.Conveys d p.toIntent ∧
          (p.name = Timer.setIntent → p.text ≠ "" →
            ∀ (hub : Hub) (request : Http.Request), hub.KeepsTime → request.PostsIntent body →
              SetsTimer d p.text hub (serve request hub))) ∧
      ∀ (c : Config) (world : World) (clock : TimeOfDay) (steps : List Session.Step),
        (∀ step ∈ steps, step.registers = false) →
          (Session.run steps (ofConfig c world clock)).2.KeepsTime := by
  obtain ⟨d, hd, hname, htext, hslots⟩ := Payload.says_of_ofText h
  have hconveys := Payload.conveys hname htext hslots
  refine ⟨⟨d, hd⟩, fun d' hd' => ?_, fun c world clock _ => keepsTime_run c world clock⟩
  obtain rfl := hd.unique hd'
  refine ⟨hconveys, ?_⟩
  intro hset htext hub request htime hposts
  exact setsTimer_serve htime hposts h hconveys hset htext

def waitJson (amount : Json) : Json :=
  .object
    [("text", .text "wait"), ("wakeId", .null),
     ("intent", .object [("confidence", .int 1), ("name", .text "SetTimer")]),
     ("slots", .object
       [("Amount", .null), ("Room", .text "the \"attic\""), ("Amount", amount),
        ("TimeUnit", .text "seconds")])]

def waitRequest (amount : Json) : Http.Request :=
  { method := "POST", target := "/api/intent", body := Utf8.encode (waitJson amount).compact }

def waitingHub : Hub := (Session.run [.advance 2500] (ofConfig {} {} ⟨12, 34⟩)).2

theorem slots_reach_timer_wait :
    let served (amount : Json) := serve (waitRequest amount) waitingHub
    (∃ p, Payload.ofText (waitJson (.int 18446744073709551615)).compact = .ok p ∧
        p.toIntent.parameter? "Room" = some "the \"attic\"") ∧
      (served (.int 18446744073709551615)).1.Replies "SetTimer"
        "I've set a timer for 18446744073709551615 seconds from now" ∧
      (served (.int 18446744073709551615)).2.tasks =
        [{ due := 946080002500, job := .timer 18446744073709551615 }] ∧
      (served (.text "90")).1.Replies "SetTimer" "I've set a timer for 90 seconds from now" ∧
      (served (.text "90")).2.tasks = [{ due := 92500, job := .timer 90 }] ∧
      (served (.int (-5))).1.Replies "SetTimer"
        "Something went wrong while handling your request: wait" ∧
      (served (.int (-5))).2.tasks = [] := by
  intro served
  have hset (amount : Json)
      (hview : (Payload.ofText (waitJson amount).compact).toOption.map
        (fun p => (p.name, p.text)) = some ("SetTimer", "wait"))
      (hposts : (waitRequest amount).PostsIntent (waitJson amount).compact) :
      (∃ p, Payload.ofText (waitJson amount).compact = .ok p ∧
        Payload.Conveys (waitJson amount).document p.toIntent) ∧
      SetsTimer (waitJson amount).document "wait" waitingHub (served amount) := by
    cases hp : Payload.ofText (waitJson amount).compact with
    | error e =>
        rw [hp] at hview
        cases hview
    | ok p =>
        rw [hp] at hview
        obtain ⟨hname, htext⟩ := Prod.mk.inj (Option.some.inj hview)
        obtain ⟨-, hdocument, htime⟩ := slots_reach_timer hp
        obtain ⟨hconveys, hsets⟩ := hdocument _ (says_compact (waitJson amount))
        have hready : waitingHub.KeepsTime :=
          htime {} {} ⟨12, 34⟩ _ (by simp [Session.Step.registers])
        have hserved := hsets hname (by simp [htext]) waitingHub _ hready hposts
        rw [htext] at hserved
        exact ⟨⟨p, rfl, hconveys⟩, hserved⟩
  have hlong : "I've set a timer for " ++ Decimal.text 18446744073709551615 ++
      " seconds from now" = "I've set a timer for 18446744073709551615 seconds from now" := by
    decide +kernel
  have hshort : "I've set a timer for " ++ Decimal.text 90 ++ " seconds from now" =
      "I've set a timer for 90 seconds from now" := by
    decide +kernel
  have hwaits : waitingHub.tasks = [] ∧ waitingHub.now = 2500 := by decide +kernel
  obtain ⟨⟨p, hp, hconveys⟩, hlongest⟩ :=
    hset (.int 18446744073709551615) (by decide +kernel)
      ⟨rfl, by decide +kernel, rfl, by decide +kernel⟩
  obtain ⟨hanswer, htasks, -⟩ := hlongest.starts 18446744073709551615 (by decide)
    (.inl ⟨_, rfl, .unsigned (Decimal.numeral_digits _)⟩) rfl
  obtain ⟨-, hspelled⟩ := hset (.text "90") (by decide +kernel)
    ⟨rfl, by decide +kernel, rfl, by decide +kernel⟩
  have hdigits : Decimal.digits 90 = "90".toList := by decide +kernel
  obtain ⟨hanswer', htasks', -⟩ := hspelled.starts 90 (by decide) (.inr (hdigits ▸ rfl)) rfl
  obtain ⟨-, hnegative⟩ := hset (.int (-5)) (by decide +kernel)
    ⟨rfl, by decide +kernel, rfl, by decide +kernel⟩
  obtain ⟨hapology, hnone⟩ := hnegative.refuses _ (-5) rfl
    (.negative (Decimal.numeral_digits 5) (by decide)) (by decide) (by decide)
  rw [hlong] at hanswer
  rw [hshort] at hanswer'
  rw [hwaits.1, hwaits.2] at htasks htasks'
  rw [hwaits.1] at hnone
  exact ⟨⟨p, hp, hconveys.parameter?_of_text rfl⟩, hanswer, htasks, hanswer', htasks', hapology,
    hnone⟩

end Hub

end VoiceHub
