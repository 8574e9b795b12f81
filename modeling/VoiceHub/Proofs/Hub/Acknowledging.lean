import VoiceHub.Proofs.Dispatch.Confinement
import VoiceHub.Proofs.Hub.Leading
import VoiceHub.Proofs.Publishing.Requests

/-!
# The answer to a selection

An intent to select is answered by the output that it finds.  If it finds none, the
output that is selected apologizes and stays selected.  Either way the text is posted
once to where that output speaks, and nothing else is called.
-/

namespace VoiceHub

def Backend.speech (b : Backend) (text : String) : OutRequest :=
  { method := "POST", url := b.root ++ "/" ++ "text-to-speech", body := text }

namespace World

/-- The text is posted to the backend if its URL can be asked and the network be reached,
and nothing else is called. -/
def Says (b : Backend) (text : String) (w w' : World) : Prop :=
  Asked (if Backend.isAskable (b.speech text).url && w.isServing then [b.speech text] else []) w w'

namespace Says

variable {b : Backend} {text : String} {w w' w'' : World}

theorem speak (b : Backend) (text : String) (w : World) : Says b text w (b.speak text w).2 :=
  (Backend.send_spec (b.speech text) w).2

theorem after_told (h : Says b text w' w'') (htold : Asked [] w w') : Says b text w w'' := by
  unfold Says at h
  rw [htold.isServing_eq] at h
  exact htold.trans h

theorem then_told (h : Says b text w w') (htold : Asked [] w' w'') : Says b text w w'' := by
  have hboth := Asked.trans h htold
  rwa [List.append_nil] at hboth

theorem orTell (b : Backend) (text : String) (failure : SpeakerError → Record) (w : World) :
    Says b text w ((b.speak text).orTell failure w).2 := by
  have hspeak := speak b text w
  rw [Act.orTell_snd]
  cases (b.speak text w).1 with
  | ok _ => exact hspeak
  | error e => exact hspeak.then_told (.logged _ _)

end Says

end World

/-- What becomes of an intent to select: its output speaks, or the one before apologizes. -/
structure Config.Acknowledges (c : Config) (i : Intent) (hub after : Hub) : Prop where
  selected : ∀ name, c.selector.chosen? i = some name →
    after.selector.currentName = name ∧
      World.Says (c.backendOf name) "I'm here" hub.world after.world
  refused : c.selector.chosen? i = none →
    after.selector = hub.selector ∧
      World.Says (c.backendOf hub.selector.currentName)
        ("Something went wrong while handling your request: " ++ i.text) hub.world after.world

namespace Hub

section Selecting

variable {c : Config} {hub : Hub} (h : hub.wiring = c.wiring)

include h

theorem says_answered (i : Intent) {response : Response} (htext : response.text ≠ "") :
    World.Says (c.backendOf hub.selector.currentName) response.text hub.world
      (hub.answered i response).world := by
  have hvoice : hub.answerVoice = some .selected := congrArg Wiring.answerVoice h
  unfold answered
  rw [hvoice]
  dsimp only
  rw [if_neg htext, uttered_eq, output_selected h]
  exact World.Says.orTell _ _ _ _

theorem replied_selecting {i : Intent} (hname : i.name = Selector.selectIntent) :
    let told := hub.logged (dispatchRecord (.speakerSelect c.selector) i)
    hub.replied i =
      ((told.outcome .speakerSelect i).reply i.text,
        (told.handled .speakerSelect i).reported (.speakerSelect c.selector) i
          (told.outcome .speakerSelect i)) := by
  have hroute : hub.registry.route? i.name = some (.speakerSelect c.selector) := by
    rw [route?_of_wiring h, hname]
    rfl
  simp [replied, hroute, Handler.speakerSelect]

/-- The hub is about to speak; only its selection and the log have changed. -/
structure Ready (hub : Hub) (selector : Selector) (ready : Hub) : Prop where
  wiring : ready.wiring = hub.wiring
  selector : ready.selector = selector
  told : World.Asked [] hub.world ready.world

theorem replied_of_chosen {i : Intent} (hname : i.name = Selector.selectIntent) {name : String}
    (hchosen : c.selector.chosen? i = some name) :
    ∃ selected ready, selected.currentName = name ∧ Ready hub selected ready ∧
      hub.replied i = ({ text := "I'm here" }, ready) := by
  have houtputs : hub.selector.outputs = c.selector.outputs := congrArg Wiring.outputs h
  rw [← Selector.chosen?_congr houtputs] at hchosen
  obtain ⟨selected, hanswer, hsame, hcurrent⟩ := Selector.answer_of_chosen hchosen
  let told := hub.logged (dispatchRecord (.speakerSelect c.selector) i)
  refine ⟨selected, { told with selector := selected }.logged (selectionRecord selected),
    hcurrent, ⟨?_, rfl, ?_⟩, ?_⟩
  · exact congrArg (fun outputs => { hub.wiring with outputs }) hsame
  · exact (World.Asked.logged _ _).trans (.logged _ _)
  · have htold : told.selector.answer i = .ok ({ text := "I'm here" }, selected) := hanswer
    rw [replied_selecting h hname]
    unfold outcome handled
    dsimp only
    rw [htold]
    rfl

theorem replied_of_not_chosen {i : Intent} (hname : i.name = Selector.selectIntent)
    (hchosen : c.selector.chosen? i = none) :
    ∃ ready, Ready hub hub.selector ready ∧
      hub.replied i = ({ text := apologyText i.text }, ready) := by
  have houtputs : hub.selector.outputs = c.selector.outputs := congrArg Wiring.outputs h
  rw [← Selector.chosen?_congr houtputs] at hchosen
  obtain ⟨failure, hanswer⟩ := Selector.answer_of_not_chosen hchosen
  let told := hub.logged (dispatchRecord (.speakerSelect c.selector) i)
  refine ⟨told.logged (failureRecord (.speakerSelect c.selector) i failure),
    ⟨rfl, rfl, ?_⟩, ?_⟩
  · exact (World.Asked.logged _ _).trans (.logged _ _)
  · have htold : told.selector.answer i = .error failure := hanswer
    rw [replied_selecting h hname]
    unfold outcome handled
    dsimp only
    rw [htold]
    rfl

theorem says_dispatch {i : Intent} {response : Response} {selector : Selector} {ready : Hub}
    (hready : Ready hub selector ready) (hreplied : hub.replied i = (response, ready))
    (htext : response.text ≠ "") :
    (dispatch i hub).2.selector = selector ∧
      World.Says (c.backendOf selector.currentName) response.text hub.world
        (dispatch i hub).2.world := by
  obtain ⟨hwiring, rfl, htold⟩ := hready
  have hspeech := (says_answered (hwiring.trans h) i htext).after_told htold
  obtain ⟨w, hw⟩ := answered_eq i ready response
  rw [dispatch_apply, hreplied]
  exact ⟨by rw [hw], hspeech⟩

theorem acknowledges_dispatch {i : Intent} (hname : i.name = Selector.selectIntent) :
    c.Acknowledges i hub (dispatch i hub).2 := by
  constructor
  · intro name hchosen
    obtain ⟨selected, ready, rfl, hready, hreplied⟩ := replied_of_chosen h hname hchosen
    obtain ⟨hselector, hspeech⟩ := says_dispatch h hready hreplied (by decide)
    exact ⟨congrArg Selector.currentName hselector, hspeech⟩
  · intro hchosen
    obtain ⟨ready, hready, hreplied⟩ := replied_of_not_chosen h hname hchosen
    have htext : apologyText i.text ≠ "" := fun hempty =>
      absurd (String.append_eq_empty_iff.mp hempty).1 (by decide)
    obtain ⟨hselector, hspeech⟩ := says_dispatch h hready hreplied htext
    exact ⟨hselector, hspeech⟩

omit h in
theorem serve_of_asked {request : Http.Request} {i : Intent} (hasked : request.asked? = some i) :
    ∃ (told said : Record) (tasks : List Task),
      (serve request hub).2 = ((dispatch i (hub.logged told)).2.planned tasks).logged said := by
  unfold Http.Request.asked? at hasked
  split at hasked
  next hasks =>
    unfold Payload.askedInBytes? at hasked
    split at hasked
    next hlength =>
      cases hdecode : Utf8.decode request.body with
      | error e => simp [hdecode] at hasked
      | ok text =>
          rw [hdecode] at hasked
          dsimp only [Payload.askedIn?] at hasked
          cases hpayload : Payload.ofText text with
          | error e => simp [hpayload] at hasked
          | ok p =>
              rw [hpayload] at hasked
              dsimp only [Payload.asked?] at hasked
              split at hasked
              next hrecognized =>
                cases hasked
                have hreceive : serve request hub = receive text hub := by
                  rw [serve_of_posts hasks.1 hasks.2, receiveBytes,
                    if_neg (Nat.not_lt.mpr hlength), hdecode]
                rw [hreceive, receive_of_ofText hpayload, respond_of_recognized hrecognized]
                exact ⟨_, _, _, rfl⟩
              next => cases hasked
    next => cases hasked
  next => cases hasked

theorem acknowledges_serve {request : Http.Request} {i : Intent}
    (hasked : request.asked? = some i) (hname : i.name = Selector.selectIntent) :
    c.Acknowledges i hub (serve request hub).2 := by
  obtain ⟨told, said, tasks, hserve⟩ := @serve_of_asked hub request i hasked
  have htold : (hub.logged told).wiring = c.wiring := h
  have hdispatch := acknowledges_dispatch htold hname
  have hbefore : World.Asked [] hub.world (hub.logged told).world := .logged _ _
  rw [hserve]
  constructor
  · intro name hchosen
    obtain ⟨hcurrent, hspeech⟩ := hdispatch.selected name hchosen
    exact ⟨hcurrent, (hspeech.after_told hbefore).then_told (.logged _ _)⟩
  · intro hchosen
    obtain ⟨hselector, hspeech⟩ := hdispatch.refused hchosen
    exact ⟨hselector, (hspeech.after_told hbefore).then_told (.logged _ _)⟩

end Selecting

end Hub

end VoiceHub
