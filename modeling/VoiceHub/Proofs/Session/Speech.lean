import VoiceHub.Proofs.Hub.Acknowledging

/-!
# Speech follows the selection

Whatever is done to the hub of a configuration, speech goes to the root of the
output that was selected last, and everything else to the main backend.  What the
log tells of selections is what the intents have asked for, one by one.
-/

namespace VoiceHub

/-- The output that a step selects: by an intent that is dispatched or posted, by a
handler that is asked directly, or by hand. -/
def Config.selection? (c : Config) : Session.Step → Option String
  | .dispatch i => c.chosen? i
  | .request request => request.asked?.bind c.chosen?
  | .call .speakerSelect i => c.selector.chosen? i
  | .select name => c.selector.names.find? fun other => Selector.sameName other name
  | _ => none

namespace Session

open Hub

section Steps

variable {c : Config} {hub : Hub} (h : hub.wiring = c.wiring)

include h

theorem led_act {step : Step} (hstep : step.registers = false) :
    Led c (c.selection? step).toList hub (act step hub).2 := by
  unfold act
  rw [bind_apply, get_apply]
  cases step with
  | register | builtin => cases hstep
  | names | contains | count | definitions | compile | outputs | state | advance
    | dropSender | dropTimer | dropReceiver => exact led_of_eq rfl rfl rfl
  | setSpeakerFault | setPublishFaults | setListenFault | addReplies =>
      exact led_of_eq rfl rfl rfl
  | dispatch i => exact led_dispatch h i
  | request request => exact led_serve h request
  | update => exact led_update h
  | trigger t => exact led_deliver h t
  | speak text => exact led_speak h text
  | call b i =>
      have hasked : Led c (selections c.selector i b.behaviour) hub
          (handle b.behaviour i hub).2 := by
        rw [handle_apply]
        exact led_handled h b.behaviour i
      cases b with
      | timer =>
          dsimp only
          split
          · exact .refl hub
          · exact hasked
      | _ => exact hasked
  | emit t =>
      dsimp only
      split
      · exact led_emit t
      · exact .refl hub
  | tryReceive => exact led_take
  | receive =>
      dsimp only
      split
      · next hheld =>
          rw [bind_apply, poll_of_held hheld]
          exact led_of_eq rfl rfl rfl
      · exact .refl hub
  | pump =>
      dsimp only
      rw [bind_apply]
      by_cases hheld : hub.channel.receiver = .held
      · rw [pump_of_held hheld (Nat.le_refl _)]
        let taken := hub.withChannel (hub.channel.shortened hub.channel.queue.length)
        have htaken : Led c [] hub taken := led_of_eq rfl rfl rfl
        exact htaken.trans_nil (led_foldl_delivered (htaken.wiring.trans h) _)
      · rw [pump_of_not_held hheld]
        exact .refl hub
  | run =>
      dsimp only
      split
      · exact led_of_eq rfl rfl rfl
      · exact .refl hub
  | select name =>
      have houtputs : hub.selector.outputs = c.selector.outputs := congrArg Wiring.outputs h
      have hnames : c.selector.names = hub.selector.names := by
        unfold Selector.names
        rw [houtputs]
      dsimp only [Config.selection?]
      rw [hnames, ← Selector.map_currentName_select?]
      cases hselect : hub.selector.select? name with
      | none => exact .refl hub
      | some selected => exact led_selected (Selector.outputs_select? hselect)

theorem led_performed {step : Step} (hstep : step.registers = false) :
    Led c (c.selection? step).toList hub (performed hub step) := by
  have hact := led_act h hstep
  rw [performed_eq]
  exact hact.trans_nil (led_settle (hact.wiring.trans h))

/-- Along a run, what the steps select is selected, in their order, and every request
goes where it should at its time. -/
theorem led_run {steps : List Step} (hsteps : ∀ step ∈ steps, step.registers = false) :
    Led c (steps.filterMap c.selection?) hub (run steps hub).2 := by
  rw [run_snd]
  induction steps generalizing hub with
  | nil => exact .refl hub
  | cons step steps ih =>
      obtain ⟨hstep, hrest⟩ := List.forall_mem_cons.mp hsteps
      have hfirst := led_performed h hstep
      have hlater := hfirst.trans (ih (hfirst.wiring.trans h) hrest)
      have hchosen : (step :: steps).filterMap c.selection? =
          (c.selection? step).toList ++ steps.filterMap c.selection? := by
        rw [List.filterMap_cons]
        cases c.selection? step <;> rfl
      rw [hchosen]
      exact hlater

end Steps

/-- How the hub of a configuration has spoken when the steps are done, and what it will
say to the next intent that selects. -/
structure SpeaksAsSelected (c : Config) (world : World) (steps : List Step) (hub : Hub) :
    Prop where
  /-- The log tells of the selections one by one, and a request goes where it should while
  the output is selected that the log told last. -/
  journal : ∃ events, hub.world.journal = world.journal ++ events ∧
    events.filterMap Event.selected? = steps.filterMap c.selection? ∧
    ∀ before e after, events = before ++ e :: after → ∀ url, e.Asks url →
      c.Addressed (selectedAfter c.defaultSpeaker before) url
  current : hub.selector.currentName =
    (steps.filterMap c.selection?).getLast?.getD c.defaultSpeaker
  output : hub.selector.currentOutput = .backend (c.backendOf hub.selector.currentName)
  dispatched : ∀ i : Intent, i.name = Selector.selectIntent →
    c.Acknowledges i hub (dispatch i hub).2
  posted : ∀ (request : Http.Request) (i : Intent), request.asked? = some i →
    i.name = Selector.selectIntent → c.Acknowledges i hub (serve request hub).2
  mainRoot : c.backend.IsAt c.apiUrl
  roots : ∀ name, (c.backendOf name).IsAt ((c.speakers.find? name).getD c.apiUrl)

theorem wiring_ofConfig (c : Config) (world : World) (clock : TimeOfDay) :
    (Hub.ofConfig c world clock).wiring = c.wiring := by
  obtain ⟨records, -, hhub⟩ := Hub.ofConfig_apply c world clock
  rw [hhub]
  rfl

/-- Whatever happens to the hub of a configuration, it speaks at the root of the output
that was selected last, and does everything else at the main backend. -/
theorem speech_follows_selection (c : Config) (world : World) (clock : TimeOfDay)
    {steps : List Step} (hsteps : ∀ step ∈ steps, step.registers = false) :
    SpeaksAsSelected c world steps (run steps (Hub.ofConfig c world clock)).2 := by
  have hwiring := wiring_ofConfig c world clock
  have hled := led_run hwiring hsteps
  have hfinal := hled.wiring.trans hwiring
  obtain ⟨records, horigin, hhub⟩ := Hub.ofConfig_apply c world clock
  have hstart : (Hub.ofConfig c world clock).selector.currentName = c.defaultSpeaker := by
    rw [hhub]
    exact c.currentName_selector
  have hsetup : ∀ e ∈ records.map Event.log,
      e.StaysWithin (Config.Calls c c.defaultSpeaker) := by
    intro e he
    obtain ⟨r, hr, rfl⟩ := List.mem_map.mp he
    refine Event.staysWithin_log ?_
    rcases horigin r hr with hregistry | hsetup
    · rw [hregistry]
      rfl
    · rw [hsetup]
      rfl
  obtain ⟨hnone, hquiet⟩ := Config.directed_of_staysWithin hsetup
  obtain ⟨events, hjournal, hchosen, hdirected⟩ := hled.journal
  rw [hstart] at hdirected
  -- the set-up comes first in the journal; it selects nothing and calls nobody
  have hall : c.Directed c.defaultSpeaker (records.map Event.log ++ events) := by
    refine Config.directed_append.mpr ⟨hquiet, ?_⟩
    rw [selectedAfter, hnone]
    exact hdirected
  refine ⟨⟨records.map .log ++ events, ?_, ?_, ?_⟩, ?_, ?_, ?_, ?_, ?_, ?_⟩
  · rw [hjournal, hhub, List.append_assoc]
  · rw [List.filterMap_append, hnone, hchosen, List.nil_append]
  · intro before e after hsplit url hasks
    rw [hsplit, Config.directed_append] at hall
    exact (hall.2.1 url hasks).addressed
  · rw [hled.current, hstart]
  · exact c.currentOutput_of_outputs (congrArg Hub.Wiring.outputs hfinal)
  · exact fun i hname => acknowledges_dispatch hfinal hname
  · exact fun request i hasked hname => acknowledges_serve hfinal hasked hname
  · exact Backend.isAt_ofUrl c.apiUrl
  · exact c.isAt_backendOf

def twoRooms : Config :=
  { apiUrl := "http://[::1]/api//", defaultSpeaker := "Den"
    speakers := Dict.ofList [("Attic", "http://[::2]/"), ("Den", "http://[::3]")] }

theorem selector_twoRooms :
    twoRooms.selector =
      ((Selector.ofOutput "Den" (.backend ⟨"http://[::1]/api"⟩)).withOutput "Attic"
        (.backend ⟨"http://[::2]"⟩)).withOutput "Den" (.backend ⟨"http://[::3]"⟩) := by
  have hsorted : twoRooms.speakers.sortedEntries =
      [("Attic", "http://[::2]/"), ("Den", "http://[::3]")] :=
    Dict.sortedEntries_eq (by decide) (by decide)
  unfold Config.selector
  rw [hsorted]
  rfl

def talkOn (name : String) : Intent :=
  { name := Selector.selectIntent, text := "talk to me on the " ++ name
    parameters := Dict.ofList [(Selector.speakerParameter, name)] }

def upstairs : List Step :=
  [.update, .trigger (.reminder "tea"), .dispatch (talkOn "ATTIC"),
    .dispatch (talkOn "cellar"), .trigger (.reminder "supper")]

theorem speech_follows_selection_upstairs :
    let hub := (run upstairs (Hub.ofConfig twoRooms { network := .serving [] } ⟨12, 34⟩)).2
    (∀ step ∈ upstairs, step.registers = false) ∧
      upstairs.filterMap twoRooms.selection? = ["Attic"] ∧
      hub.world.requests =
        [{ method := "POST", url := "http://[::1]/api/sentences"
           body :=
            "[GetTime]\nWhat time is it\n\n[SetTimer]\nSet a timer for " ++
              "(0..60)\x7bAmount!int\x7d (seconds | minutes)\x7bTimeUnit\x7d [from now]\n\n" ++
              "[HoldNotifications]\nBlock notifications\n\n" ++
              "[ResumeNotifications]\nResume notifications\n\n" ++
              "[GetNumberOfNotifications]\nHow many notifications are in the queue\n\n" ++
              "[GetFirstNotification]\nTell me the first notification\n\n" ++
              "[SelectSpeaker]\nTalk to me on [the] (Den | Attic)\x7bSpeaker\x7d" },
          { method := "POST", url := "http://[::1]/api/train?nocache=true" },
          { method := "POST", url := "http://[::3]/text-to-speech", body := "tea" },
          { method := "POST", url := "http://[::2]/text-to-speech", body := "I'm here" },
          { method := "POST", url := "http://[::2]/text-to-speech"
            body := "Something went wrong while handling your request: " ++
              "talk to me on the cellar" },
          { method := "POST", url := "http://[::2]/text-to-speech", body := "supper" }] ∧
      SpeaksAsSelected twoRooms { network := .serving [] } upstairs hub := by
  intro hub
  have hsteps : ∀ step ∈ upstairs, step.registers = false := by
    simp [upstairs, Step.registers]
  refine ⟨hsteps, ?_, ?_, speech_follows_selection twoRooms _ _ hsteps⟩
  · unfold upstairs
    simp only [List.filterMap_cons, Config.selection?, Config.chosen?, selector_twoRooms]
    decide
  · unfold hub Hub.ofConfig Config.bareHub
    rw [selector_twoRooms]
    decide +kernel

end Session

end VoiceHub
