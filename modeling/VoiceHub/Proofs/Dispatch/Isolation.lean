import VoiceHub.Proofs.Hub.Handling
import VoiceHub.Proofs.Registry
import VoiceHub.Session

/-!
# A dispatch always answers

However a handler ends and whatever the speaker does, a dispatch has an answer.
It asks one handler, or none if no handler declares the intent, then it speaks the
answer once, and it leaves the routes as they were.
-/

namespace VoiceHub

namespace Hub

theorem registry_dispatch (i : Intent) (hub : Hub) :
    (dispatch i hub).2.registry = hub.registry :=
  (quiet_dispatch i hub).view_eq registry fun _ _ _ _ => rfl

theorem answerVoice_dispatch (i : Intent) (hub : Hub) :
    (dispatch i hub).2.answerVoice = hub.answerVoice :=
  (quiet_dispatch i hub).view_eq answerVoice fun _ _ _ _ => rfl

def dispatched (hub : Hub) (i : Intent) : Hub := (dispatch i hub).2

theorem foldl_dispatched (hub : Hub) (intents : List Intent) :
    (intents.foldl dispatched hub).registry = hub.registry ∧
      (intents.foldl dispatched hub).answerVoice = hub.answerVoice := by
  induction intents generalizing hub with
  | nil => exact ⟨rfl, rfl⟩
  | cons i intents ih =>
      obtain ⟨hregistry, hvoice⟩ := ih (hub.dispatched i)
      exact ⟨hregistry.trans (registry_dispatch i hub),
        hvoice.trans (answerVoice_dispatch i hub)⟩

@[simp] theorem answerVoice_replied (i : Intent) (hub : Hub) :
    (hub.replied i).2.answerVoice = hub.answerVoice :=
  (quiet_replied i hub).view_eq answerVoice fun _ _ _ _ => rfl

@[simp] theorem spoken_reported (h : Handler) (i : Intent) (outcome : Outcome) (hub : Hub) :
    (hub.reported h i outcome).spoken = hub.spoken := by
  cases outcome <;> simp [reported]

@[simp] theorem spoken_replied (i : Intent) (hub : Hub) :
    (hub.replied i).2.spoken = hub.spoken := by
  cases hroute : hub.registry.route? i.name <;> simp [replied, hroute]

end Hub

namespace Registry

def lastDeclaring? (handlers : List Handler) (i : Intent) : Option Handler :=
  handlers.reverse.find? fun h => h.declares i.name

/-- What a dispatch does, however its handler and the speaker end. -/
structure Isolated (handlers : List Handler) (hub : Hub) (i : Intent) : Prop where
  /-- No handler is asked if none declares the intent. -/
  unrouted : lastDeclaring? handlers i = none →
    hub.replied i =
      ({ text := "I do not know how to " ++ i.text, continues := false },
        hub.logged (Hub.unroutedRecord i))
  /-- One handler is asked once, and its answer stands. -/
  succeeded : ∀ h response after, lastDeclaring? handlers i = some h →
    Hub.handle h.behaviour i (hub.logged (Hub.dispatchRecord h i)) =
      (.ok response, after) →
    hub.replied i = (response, after)
  /-- An error and a panic are told in the log and have one apology. -/
  failed : ∀ h failure after, lastDeclaring? handlers i = some h →
    Hub.handle h.behaviour i (hub.logged (Hub.dispatchRecord h i)) =
      (.error failure, after) →
    hub.replied i =
      ({ text := "Something went wrong while handling your request: " ++ i.text
         continues := false },
        after.logged (Hub.failureRecord h i failure))
  /-- Up to here nothing is spoken. -/
  unspoken : (hub.replied i).2.spoken = hub.spoken
  silent : hub.answerVoice = none ∨ (hub.replied i).1.text = "" →
    Hub.dispatch i hub = hub.replied i
  /-- The answer is given to the speaker once and stands if the speaker fails. -/
  speaks : ∀ voice, hub.answerVoice = some voice → (hub.replied i).1.text ≠ "" →
    Hub.dispatch i hub =
      ((hub.replied i).1, (hub.replied i).2.uttered voice
        (hub.replied i).1.text (Hub.answerFailure i))
  said : ∀ voice device, hub.answerVoice = some voice →
    (hub.replied i).2.output voice = .device device →
    (Hub.dispatch i hub).2.spoken = hub.spoken ++
      if (hub.replied i).1.text = "" then []
      else [(device, (hub.replied i).1.text)]
  /-- Neither the speaker nor the rest of the world has a part in the answer. -/
  independent : ∀ answerVoice world,
    (Hub.dispatch i { hub with answerVoice, world }).1 = (Hub.dispatch i hub).1
  routes_unchanged : (Hub.dispatch i hub).2.registry = hub.registry
  speaker_unchanged : (Hub.dispatch i hub).2.answerVoice = hub.answerVoice

theorem isolated {handlers : List Handler} {hub : Hub}
    (h : hub.registry = ofHandlers handlers) (i : Intent) :
    Isolated handlers hub i := by
  have hroute : hub.registry.route? i.name = lastDeclaring? handlers i := by
    rw [h]
    exact route?_ofHandlers handlers i.name
  exact
    { unrouted := fun hnone => by
        unfold Hub.replied
        rw [hroute, hnone]
        rfl
      succeeded := fun h response after hsome hasked => by
        unfold Hub.replied
        rw [hroute, hsome]
        dsimp only
        rw [Hub.invoke_apply, hasked]
        rfl
      failed := fun h failure after hsome hasked => by
        unfold Hub.replied
        rw [hroute, hsome]
        dsimp only
        rw [Hub.invoke_apply, hasked]
        rfl
      unspoken := Hub.spoken_replied i hub
      silent := fun hsilent => by
        rcases hsilent with hnone | htext
        · simp [Hub.answered, hnone]
        · cases hvoice : hub.answerVoice <;> simp [Hub.answered, hvoice, htext]
      speaks := fun voice hsome htext => by
        simp [Hub.answered, hsome, htext]
      said := fun voice device hsome hdevice => by
        by_cases htext : (hub.replied i).1.text = ""
        · simp [Hub.answered, hsome, htext]
        · simp [Hub.answered, hsome, htext, Hub.spoken_uttered hdevice]
      independent := fun answerVoice world =>
        by apply Hub.dispatch_fst_congr <;> rfl
      routes_unchanged := Hub.registry_dispatch i hub
      speaker_unchanged := Hub.answerVoice_dispatch i hub }

/-- After any dispatches by the registered handlers the next one is isolated, and the
routes and the speaker are the first ones. -/
theorem dispatch_isolated (handlers : List Handler) (hub : Hub)
    (earlier : List Intent) (i : Intent) :
    let new : Hub := { hub with registry := ofHandlers handlers }
    let now := earlier.foldl Hub.dispatched new
    now.registry = ofHandlers handlers ∧ now.answerVoice = hub.answerVoice ∧
      Isolated handlers now i := by
  intro new now
  obtain ⟨hregistry, hvoice⟩ := Hub.foldl_dispatched new earlier
  exact ⟨hregistry, hvoice, isolated hregistry i⟩

def troublesome : List Handler :=
  [{ name := "late", definitions := [.simple "Late" "late"]
     behaviour := .custom fun _ => .error (.error (.failed "too late")) },
    { name := "wild", definitions := [.simple "Wild" "wild"]
      behaviour := .custom fun _ => .error (.panic none) },
    { name := "mute", definitions := [.simple "Mute" "mute", .simple "Late" "late"]
      behaviour := .custom fun _ => .ok { text := "", continues := true } }]

theorem dispatch_isolated_troublesome :
    let hub := Session.start { speakerFault := fun _ => some (.output "broken") }
      ⟨12, 34⟩ (.ofOutput "Kitchen" (.device 0)) (some .selected) .selected 0
    let new : Hub := { hub with registry := ofHandlers troublesome }
    let now := [{ name := "Wild", text := "go" }, { name := "Lost", text := "find" },
      { name := "Late", text := "hurry" }].foldl Hub.dispatched new
    now.spoken =
        [(0, "Something went wrong while handling your request: go"),
          (0, "I do not know how to find")] ∧
      (Hub.dispatch { name := "Late", text := "hurry" } now).1 =
        { text := "", continues := true } ∧
      Isolated troublesome now { name := "Late", text := "hurry" } := by
  intro hub new now
  obtain ⟨-, -, hisolated⟩ := dispatch_isolated troublesome hub
    [{ name := "Wild", text := "go" }, { name := "Lost", text := "find" },
      { name := "Late", text := "hurry" }] { name := "Late", text := "hurry" }
  exact ⟨rfl, rfl, hisolated⟩

end Registry

end VoiceHub
