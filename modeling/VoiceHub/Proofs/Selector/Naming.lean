import VoiceHub.Proofs.Selector.Selection
import VoiceHub.Proofs.Session.Outputs
import VoiceHub.Proofs.Slots.Growth

/-!
# Names, places and outputs

A selector shows its outputs in three ways: the names in order, the place of the current
one, and the definition that offers the names.  They agree when the outputs have been
added, and go on to agree whatever is selected, asked for and said.
-/

namespace VoiceHub

namespace Selector

variable {first : String × Output} {others : List (String × Output)} {s : Selector}

/-! ## What is shown of the outputs -/

/-- The selector shows the outputs that it was given one after the other. -/
structure Shows (given : List (String × Output)) (s : Selector) : Prop where
  names_eq : s.names = (given.map Prod.fst).eraseDups
  nodup : s.names.Nodup
  bound : ∀ name, s.outputs.find? name = lastGiven? given name
  offered : (Handler.speakerSelect s).definitions.flatMap Definition.choices =
    [{ name := speakerParameter, returned := true, values := s.names }]
  current : s.names[s.current]? = some s.currentName
  speaker : lastGiven? given s.currentName = some s.currentOutput

theorem names_ofOutputs :
    (ofOutputs first others).names = ((first :: others).map Prod.fst).eraseDups := by
  have hkeys := Dict.keys_foldl_insert Prod.fst Prod.snd others
    (ofOutput first.1 first.2).outputs
  have houtputs := outputs_foldl_withOutput id others (ofOutput first.1 first.2)
  have hentries : others.map (fun entry => (entry.1, id entry.2)) = others := List.map_id others
  rw [hentries] at houtputs
  unfold names ofOutputs
  refine (congrArg Dict.keys houtputs).trans (hkeys.trans ?_)
  simp [ofOutput, rebuildDefinitions, Dict.keys, List.eraseDups_cons, List.removeAll_cons]

theorem isRebuilt_ofOutputs : (ofOutputs first others).IsRebuilt :=
  isRebuilt_foldl_withOutput id others rfl

theorem shows_of_offer (h : s.offer = (ofOutputs first others).offer) :
    Shows (first :: others) s := by
  obtain ⟨houtputs, hdefinitions⟩ := Prod.mk.inj h
  have hnames : s.names = (ofOutputs first others).names := by
    unfold names
    rw [houtputs]
  constructor
  · rw [hnames, names_ofOutputs]
  · exact s.outputs.nodup
  · intro name
    rw [houtputs, find?_ofOutputs]
  · change s.definitions.flatMap Definition.choices = _
    rw [hdefinitions, isRebuilt_ofOutputs, hnames]
    rfl
  · exact s.currentName_eq
  · rw [← find?_ofOutputs, ← houtputs]
    exact s.find?_currentName

/-! ## Selecting -/

/-- What asking for a name comes to: the first output of that name up to the case of ASCII
letters is the current one, and if there is none, nothing has changed. -/
structure Chooses (s : Selector) (name : String) (found : Bool) (s' : Selector) : Prop where
  found_iff : found = true ↔ ∃ other ∈ s.names, sameName other name = true
  outputs_eq : s'.outputs = s.outputs
  definitions_eq : s'.definitions = s.definitions
  first : ∀ before other after, s.names = before ++ other :: after →
    sameName other name = true → (∀ earlier ∈ before, sameName earlier name = false) →
    s'.current = before.length ∧ s'.currentName = other
  missed : found = false → s' = s

theorem select?_of_first {name other : String} {before after : List String}
    (hnames : s.names = before ++ other :: after) (hsame : sameName other name = true)
    (hbefore : ∀ earlier ∈ before, sameName earlier name = false) :
    ∃ h, s.select? name = some { s with current := before.length, current_lt := h } := by
  have hplace : (s.outputs.entries.findIdx fun entry => sameName entry.1 name) =
      before.length := by
    have hmap : (s.outputs.entries.findIdx fun entry => sameName entry.1 name) =
        s.names.findIdx fun other => sameName other name := by
      rw [names, Dict.keys, List.findIdx_map]
      rfl
    have hnone : (before.findIdx fun other => sameName other name) = before.length :=
      List.findIdx_eq_length.mpr hbefore
    rw [hmap, hnames, List.findIdx_append, hnone]
    simp [List.findIdx_cons, hsame]
  have hlt : before.length < s.outputs.entries.length := by
    have hlength : s.outputs.entries.length = s.names.length := by simp [names, Dict.keys]
    rw [hlength, hnames]
    simp
  refine ⟨hlt, ?_⟩
  unfold select?
  simp only [hplace, hlt, dif_pos]

theorem select?_of_none {name : String}
    (h : ∀ other ∈ s.names, sameName other name = false) : s.select? name = none := by
  rw [← Option.map_eq_none_iff (f := currentName), map_currentName_select?]
  simpa using h

theorem chooses_of_some {name : String} {selected : Selector}
    (h : s.select? name = some selected) : Chooses s name true selected := by
  constructor
  · simp only [true_iff]
    by_contra hnone
    have hmissed : s.select? name = none := by
      apply select?_of_none
      intro other hother
      by_contra hsame
      exact hnone ⟨other, hother, by simpa using hsame⟩
    rw [hmissed] at h
    cases h
  · exact outputs_select? h
  · exact congrArg Prod.snd (offer_select? h)
  · intro before other after hnames hsame hbefore
    obtain ⟨hlt, hselect⟩ := select?_of_first hnames hsame hbefore
    obtain rfl := Option.some.inj (hselect.symm.trans h)
    refine ⟨rfl, ?_⟩
    have hcurrent := currentName_eq { s with current := before.length, current_lt := hlt }
    have hsplit : names { s with current := before.length, current_lt := hlt } =
        before ++ other :: after := hnames
    rw [hsplit] at hcurrent
    simpa using hcurrent.symm
  · intro hfound
    cases hfound

theorem chooses_of_none {name : String} (h : s.select? name = none) :
    Chooses s name false s := by
  have hnone (other : String) (hother : other ∈ s.names) : ¬ sameName other name = true := by
    rw [← Option.map_eq_none_iff (f := currentName), map_currentName_select?] at h
    exact List.find?_eq_none.mp h other hother
  constructor
  · simpa using hnone
  · rfl
  · rfl
  · intro before other after hnames hsame hbefore
    exact absurd hsame (hnone other (by simp [hnames]))
  · intro _
    rfl

end Selector

namespace Session

open Hub Selector

/-! ## Steps that select and speak -/

theorem act_select (name : String) (hub : Hub) :
    ∃ found, (act (.select name) hub).1 = .flag found ∧
      Chooses hub.selector name found (act (.select name) hub).2.selector ∧
      (found = false → (act (.select name) hub).2 = hub) := by
  unfold act
  rw [bind_apply, get_apply]
  dsimp only
  cases hselect : hub.selector.select? name with
  | some selected => exact ⟨true, rfl, chooses_of_some hselect, nofun⟩
  | none => exact ⟨false, rfl, chooses_of_none hselect, fun _ => rfl⟩

theorem handle_speakerSelect (i : Intent) (hub : Hub) :
    (i.parameter? speakerParameter = none →
      handle .speakerSelect i hub =
        (.error (.error (.missingParameter speakerParameter)), hub)) ∧
    ∀ name, i.parameter? speakerParameter = some name →
      ∃ found, (handle .speakerSelect i hub).1 =
          (if found then .ok { text := "I'm here" }
          else .error (.error (.invalidParameter speakerParameter name))) ∧
        Chooses hub.selector name found (handle .speakerSelect i hub).2.selector ∧
        (found = false → (handle .speakerSelect i hub).2 = hub) := by
  rw [handle_apply]
  unfold outcome handled Selector.answer Intent.require
  constructor
  · intro hmissing
    rw [hmissing]
    rfl
  · intro name hname
    rw [hname]
    dsimp only
    cases hselect : hub.selector.select? name with
    | some selected => exact ⟨true, rfl, chooses_of_some hselect, nofun⟩
    | none => exact ⟨false, rfl, chooses_of_none hselect, fun _ => rfl⟩

/-- The hub after outputs were given to its selector, and what it does when it is asked
next: by hand, by an intent, or to speak. -/
structure InStep (given : List (String × Output)) (hub : Hub) : Prop where
  shows : hub.selector.Shows given
  selected : ∀ name, ∃ found, (act (.select name) hub).1 = .flag found ∧
    Chooses hub.selector name found (act (.select name) hub).2.selector ∧
    (found = false → (act (.select name) hub).2 = hub)
  unasked : ∀ i : Intent, i.parameter? speakerParameter = none →
    handle .speakerSelect i hub = (.error (.error (.missingParameter speakerParameter)), hub)
  asked : ∀ (i : Intent) name, i.parameter? speakerParameter = some name →
    ∃ found, (handle .speakerSelect i hub).1 =
        (if found then .ok { text := "I'm here" }
        else .error (.error (.invalidParameter speakerParameter name))) ∧
      Chooses hub.selector name found (handle .speakerSelect i hub).2.selector ∧
      (found = false → (handle .speakerSelect i hub).2 = hub)
  /-- One output is called, the one that the current name was given last. -/
  spoken : ∃ output, lastGiven? given hub.selector.currentName = some output ∧
    ∀ text, act (.speak text) hub =
        (.spoken (output.speak text hub.world).1,
          { hub with world := (output.speak text hub.world).2 }) ∧
      ∀ device, output = .device device →
        (act (.speak text) hub).2.spoken = hub.spoken ++ [(device, text)]

theorem spoken_act_speak {hub : Hub} {device : Nat}
    (h : hub.selector.currentOutput = .device device) (text : String) :
    (act (.speak text) hub).2.spoken = hub.spoken ++ [(device, text)] := by
  have hspeak : act (.speak text) hub =
      (.spoken (hub.selector.currentOutput.speak text hub.world).1,
        { hub with world := (hub.selector.currentOutput.speak text hub.world).2 }) := rfl
  rw [hspeak, h]
  change (hub.world.journal ++ [Event.speak device text]).filterMap _ = _
  simp [Hub.spoken]

theorem inStep_of_offer {first : String × Output} {others : List (String × Output)} {hub : Hub}
    (h : hub.selector.offer = (ofOutputs first others).offer) :
    InStep (first :: others) hub := by
  have hshows := shows_of_offer h
  refine ⟨hshows, fun name => act_select name hub, fun i => (handle_speakerSelect i hub).1,
    fun i => (handle_speakerSelect i hub).2, hub.selector.currentOutput, hshows.speaker, ?_⟩
  intro text
  refine ⟨rfl, ?_⟩
  intro device hdevice
  exact spoken_act_speak hdevice text

/-- Whatever outputs were given and whatever was done since, names, places and outputs are
in step. -/
theorem inStep_after_run {hub : Hub} {first : String × Output} {others : List (String × Output)}
    (h : hub.selector = ofOutputs first others) (steps : List Step) :
    InStep (first :: others) (run steps hub).2 := by
  apply inStep_of_offer
  rw [steady_run steps hub, h]

def twoKitchens : Hub :=
  start {} ⟨12, 34⟩
    (.ofOutputs ("Den", .device 0)
      [("Kitchen", .device 1), ("kitchen", .device 2), ("Kitchen", .device 3)])
    none .selected 0

def kitchenRequests : List Step :=
  [.builtin .speakerSelect, .select "KITCHEN", .speak "tea", .select "cellar", .speak "cake",
    .dispatch
      { name := selectIntent, text := "", parameters := Dict.ofList [(speakerParameter, "DEN")] },
    .speak "bed"]

theorem inStep_after_run_twoKitchens :
    InStep
        [("Den", .device 0), ("Kitchen", .device 1), ("kitchen", .device 2),
          ("Kitchen", .device 3)]
        (run kitchenRequests twoKitchens).2 ∧
      (run kitchenRequests twoKitchens).2.selector.names = ["Den", "Kitchen", "kitchen"] ∧
      (run kitchenRequests twoKitchens).2.selector.current = 0 ∧
      (run kitchenRequests twoKitchens).2.spoken = [(3, "tea"), (3, "cake"), (0, "bed")] :=
  ⟨inStep_after_run rfl kitchenRequests, by decide +kernel, by decide +kernel,
    by decide +kernel⟩

end Session

end VoiceHub
