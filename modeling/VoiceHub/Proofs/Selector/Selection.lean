import VoiceHub.Proofs.Hub.Speaking
import VoiceHub.Proofs.Setup.Directions

/-!
# Which output a name selects

Outputs are added by their exact name and selected by the name up to the case of ASCII
letters.  A name that differs from an earlier one in case only is added and offered
like any other.  Whoever asks for it gets the earlier one, and there is no request
after which it is the current one.
-/

namespace VoiceHub

namespace Selector

variable {first : String × Output} {others : List (String × Output)} {wanted : String}

/-! ## Outputs as they were given -/

def ofOutputs (first : String × Output) (others : List (String × Output)) : Selector :=
  others.foldl (fun s (name, output) => s.withOutput name output) (ofOutput first.1 first.2)

def lastGiven? (given : List (String × Output)) (name : String) : Option Output :=
  given.reverse.lookup name

theorem find?_ofOutputs (name : String) :
    (ofOutputs first others).outputs.find? name = lastGiven? (first :: others) name := by
  have houtputs : (ofOutputs first others).outputs =
      (ofOutput first.1 first.2).outputs.insertAll others := by
    refine (outputs_foldl_withOutput id others _).trans ?_
    exact congrArg _ (List.map_id others)
  rw [houtputs, Dict.find?_insertAll, lastGiven?, List.reverse_cons, List.lookup_append]
  rfl

theorem find?_currentName (s : Selector) :
    s.outputs.find? s.currentName = some s.currentOutput :=
  Dict.find?_eq_some_iff_mem.mpr (List.getElem_mem s.current_lt)

/-! ## Names in the shadow of others -/

theorem sameName_self (name : String) : sameName name name = true := by simp [sameName]

/-- A name is shadowed if one before it is the same up to the case of ASCII letters. -/
def Shadowed (names : List String) (name : String) : Prop :=
  ∃ earlier ∈ names.takeWhile (· ≠ name), sameName earlier name

instance (names : List String) (name : String) : Decidable (Shadowed names name) :=
  inferInstanceAs (Decidable (∃ earlier ∈ names.takeWhile (· ≠ name), sameName earlier name))

theorem find?_sameName_eq_self_iff {names : List String} (h : wanted ∈ names) :
    (names.find? fun other => sameName other wanted) = some wanted ↔
      ¬ Shadowed names wanted := by
  unfold Shadowed
  induction names with
  | nil => nomatch h
  | cons name rest ih =>
      by_cases hname : name = wanted
      · simp [hname, sameName_self]
      · have hrest : wanted ∈ rest := (List.mem_cons.mp h).resolve_left (Ne.symm hname)
        by_cases hsame : sameName name wanted
        · simp [hname, hsame]
        · simpa [hname, hsame] using ih hrest

/-- A name that is offered selects one that is the same as it, if not itself. -/
theorem select?_of_mem {s : Selector} (h : wanted ∈ s.names) :
    ∃ selected, s.select? wanted = some selected ∧ selected.outputs = s.outputs ∧
      (s.names.find? fun other => sameName other wanted) = some selected.currentName := by
  have hfound : (s.names.find? fun other => sameName other wanted).isSome :=
    List.find?_isSome.mpr ⟨wanted, h, sameName_self wanted⟩
  rw [← map_currentName_select?, Option.isSome_map] at hfound
  obtain ⟨selected, hselect⟩ := Option.isSome_iff_exists.mp hfound
  refine ⟨selected, hselect, outputs_select? hselect, ?_⟩
  rw [← map_currentName_select?, hselect]
  rfl

/-! ## What is never selected -/

theorem not_shadowed_of_find? {names : List String} {found : String}
    (h : (names.find? fun other => sameName other wanted) = some found) :
    ¬ Shadowed names found := by
  have hsame : found.toList.map Char.toLower = wanted.toList.map Char.toLower := by
    simpa [sameName] using List.find?_some h
  -- whatever is the same as one of the two names is the same as the other
  rw [← find?_sameName_eq_self_iff (List.mem_of_find?_eq_some h), ← h]
  simp only [sameName, hsame]

theorem not_shadowed_select? {s selected : Selector} (h : s.select? wanted = some selected) :
    ¬ Shadowed selected.names selected.currentName := by
  have hname := s.map_currentName_select? wanted
  rw [h, names, ← outputs_select? h] at hname
  exact not_shadowed_of_find? hname.symm

def selectAll (s : Selector) (requests : List String) : Selector :=
  requests.foldl (fun s name => (s.select? name).getD s) s

theorem not_shadowed_selectAll {s : Selector} (h : ¬ Shadowed s.names s.currentName)
    (requests : List String) :
    ¬ Shadowed (s.selectAll requests).names (s.selectAll requests).currentName := by
  induction requests generalizing s with
  | nil => exact h
  | cons name rest ih =>
      refine ih ?_
      dsimp only
      cases hselect : s.select? name with
      | none => exact h
      | some selected => exact not_shadowed_select? hselect

theorem not_shadowed_ofOutputs :
    ¬ Shadowed (ofOutputs first others).names (ofOutputs first others).currentName := by
  have hcurrent : (ofOutputs first others).current = 0 := current_foldl_withOutput id others _
  have hname := (ofOutputs first others).currentName_eq
  rw [hcurrent] at hname
  cases hnames : (ofOutputs first others).names with
  | nil => simp [hnames] at hname
  | cons name rest =>
      obtain rfl : name = (ofOutputs first others).currentName := by simpa [hnames] using hname
      simp [Shadowed]

theorem not_shadowed_current (first : String × Output) (others : List (String × Output))
    (requests : List String) :
    ¬ Shadowed ((ofOutputs first others).selectAll requests).names
      ((ofOutputs first others).selectAll requests).currentName :=
  not_shadowed_selectAll not_shadowed_ofOutputs requests

/-! ## Selecting what is offered -/

/-- The name can be selected and is the current one then, and what is said after that
reaches the output that it was given last, and no other. -/
def Obeys (given : List (String × Output)) (s : Selector) (name : String) : Prop :=
  ∃ selected output, s.select? name = some selected ∧ selected.currentName = name ∧
    lastGiven? given name = some output ∧
      ∀ (hub : Hub) (text : String), hub.selector = selected →
        Hub.speak .selected text hub = Hub.outside (output.speak text) hub

/-- Whatever is selected at the time, an offered name is obeyed unless it is shadowed.
In any case the first name that is the same as it is selected, with the output that
this one was given last. -/
theorem obeys_iff_not_shadowed {s : Selector}
    (hoffered : s.outputs = (ofOutputs first others).outputs) (hwanted : wanted ∈ s.names) :
    (Obeys (first :: others) s wanted ↔ ¬ Shadowed s.names wanted) ∧
      ∃ selected, s.select? wanted = some selected ∧ selected.outputs = s.outputs ∧
        (s.names.find? fun other => sameName other wanted) = some selected.currentName ∧
          lastGiven? (first :: others) selected.currentName = some selected.currentOutput := by
  obtain ⟨selected, hselect, houtputs, hname⟩ := select?_of_mem hwanted
  have hgiven : lastGiven? (first :: others) selected.currentName =
      some selected.currentOutput := by
    rw [← find?_ofOutputs, ← hoffered, ← houtputs]
    exact selected.find?_currentName
  refine ⟨?_, selected, hselect, houtputs, hname, hgiven⟩
  rw [← find?_sameName_eq_self_iff hwanted, hname, Option.some_inj]
  constructor
  · rintro ⟨selected', _, hselect', hname', -⟩
    obtain rfl : selected = selected' := Option.some.inj (hselect.symm.trans hselect')
    exact hname'
  · intro hself
    refine ⟨selected, selected.currentOutput, hselect, hself, hself ▸ hgiven, ?_⟩
    rintro hub text rfl
    rfl

theorem obeys_iff_not_shadowed_repeated :
    Obeys [("Raspberry", .device 0), ("Sonos", .device 1), ("Sonos", .device 2)]
      (ofOutputs ("Raspberry", .device 0) [("Sonos", .device 1), ("Sonos", .device 2)])
      "Sonos" :=
  (obeys_iff_not_shadowed rfl (by decide)).1.mpr (by decide)

theorem not_obeys_shadowed :
    "Kitchen" ∈ (ofOutputs ("kitchen", .device 0) [("Kitchen", .device 1)]).names ∧
      ¬ Obeys [("kitchen", .device 0), ("Kitchen", .device 1)]
        (ofOutputs ("kitchen", .device 0) [("Kitchen", .device 1)]) "Kitchen" := by
  refine ⟨by decide, ?_⟩
  rintro ⟨selected, _, hselect, hname, -⟩
  have hfirst : ((ofOutputs ("kitchen", .device 0) [("Kitchen", .device 1)]).select?
      "Kitchen").map currentName = some "kitchen" := by
    decide
  rw [hselect, Option.map_some, hname] at hfirst
  exact absurd hfirst (by decide)

end Selector

end VoiceHub
