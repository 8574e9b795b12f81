import Mathlib.Data.List.TakeWhile
import VoiceHub.Config
import VoiceHub.Proofs.Dict
import VoiceHub.Proofs.Text.Pieces
import VoiceHub.Proofs.World.Calls

/-!
# Where a configuration sends a request

The default speaker comes first and the others follow in order of their names.  A
speaker that has the name of the default one takes its place and does not come twice.

What is spoken goes to the root of the selected output, all else to the main
backend.  No endpoint has a slash in it, so a URL tells which root was asked for
what.  A spoken name selects the first output of that name up to the case of ASCII
letters, or none, whatever is selected at the time.
-/

namespace VoiceHub

/-! ## The outputs of a configuration -/

namespace Selector

theorem outputs_foldl_withOutput {α : Type} (output : α → Output) (entries : List (String × α))
    (s : Selector) :
    (entries.foldl (fun s (name, held) => s.withOutput name (output held)) s).outputs =
      s.outputs.insertAll (entries.map fun entry => (entry.1, output entry.2)) := by
  induction entries generalizing s with
  | nil => rfl
  | cons entry rest ih => exact ih (s.withOutput entry.1 (output entry.2))

/-- The definitions are those that the outputs would have them made into now. -/
def IsRebuilt (s : Selector) : Prop := s.definitions = s.rebuildDefinitions.definitions

theorem isRebuilt_foldl_withOutput {α : Type} (output : α → Output)
    (entries : List (String × α)) {s : Selector} (h : s.IsRebuilt) :
    (entries.foldl (fun s (name, held) => s.withOutput name (output held)) s).IsRebuilt := by
  induction entries generalizing s with
  | nil => exact h
  | cons entry rest ih => exact ih rfl

end Selector

namespace Config

variable (c : Config)

/-- Where a name is spoken for: the speaker of the name, or else the main backend. -/
def backendOf (name : String) : Backend :=
  match c.speakers.find? name with
  | some url => .ofUrl url
  | none => c.backend

theorem outputs_selector :
    c.selector.outputs =
      (Selector.ofOutput c.defaultSpeaker (.backend c.backend)).outputs.insertAll
        (c.speakers.sortedEntries.map fun entry => (entry.1, .backend (.ofUrl entry.2))) :=
  Selector.outputs_foldl_withOutput (fun url => .backend (.ofUrl url)) _ _

theorem names_selector :
    c.selector.names =
      c.defaultSpeaker :: c.speakers.sortedKeys.filter (· ≠ c.defaultSpeaker) := by
  have hkeys : (c.speakers.sortedEntries.map fun entry =>
      (entry.1, Output.backend (.ofUrl entry.2))).map Prod.fst = c.speakers.sortedKeys := by
    rw [List.map_map]
    rfl
  have hnodup : c.speakers.sortedKeys.Nodup :=
    c.speakers.pairwise_sortedKeys.imp fun hlt => String.ne_of_lt hlt
  rw [Selector.names, outputs_selector, Dict.keys_insertAll (hkeys ▸ hnodup), hkeys]
  simp [Selector.ofOutput, Selector.rebuildDefinitions, Dict.keys]

theorem isRebuilt_selector : c.selector.IsRebuilt :=
  Selector.isRebuilt_foldl_withOutput (fun url => .backend (.ofUrl url)) _ rfl

theorem nodup_names_selector : c.selector.names.Nodup := c.selector.outputs.nodup

theorem output_of_mem_selector {entry : String × Output}
    (h : entry ∈ c.selector.outputs.entries) : entry.2 = .backend (c.backendOf entry.1) := by
  rw [outputs_selector] at h
  unfold backendOf
  rcases Dict.mem_insertAll h with hspeaker | ⟨hdefault, habsent⟩
  · obtain ⟨⟨name, url⟩, hmem, rfl⟩ := List.mem_map.mp hspeaker
    have hfind := Dict.find?_eq_some_iff_mem.mpr (c.speakers.sortedEntries_perm.mem_iff.mp hmem)
    rw [hfind]
  · have hkey : entry.1 ∉ c.speakers.keys := by
      rw [← Dict.mem_sortedKeys]
      rw [List.map_map] at habsent
      exact habsent
    have hfind : c.speakers.find? entry.1 = none := by
      simpa [Dict.mem_keys_iff_contains, Dict.contains] using hkey
    rw [hfind, List.mem_singleton.mp hdefault]

end Config

/-! ## Roots and endpoints -/

namespace Backend

structure IsAt (b : Backend) (url : String) : Prop where
  url_eq : ∃ n, url.toList = b.root.toList ++ List.replicate n '/'
  trimmed : b.root.toList.getLast? ≠ some '/'

theorem isAt_ofUrl (url : String) : (ofUrl url).IsAt url := by
  let reversed := url.toList.reverse
  have hslashes : reversed.takeWhile (· = '/') =
      List.replicate (reversed.takeWhile (· = '/')).length '/' := by
    refine List.eq_replicate_iff.mpr ⟨rfl, fun x hx => ?_⟩
    simpa using List.mem_takeWhile_imp hx
  have hroot : (ofUrl url).root.toList = (reversed.dropWhile (· = '/')).reverse := by
    simp [ofUrl, reversed]
  refine ⟨⟨(reversed.takeWhile (· = '/')).length, ?_⟩, ?_⟩
  · calc url.toList
        = (reversed.takeWhile (· = '/') ++ reversed.dropWhile (· = '/')).reverse := by
          rw [List.takeWhile_append_dropWhile, List.reverse_reverse]
      _ = (ofUrl url).root.toList ++ (reversed.takeWhile (· = '/')).reverse := by
          rw [List.reverse_append, hroot]
      _ = _ := by
          rw [hslashes, List.reverse_replicate, List.length_replicate]
  · rw [hroot, List.getLast?_reverse]
    intro hhead
    have hstop := List.head?_dropWhile_not (· = '/') reversed
    rw [hhead] at hstop
    simp at hstop

theorem endpoint_inj {b b' : Backend} {path path' : String} (h : '/' ∉ path.toList)
    (h' : '/' ∉ path'.toList) (heq : b.endpoint path = b'.endpoint path') :
    b = b' ∧ path = path' := by
  have hchars : b.root.toList ++ '/' :: path.toList =
      b'.root.toList ++ '/' :: path'.toList := by
    simpa [endpoint] using congrArg String.toList heq
  obtain ⟨hroot, hpath⟩ := Text.append_cons_inj h h' hchars
  exact ⟨congrArg Backend.mk (String.toList_inj.mp hroot), String.toList_inj.mp hpath⟩

end Backend

namespace Config

variable (c : Config)

/-- The URLs that are called while this output is selected. -/
inductive Calls (selected : String) : String → Prop
  | speech : Calls selected ((c.backendOf selected).endpoint "text-to-speech")
  | publishing (call : PublishCall) : Calls selected (c.backend.endpoint call.path)
  | listening : Calls selected (c.backend.endpoint "listen-for-command")

def mainPaths : List String :=
  ["slots?overwrite_all=true", "sentences", "train?nocache=true", "listen-for-command"]

/-- A request to the URL is in order while this output is selected. -/
structure Addressed (selected url : String) : Prop where
  known : ∃ b : Backend, ∃ path ∈ "text-to-speech" :: mainPaths, url = b.endpoint path
  speech : ∀ b : Backend, url = b.endpoint "text-to-speech" → b = c.backendOf selected
  main : ∀ b : Backend, ∀ path ∈ mainPaths, url = b.endpoint path → b = c.backend

variable {c}

theorem Calls.addressed {selected url : String} (h : c.Calls selected url) :
    c.Addressed selected url := by
  have hslash : ∀ path ∈ "text-to-speech" :: mainPaths, '/' ∉ path.toList := by decide
  have hmain {path : String} (hpath : path ∈ mainPaths) :
      c.Addressed selected (c.backend.endpoint path) := by
    have hfree := hslash path (List.mem_cons_of_mem _ hpath)
    refine ⟨⟨_, path, List.mem_cons_of_mem _ hpath, rfl⟩, fun b hb => ?_,
      fun b path' hpath' hb => ?_⟩
    · have hsame := (Backend.endpoint_inj hfree (by decide) hb).2
      exact absurd (hsame ▸ hpath) (by decide)
    · have hfree' := hslash path' (List.mem_cons_of_mem _ hpath')
      exact (Backend.endpoint_inj hfree hfree' hb).1.symm
  cases h with
  | speech =>
      refine ⟨⟨_, _, List.mem_cons_self, rfl⟩, fun b hb => ?_, fun b path hpath hb => ?_⟩
      · exact (Backend.endpoint_inj (by decide) (by decide) hb).1.symm
      · have hfree := hslash path (List.mem_cons_of_mem _ hpath)
        have hsame := (Backend.endpoint_inj (by decide) hfree hb).2
        exact absurd (hsame ▸ hpath) (by decide)
  | publishing call =>
      refine hmain ?_
      cases call <;> simp [mainPaths, PublishCall.path]
  | listening => exact hmain (by decide)

end Config

/-! ## Selections -/

namespace Selector

def chosen? (s : Selector) (i : Intent) : Option String :=
  (i.parameter? speakerParameter).bind fun name => s.names.find? fun other => sameName other name

theorem chosen?_congr {s s' : Selector} (h : s'.outputs = s.outputs) (i : Intent) :
    s'.chosen? i = s.chosen? i := by
  unfold chosen? names
  rw [h]

theorem eq_of_select? {s selected : Selector} {name : String}
    (h : s.select? name = some selected) :
    ∃ place hplace, selected = { s with current := place, current_lt := hplace } := by
  unfold select? at h
  dsimp only at h
  split at h
  · cases h
    exact ⟨_, _, rfl⟩
  · cases h

def offer (s : Selector) : Dict Output × List Definition := (s.outputs, s.definitions)

theorem offer_select? {s selected : Selector} {name : String}
    (h : s.select? name = some selected) : selected.offer = s.offer := by
  obtain ⟨place, hplace, rfl⟩ := eq_of_select? h
  rfl

theorem outputs_select? {s selected : Selector} {name : String}
    (h : s.select? name = some selected) : selected.outputs = s.outputs :=
  congrArg Prod.fst (offer_select? h)

theorem map_currentName_select? (s : Selector) (name : String) :
    (s.select? name).map currentName = s.names.find? fun other => sameName other name := by
  have hplace : (s.names.find? fun other => sameName other name) =
      (s.outputs.entries[s.outputs.entries.findIdx fun entry =>
        sameName entry.1 name]?).map Prod.fst := by
    rw [names, Dict.keys, List.find?_map, ← List.find?_eq_getElem?_findIdx]
    rfl
  rw [hplace]
  unfold select?
  dsimp only
  split
  next h => rw [List.getElem?_eq_getElem h]; rfl
  next h => rw [List.getElem?_eq_none (Nat.not_lt.mp h)]; rfl

theorem answer_of_chosen {s : Selector} {i : Intent} {name : String}
    (h : s.chosen? i = some name) :
    ∃ selected, s.answer i = .ok ({ text := "I'm here" }, selected) ∧
      selected.outputs = s.outputs ∧ selected.currentName = name := by
  obtain ⟨wanted, hparameter, hfind⟩ := Option.bind_eq_some_iff.mp h
  rw [← map_currentName_select?] at hfind
  obtain ⟨selected, hselect, hname⟩ := Option.map_eq_some_iff.mp hfind
  refine ⟨selected, ?_, outputs_select? hselect, hname⟩
  simp [answer, Intent.require, hparameter, hselect]

theorem answer_of_not_chosen {s : Selector} {i : Intent} (h : s.chosen? i = none) :
    ∃ failure, s.answer i = .error failure := by
  unfold answer Intent.require
  unfold chosen? at h
  cases hparameter : i.parameter? speakerParameter with
  | none => exact ⟨_, rfl⟩
  | some wanted =>
      rw [hparameter, Option.bind_some, ← map_currentName_select?,
        Option.map_eq_none_iff] at h
      dsimp only
      rw [h]
      exact ⟨_, rfl⟩

theorem current_foldl_withOutput {α : Type} (output : α → Output) (entries : List (String × α))
    (s : Selector) :
    (entries.foldl (fun s (name, held) => s.withOutput name (output held)) s).current =
      s.current := by
  induction entries generalizing s with
  | nil => rfl
  | cons entry rest ih => exact ih (s.withOutput entry.1 (output entry.2))

theorem currentName_eq (s : Selector) : s.names[s.current]? = some s.currentName := by
  rw [names, Dict.keys, List.getElem?_map, List.getElem?_eq_getElem s.current_lt]
  rfl

end Selector

namespace Config

variable (c : Config)

theorem currentName_selector : c.selector.currentName = c.defaultSpeaker := by
  have hcurrent : c.selector.current = 0 :=
    Selector.current_foldl_withOutput (fun url => .backend (.ofUrl url)) _ _
  have hname := c.selector.currentName_eq
  rw [hcurrent, names_selector] at hname
  exact (Option.some.inj hname).symm

theorem isAt_backendOf (name : String) :
    (c.backendOf name).IsAt ((c.speakers.find? name).getD c.apiUrl) := by
  unfold backendOf
  cases c.speakers.find? name <;> exact Backend.isAt_ofUrl _

/-- Whatever is selected, it is bound to the root of its name. -/
theorem currentOutput_of_outputs {s : Selector} (h : s.outputs = c.selector.outputs) :
    s.currentOutput = .backend (c.backendOf s.currentName) :=
  c.output_of_mem_selector (h ▸ List.getElem_mem s.current_lt)

end Config

end VoiceHub
