import Mathlib.Data.List.Induction
import VoiceHub.Proofs.Grammar.References

/-!
# Repeated definitions

A choice that has been given its slot is absorbed from then on: whatever is
entered in between, entering it once more finds its values under the same name
and changes nothing.  So a definition that comes again gives no slot and fails in
no new way, and its text is that of its first occurrence.
-/

namespace VoiceHub

namespace Dict

variable {α : Type} {d : Dict α} {key : String} {value : α}

theorem admits_of_find?_eq_some (h : d.find? key = some value) : d.Admits key value := by
  intro held hheld
  rw [h] at hheld
  exact (Option.some.inj hheld).symm

theorem insert_of_find?_eq_some (h : d.find? key = some value) : d.insert key value = d :=
  ext_entries (insertEntry_of_lookup_eq_some h)

end Dict

theorem mem_namedWalk_of_mem {ds : List Definition} {d : Definition} {o : Occurrence}
    (hd : d ∈ ds) (ho : o ∈ namedWalk [d]) : o ∈ namedWalk ds := by
  obtain ⟨d', hmem, hrest⟩ := mem_namedWalk.mp ho
  rw [List.mem_singleton.mp hmem] at hrest
  exact mem_namedWalk.mpr ⟨d, hd, hrest⟩

namespace SlotDictionary

variable {slots final : SlotDictionary} {o : Occurrence} {os : List Occurrence}
  {name : String}

/-! ## Absorbed choices -/

/-- Entering the choice changes nothing, now or later. -/
def Absorbs (slots : SlotDictionary) (o : Occurrence) : Prop :=
  ∀ later : SlotDictionary, slots.entries <+: later.entries → later.enter o = .ok later

theorem Absorbs.mono (h : slots.Absorbs o) (hgrown : slots.entries <+: final.entries) :
    final.Absorbs o :=
  fun later hlater => h later (hgrown.trans hlater)

/-- The name that was taken by other values stays taken, so the choice gets its
name again. -/
theorem absorbs_of_assign (hassign : slots.assign o = .ok name) :
    Absorbs (slots.insert name o.values) o := by
  intro later hlater
  have hfind : later.find? name = some o.values := Dict.find?_mono hlater (by simp)
  have hagain : later.assign o = .ok name := by
    rcases assign_eq_ok_iff.mp hassign with ⟨rfl, -⟩ | ⟨rfl, hplain, hjoined⟩
    · exact assign_eq_ok_iff.mpr (.inl ⟨rfl, Dict.admits_of_find?_eq_some hfind⟩)
    · have hgrown := (Dict.entries_prefix_insert hjoined).trans hlater
      exact assign_eq_ok_iff.mpr (.inr ⟨rfl, Dict.not_admits_mono hgrown hplain,
        Dict.admits_of_find?_eq_some hfind⟩)
  rw [enter_of_assign hagain, Dict.insert_of_find?_eq_some hfind]

theorem absorbs_of_mem (h : slots.enterAll os = .ok final) (ho : o ∈ os) :
    final.Absorbs o := by
  obtain ⟨before, after, rfl⟩ := List.append_of_mem ho
  obtain ⟨middle, name, -, hassign, hgrown⟩ := exists_assign_of_split h
  exact (absorbs_of_assign hassign).mono hgrown

theorem enterAll_of_absorbs (h : ∀ o ∈ os, slots.Absorbs o) :
    slots.enterAll os = .ok slots := by
  induction os with
  | nil => rfl
  | cons o rest ih =>
      obtain ⟨hfirst, hrest⟩ := List.forall_mem_cons.mp h
      rw [enterAll, hfirst slots List.prefix_rfl]
      exact ih hrest

/-! ## Repeated definitions -/

/-- A definition that was walked before adds nothing at the end of a walk. -/
theorem enterAll_namedWalk_concat {ds : List Definition} {d : Definition} (hd : d ∈ ds)
    (slots : SlotDictionary) :
    slots.enterAll (namedWalk (ds ++ [d])) = slots.enterAll (namedWalk ds) := by
  rw [namedWalk_append, enterAll_append]
  cases hentered : slots.enterAll (namedWalk ds) with
  | error e => rfl
  | ok final =>
      exact enterAll_of_absorbs fun o ho =>
        absorbs_of_mem hentered (mem_namedWalk_of_mem hd ho)

theorem enterAll_namedWalk_eraseDups (slots : SlotDictionary) (ds : List Definition) :
    slots.enterAll (namedWalk ds.eraseDups) = slots.enterAll (namedWalk ds) := by
  -- from the end, so that whatever is dropped has been walked before
  induction ds using List.reverseRecOn with
  | nil => rfl
  | append_singleton ds d ih =>
      rw [List.eraseDups_append]
      by_cases hd : d ∈ ds
      · have hnone : [d].removeAll ds = [] := by simp [List.removeAll, hd]
        rw [hnone, List.eraseDups_nil, List.append_nil, ih, enterAll_namedWalk_concat hd]
      · have hone : ([d].removeAll ds).eraseDups = [d] := by
          simp [List.removeAll, hd, List.eraseDups_cons]
        rw [hone, namedWalk_append, namedWalk_append, enterAll_append, enterAll_append, ih]

end SlotDictionary

namespace Grammar

/-- Definitions that come again change neither the slots nor a failure.  The text has
them once more, and as they were. -/
theorem compile_eraseDups (ds : List Definition) :
    (∀ e, compile ds = .error e ↔ compile ds.eraseDups = .error e) ∧
      ((∃ g, compile ds = .ok g) ↔ ∃ g₀, compile ds.eraseDups = .ok g₀) ∧
      ∀ g g₀, compile ds = .ok g → compile ds.eraseDups = .ok g₀ →
        g.slots = g₀.slots ∧
          g.sentences = "\n\n".intercalate
            ((ds.filter Definition.isNamed).map (renderDefinition g₀.slots)) ∧
          g₀.sentences = "\n\n".intercalate
            ((ds.eraseDups.filter Definition.isNamed).map (renderDefinition g₀.slots)) := by
  have hwalk := SlotDictionary.enterAll_namedWalk_eraseDups Dict.empty ds
  refine ⟨fun e => ?_, ?_, fun g g₀ h h₀ => ?_⟩
  · rw [compile_eq_error_iff, compile_eq_error_iff, hwalk]
  · rw [compile_eq, compile_eq, hwalk]
    cases SlotDictionary.enterAll Dict.empty (namedWalk ds) <;> simp [Except.map]
  · obtain ⟨hslots, hsentences⟩ := compile_eq_ok_iff.mp h
    obtain ⟨hslots₀, hsentences₀⟩ := compile_eq_ok_iff.mp h₀
    rw [hwalk, hslots, Except.ok.injEq] at hslots₀
    rw [hslots₀] at hsentences
    exact ⟨hslots₀, hsentences, hsentences₀⟩

def echoedDefinitions : List Definition := crossedDefinitions ++ crossedDefinitions.reverse

theorem compile_eraseDups_echoed :
    echoedDefinitions.eraseDups = crossedDefinitions ∧
      ∃ g, compile echoedDefinitions = .ok g ∧ g.slots = crossedGrammar.slots ∧
        g.sentences =
          "[Go]\nWhere = $Room\n\n$Light_Room\x7bLight_Room\x7d\n\n" ++
            "[Light]\n$Light_Room\x7bRoom\x7d\n\n[Light]\n$Light_Room\x7bRoom\x7d\n\n" ++
              "[Go]\nWhere = $Room\n\n$Light_Room\x7bLight_Room\x7d" := by
  have herased : echoedDefinitions.eraseDups = crossedDefinitions := by decide
  have hcompile : compile echoedDefinitions.eraseDups = .ok crossedGrammar := by
    rw [herased]
    rfl
  obtain ⟨-, hsucceeds, hgrammars⟩ := compile_eraseDups echoedDefinitions
  obtain ⟨g, h⟩ := hsucceeds.mpr ⟨_, hcompile⟩
  obtain ⟨hslots, hsentences, -⟩ := hgrammars g crossedGrammar h hcompile
  exact ⟨herased, g, h, hslots, hsentences.trans rfl⟩

end Grammar

end VoiceHub
