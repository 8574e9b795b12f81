import VoiceHub.Proofs.Grammar.References
import VoiceHub.Proofs.Text.Pieces

/-!
# When two choices collide

A choice is blocked if both of its names were given, earlier in the walk, to
choices with other values.  Compilation fails exactly at the first blocked
choice.  If no parameter has an underscore in its name, joined names meet
neither plain names nor each other, and a collision needs three value lists for
one parameter, two of them in one intent.
-/

namespace VoiceHub

/-! ## Blocked choices -/

/-- An earlier choice was entered under the name, with other values. -/
def Taken (earlier : List Assignment) (name : String) (o : Occurrence) : Prop :=
  ∃ a ∈ earlier, a.name = name ∧ a.occurrence.values ≠ o.values

def Blocked (earlier : List Assignment) (o : Occurrence) : Prop :=
  Taken earlier o.plainName o ∧ Taken earlier o.joinedName o

namespace SlotDictionary

variable {os before after : List Occurrence} {o : Occurrence}
  {slots : SlotDictionary}

theorem not_admits_iff_taken (h : enterAll Dict.empty before = .ok slots)
    (name : String) :
    ¬ slots.Admits name o.values ↔
      Taken (assignments Dict.empty before) name o := by
  rw [admits_enterAll_iff h]
  unfold Taken
  constructor
  · intro hnot
    refine Classical.byContradiction fun hnone =>
      hnot fun a ha hname => ?_
    exact Classical.byContradiction fun hvalues =>
      hnone ⟨a, ha, hname, hvalues⟩
  · rintro ⟨a, ha, hname, hvalues⟩ hall
    exact hvalues (hall a ha hname)

theorem assign_eq_error_iff_blocked
    (h : enterAll Dict.empty before = .ok slots) {e : GrammarError} :
    slots.assign o = .error e ↔
      Blocked (assignments Dict.empty before) o ∧
        e = .slotCollision o.joinedName o.intent := by
  rw [assign_eq_error_iff, not_admits_iff_taken h, not_admits_iff_taken h,
    Blocked, and_assoc]

theorem not_blocked_of_split {final : SlotDictionary}
    (h : enterAll Dict.empty (before ++ o :: after) = .ok final) :
    ¬ Blocked (assignments Dict.empty before) o := by
  intro hblocked
  obtain ⟨middle, name, hbefore, hassign, -⟩ := exists_assign_of_split h
  rw [(assign_eq_error_iff_blocked hbefore).mpr ⟨hblocked, rfl⟩] at hassign
  contradiction

theorem enterAll_error_of_blocked
    (h : enterAll Dict.empty before = .ok slots)
    (hblocked : Blocked (assignments Dict.empty before) o) :
    enterAll Dict.empty (before ++ o :: after) =
      .error (.slotCollision o.joinedName o.intent) :=
  enterAll_eq_error_iff.mpr ⟨before, o, after, slots, rfl, h,
    (assign_eq_error_iff_blocked h).mpr ⟨hblocked, rfl⟩⟩

/-- A walk fails at its first blocked choice. -/
theorem enterAll_eq_error_iff_first_blocked {e : GrammarError} :
    enterAll Dict.empty os = .error e ↔
      ∃ before o after, os = before ++ o :: after ∧
        Blocked (assignments Dict.empty before) o ∧
        (∀ before' o' after', before = before' ++ o' :: after' →
          ¬ Blocked (assignments Dict.empty before') o') ∧
        e = .slotCollision o.joinedName o.intent := by
  constructor
  · intro h
    obtain ⟨before, o, after, middle, hsplit, hbefore, herror⟩ :=
      enterAll_eq_error_iff.mp h
    obtain ⟨hblocked, he⟩ :=
      (assign_eq_error_iff_blocked hbefore).mp herror
    refine ⟨before, o, after, hsplit, hblocked, ?_, he⟩
    rintro before' o' after' rfl
    exact not_blocked_of_split hbefore
  · rintro ⟨before, o, after, rfl, hblocked, hfirst, rfl⟩
    cases hbefore : enterAll Dict.empty before with
    | ok middle => exact enterAll_error_of_blocked hbefore hblocked
    | error e' =>
        obtain ⟨before', o', after', middle, hsplit, hbefore', herror⟩ :=
          enterAll_eq_error_iff.mp hbefore
        exact absurd ((assign_eq_error_iff_blocked hbefore').mp herror).1
          (hfirst before' o' after' hsplit)

theorem exists_enterAll_error_iff_blocked :
    (∃ e, enterAll Dict.empty os = .error e) ↔
      ∃ before o after, os = before ++ o :: after ∧
        Blocked (assignments Dict.empty before) o := by
  constructor
  · rintro ⟨e, h⟩
    obtain ⟨before, o, after, hsplit, hblocked, -⟩ :=
      enterAll_eq_error_iff_first_blocked.mp h
    exact ⟨before, o, after, hsplit, hblocked⟩
  · rintro ⟨before, o, after, rfl, hblocked⟩
    cases hall : enterAll Dict.empty (before ++ o :: after) with
    | error e => exact ⟨e, rfl⟩
    | ok final => exact absurd hblocked (not_blocked_of_split hall)

end SlotDictionary

/-! ## Names without underscores -/

/-- Two choices of a parameter in one intent differ from each other and from
the first choice of the parameter. -/
def Contested (os : List Occurrence) (intent name : String) : Prop :=
  ∃ first o₁ o₂,
    os.find? (fun o => o.plainName = name) = some first ∧
    o₁ ∈ os ∧ o₁.intent = intent ∧ o₁.plainName = name ∧
    o₂ ∈ os ∧ o₂.intent = intent ∧ o₂.plainName = name ∧
    o₁.values ≠ o₂.values ∧ o₁.values ≠ first.values ∧
    o₂.values ≠ first.values

theorem Occurrence.underscore_mem_joinedName (o : Occurrence) :
    '_' ∈ o.joinedName.toList := by
  simp [joinedName]

theorem Occurrence.joinedName_inj {o o' : Occurrence}
    (h : '_' ∉ o.plainName.toList) (h' : '_' ∉ o'.plainName.toList)
    (heq : o.joinedName = o'.joinedName) :
    o.intent = o'.intent ∧ o.plainName = o'.plainName := by
  have hchars : o.intent.toList ++ '_' :: o.plainName.toList =
      o'.intent.toList ++ '_' :: o'.plainName.toList := by
    simpa [joinedName, plainName] using congrArg String.toList heq
  obtain ⟨hintent, hname⟩ := Text.append_cons_inj h h' hchars
  exact ⟨String.toList_inj.mp hintent, String.toList_inj.mp hname⟩

namespace SlotDictionary

variable {os : List Occurrence} {slots : SlotDictionary} {a : Assignment}

theorem plainName_of_mem_assignments (h : a ∈ slots.assignments os)
    (hname : '_' ∉ a.name.toList) : a.name = a.occurrence.plainName := by
  rcases (name_of_mem_assignments h).2 with hplain | hjoined
  · exact hplain
  · rw [hjoined] at hname
    exact absurd a.occurrence.underscore_mem_joinedName hname

/-- The plain name of a parameter holds the values that the walk meets first. -/
theorem find?_of_first (h : enterAll Dict.empty os = .ok slots)
    {name : String} (hname : '_' ∉ name.toList) {first : Occurrence}
    (hfirst : os.find? (fun o => o.plainName = name) = some first) :
    slots.find? name = some first.values := by
  obtain ⟨hplain, before, after, rfl, hbefore⟩ :=
    List.find?_eq_some_iff_append.mp hfirst
  obtain rfl : first.plainName = name := by simpa using hplain
  obtain ⟨middle, given, hmiddle, hassign, hgrown⟩ :=
    exists_assign_of_split h
  rcases assign_eq_ok_iff.mp hassign with ⟨rfl, -⟩ | ⟨-, htaken, -⟩
  · exact Dict.find?_mono hgrown (by simp)
  · obtain ⟨a, ha, haname, -⟩ := (not_admits_iff_taken hmiddle _).mp htaken
    have hearlier := hbefore _ (name_of_mem_assignments ha).1
    have hown := plainName_of_mem_assignments ha (by rwa [haname])
    rw [← hown, haname] at hearlier
    simp at hearlier

theorem values_ne_first_of_joined {name : String} {first : Occurrence}
    (h : enterAll Dict.empty os = .ok slots) (hname : '_' ∉ name.toList)
    (hfirst : os.find? (fun o => o.plainName = name) = some first)
    (ha : a ∈ assignments Dict.empty os)
    (hplain : a.occurrence.plainName = name)
    (hjoined : a.name = a.occurrence.joinedName) :
    a.occurrence.values ≠ first.values := by
  obtain ⟨before, after, middle, rfl, hbefore, hassign⟩ :=
    exists_split_of_mem_assignments ha
  obtain ⟨rest, hmiddle, hrest⟩ := enterAll_append_eq_ok_iff.mp h
  rw [hbefore] at hmiddle
  cases hmiddle
  subst hplain
  rcases assign_eq_ok_iff.mp hassign with ⟨hsame, -⟩ | ⟨-, htaken, -⟩
  · rw [← hsame, hjoined] at hname
    exact absurd a.occurrence.underscore_mem_joinedName hname
  · have hstays :=
      Dict.not_admits_mono (entries_prefix_enterAll hrest) htaken
    have hfind := find?_of_first h hname hfirst
    exact (Dict.ne_of_not_admits hfind hstays).symm

theorem exists_first_of_taken {o : Occurrence}
    (h : enterAll Dict.empty os = .ok slots)
    (ho : '_' ∉ o.plainName.toList)
    (htaken : Taken (assignments Dict.empty os) o.plainName o) :
    ∃ first,
      os.find? (fun p => p.plainName = o.plainName) = some first ∧
      o.values ≠ first.values := by
  obtain ⟨a, ha, haname, -⟩ := id htaken
  have hplain := plainName_of_mem_assignments ha (by rwa [haname])
  have hsome : (os.find? fun p => p.plainName = o.plainName).isSome := by
    rw [List.find?_isSome]
    exact ⟨a.occurrence, (name_of_mem_assignments ha).1,
      by simp [← hplain, haname]⟩
  obtain ⟨first, hfirst⟩ := Option.isSome_iff_exists.mp hsome
  have hfind := find?_of_first h ho hfirst
  have hnot := (not_admits_iff_taken h o.plainName).mpr htaken
  exact ⟨first, hfirst, (Dict.ne_of_not_admits hfind hnot).symm⟩

theorem same_parameter_of_joinedName {o : Occurrence}
    (ha : a ∈ slots.assignments os)
    (hafree : '_' ∉ a.occurrence.plainName.toList)
    (ho : '_' ∉ o.plainName.toList) (hname : a.name = o.joinedName) :
    a.name = a.occurrence.joinedName ∧
      a.occurrence.intent = o.intent ∧
      a.occurrence.plainName = o.plainName := by
  rcases (name_of_mem_assignments ha).2 with hplain | hjoined
  · rw [← hplain, hname] at hafree
    exact absurd o.underscore_mem_joinedName hafree
  · have hsame := hjoined.symm.trans hname
    exact ⟨hjoined, Occurrence.joinedName_inj hafree ho hsame⟩

theorem contested_of_error (hfree : ∀ o ∈ os, '_' ∉ o.plainName.toList)
    {e : GrammarError} (h : enterAll Dict.empty os = .error e) :
    ∃ intent name, Contested os intent name := by
  obtain ⟨before, o, after, middle, rfl, hbefore, herror⟩ :=
    enterAll_eq_error_iff.mp h
  obtain ⟨⟨htaken, a, ha, haname, havalues⟩, -⟩ :=
    (assign_eq_error_iff_blocked hbefore).mp herror
  have ho : '_' ∉ o.plainName.toList := hfree o (by simp)
  have hmem := (name_of_mem_assignments ha).1
  have hafree : '_' ∉ a.occurrence.plainName.toList :=
    hfree _ (by simp [hmem])
  obtain ⟨hjoined, hintent, hplain⟩ :=
    same_parameter_of_joinedName ha hafree ho haname
  obtain ⟨first, hfirst, hvalues⟩ := exists_first_of_taken hbefore ho htaken
  refine ⟨o.intent, o.plainName, first, a.occurrence, o, ?_,
    by simp [hmem], hintent, hplain, by simp, rfl, rfl, havalues, ?_,
    hvalues⟩
  · rw [List.find?_append, hfirst]
    rfl
  · exact values_ne_first_of_joined hbefore ho hfirst ha hplain hjoined

theorem find?_joinedName_of_ne_first {o first : Occurrence}
    (h : enterAll Dict.empty os = .ok slots) (ho : o ∈ os)
    (hfree : '_' ∉ o.plainName.toList)
    (hfirst : os.find? (fun p => p.plainName = o.plainName) = some first)
    (hvalues : o.values ≠ first.values) :
    slots.find? o.joinedName = some o.values := by
  obtain ⟨before, after, rfl⟩ := List.append_of_mem ho
  obtain ⟨middle, name, -, hassign, hgrown⟩ := exists_assign_of_split h
  obtain ⟨hfind, rfl | rfl⟩ :=
    find?_of_resolve (resolve_of_assign hassign hgrown)
  · rw [find?_of_first h hfree hfirst, Option.some.injEq] at hfind
    exact absurd hfind.symm hvalues
  · exact hfind

theorem error_of_contested (hfree : ∀ o ∈ os, '_' ∉ o.plainName.toList)
    {intent name : String} (h : Contested os intent name) :
    ∃ e, enterAll Dict.empty os = .error e := by
  obtain ⟨first, o₁, o₂, hfirst, ho₁, rfl, rfl, ho₂, hintent, hname, hne,
    hne₁, hne₂⟩ := h
  cases hall : enterAll Dict.empty os with
  | error e => exact ⟨e, rfl⟩
  | ok slots =>
      have hfind₁ := find?_joinedName_of_ne_first hall ho₁ (hfree o₁ ho₁)
        hfirst hne₁
      rw [← hname] at hfirst
      have hfind₂ := find?_joinedName_of_ne_first hall ho₂ (hfree o₂ ho₂)
        hfirst hne₂
      -- one joined name would hold the values of both
      have hsame : o₂.joinedName = o₁.joinedName := by
        change o₂.intent ++ "_" ++ o₂.plainName =
          o₁.intent ++ "_" ++ o₁.plainName
        rw [hintent, hname]
      rw [hsame, hfind₁, Option.some.injEq] at hfind₂
      exact absurd hfind₂ hne

end SlotDictionary

namespace Grammar

/-- Compilation fails exactly at the first choice with both names taken, and
without underscores exactly if some parameter is contested in some intent. -/
theorem compile_fails_iff_blocked (definitions : List Definition) :
    (∀ e, compile definitions = .error e ↔
      ∃ before o after,
        namedWalk definitions = before ++ o :: after ∧
        Blocked (SlotDictionary.assignments Dict.empty before) o ∧
        (∀ before' o' after', before = before' ++ o' :: after' →
          ¬ Blocked (SlotDictionary.assignments Dict.empty before') o') ∧
        e = .slotCollision (o.intent ++ "_" ++ o.choice.name) o.intent) ∧
    ((∃ e, compile definitions = .error e) ↔
      ∃ before o after,
        namedWalk definitions = before ++ o :: after ∧
        Blocked (SlotDictionary.assignments Dict.empty before) o) ∧
    ((∀ o ∈ namedWalk definitions, '_' ∉ o.choice.name.toList) →
      ((∃ e, compile definitions = .error e) ↔
        ∃ intent name, Contested (namedWalk definitions) intent name)) := by
  simp only [compile_eq_error_iff]
  refine ⟨fun e => SlotDictionary.enterAll_eq_error_iff_first_blocked,
    SlotDictionary.exists_enterAll_error_iff_blocked, fun hfree => ?_⟩
  constructor
  · rintro ⟨e, h⟩
    exact SlotDictionary.contested_of_error hfree h
  · rintro ⟨intent, name, h⟩
    exact SlotDictionary.error_of_contested hfree h

def contestedDefinitions : List Definition :=
  [{ name := "Go", sentences := [[.choice goRoom]] },
   { name := "Light"
     sentences :=
      [[.choice lightRoom],
       [.choice { lightRoom with values := roomNames ++ floorNames }]] }]

theorem compile_fails_iff_blocked_contested :
    (∀ o ∈ namedWalk contestedDefinitions, '_' ∉ o.choice.name.toList) ∧
      compile contestedDefinitions =
        .error (.slotCollision "Light_Room" "Light") ∧
      ∃ intent name,
        Contested (namedWalk contestedDefinitions) intent name := by
  have hfree : ∀ o ∈ namedWalk contestedDefinitions,
      '_' ∉ o.choice.name.toList := by decide
  have herror : compile contestedDefinitions =
      .error (.slotCollision "Light_Room" "Light") := rfl
  have hiff := (compile_fails_iff_blocked contestedDefinitions).2.2 hfree
  exact ⟨hfree, herror, hiff.mp ⟨_, herror⟩⟩

end Grammar

end VoiceHub
