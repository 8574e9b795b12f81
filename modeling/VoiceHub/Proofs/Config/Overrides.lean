import Mathlib.Logic.Function.Basic
import VoiceHub.Config
import VoiceHub.Proofs.Numeral

/-!
# What the environment overrides

Four variables may override a field each, and they apply in a fixed order.  The first
one whose value cannot be read stops the rest: the fields of the variables before it
are overridden then, and all others are as they were.
-/

namespace VoiceHub

namespace Config

variable {lookup look : String → Option String} {c c₀ c' c'' : Config} {value : String}
  {setting : Setting}

/-! ## Values and fields -/

def listenKey : String := "INTENT_HUB_LISTEN_ADDR"

def urlKey : String := "RHASSPY_API_URL"

def publishKey : String := "INTENT_HUB_PUBLISH_ON_STARTUP"

def delayKey : String := "INTENT_HUB_CONVERSATION_DELAY_MS"

def settingKeys : List String := [listenKey, urlKey, publishKey, delayKey]

def ReadsAddress (value : String) (a : Address) : Prop :=
  Address.ofChars? (Text.trim value.toList) = some a

def ReadsFlag (value : String) (b : Bool) : Prop :=
  Text.trim value.toList = (if b then "true" else "false").toList

def ReadsDelay (value : String) (n : Nat) : Prop :=
  Decimal.Spells (Text.trim value.toList) n ∧ n < 2 ^ 64

structure Readable (key value : String) : Prop where
  address : key = listenKey → ∃ a, ReadsAddress value a
  flag : key = publishKey → ∃ b, ReadsFlag value b
  delay : key = delayKey → ∃ n, ReadsDelay value n

def Follows {α : Type} (given : Option String) (reads : String → α → Prop) (old new : α) :
    Prop :=
  match given with
  | some value => reads value new
  | none => new = old

/-- The fields whose variables are given follow them, and nothing else has changed. -/
structure Overrides (lookup : String → Option String) (c c' : Config) : Prop where
  address : Follows (lookup listenKey) ReadsAddress c.listenAddress c'.listenAddress
  url : Follows (lookup urlKey) (fun value url => url = value) c.apiUrl c'.apiUrl
  flag : Follows (lookup publishKey) ReadsFlag c.publishOnStartup c'.publishOnStartup
  delay : Follows (lookup delayKey) ReadsDelay c.followUpDelay c'.followUpDelay
  defaultSpeaker : c'.defaultSpeaker = c.defaultSpeaker
  speakers : c'.speakers = c.speakers

def among (keys : List String) (lookup : String → Option String) (key : String) :
    Option String :=
  if key ∈ keys then lookup key else none

/-! ## One setting -/

theorem flag?_eq_some_iff {b : Bool} : flag? value = some b ↔ ReadsFlag value b := by
  unfold flag? trimmed ReadsFlag
  by_cases htrue : Text.trim value.toList = "true".toList
  · rw [htrue]
    cases b <;> decide
  · rw [if_neg htrue]
    cases b
    · constructor
      · intro h
        split at h
        · next hfalse => exact hfalse
        · cases h
      · intro h
        exact if_pos h
    · constructor
      · intro h
        split at h <;> cases h
      · intro h
        exact absurd h htrue

theorem set?_cases (h : setting ∈ settings) :
    (setting.key = listenKey ∧ ∀ c value c', setting.set? c value = some c' ↔
      ∃ a, ReadsAddress value a ∧ { c with listenAddress := a } = c') ∨
    (setting.key = urlKey ∧ ∀ c value c', setting.set? c value = some c' ↔
      { c with apiUrl := value } = c') ∨
    (setting.key = publishKey ∧ ∀ c value c', setting.set? c value = some c' ↔
      ∃ b, ReadsFlag value b ∧ { c with publishOnStartup := b } = c') ∨
    (setting.key = delayKey ∧ ∀ c value c', setting.set? c value = some c' ↔
      ∃ n, ReadsDelay value n ∧ { c with followUpDelay := n } = c') := by
  simp only [settings, List.mem_cons, List.not_mem_nil, or_false] at h
  rcases h with rfl | rfl | rfl | rfl
  · left
    refine ⟨rfl, fun c value c' => ?_⟩
    exact Option.map_eq_some_iff
  · right; left
    refine ⟨rfl, fun c value c' => ?_⟩
    exact Option.some_inj
  · right; right; left
    refine ⟨rfl, fun c value c' => ?_⟩
    simp only [← flag?_eq_some_iff]
    exact Option.map_eq_some_iff
  · right; right; right
    refine ⟨rfl, fun c value c' => ?_⟩
    simp only [ReadsDelay, ← Decimal.word64?_eq_some_iff]
    exact Option.map_eq_some_iff

theorem exists_set?_iff (h : setting ∈ settings) (c : Config) (value : String) :
    (∃ c', setting.set? c value = some c') ↔ Readable setting.key value := by
  rcases set?_cases h with ⟨hkey, hset⟩ | ⟨hkey, hset⟩ | ⟨hkey, hset⟩ | ⟨hkey, hset⟩
  · simp only [hset, hkey]
    constructor
    · rintro ⟨c', a, ha, -⟩
      exact ⟨fun _ => ⟨a, ha⟩, fun hne => absurd hne (by decide), fun hne => absurd hne (by decide)⟩
    · intro hread
      obtain ⟨a, ha⟩ := hread.address rfl
      exact ⟨_, a, ha, rfl⟩
  · simp only [hset, hkey]
    constructor
    · intro _
      constructor <;> intro hne <;> exact absurd hne (by decide)
    · intro _
      exact ⟨_, rfl⟩
  · simp only [hset, hkey]
    constructor
    · rintro ⟨c', b, hb, -⟩
      exact ⟨fun hne => absurd hne (by decide), fun _ => ⟨b, hb⟩, fun hne => absurd hne (by decide)⟩
    · intro hread
      obtain ⟨b, hb⟩ := hread.flag rfl
      exact ⟨_, b, hb, rfl⟩
  · simp only [hset, hkey]
    constructor
    · rintro ⟨c', n, hn, -⟩
      exact ⟨fun hne => absurd hne (by decide), fun hne => absurd hne (by decide), fun _ => ⟨n, hn⟩⟩
    · intro hread
      obtain ⟨n, hn⟩ := hread.delay rfl
      exact ⟨_, n, hn, rfl⟩

theorem Overrides.refl (c : Config) : Overrides (among [] lookup) c c := by
  constructor <;> rfl

theorem Overrides.update (h : Overrides look c₀ c) (hmem : setting ∈ settings)
    (hset : setting.set? c value = some c') :
    Overrides (Function.update look setting.key (some value)) c₀ c' := by
  have other {α : Type} {key : String} {reads : String → α → Prop} {old new : α}
      (hne : key ≠ setting.key) (hkept : Follows (look key) reads old new) :
      Follows (Function.update look setting.key (some value) key) reads old new := by
    rw [Function.update_of_ne hne]
    exact hkept
  have own {α : Type} {reads : String → α → Prop} {old new : α} (hread : reads value new) :
      Follows (Function.update look setting.key (some value) setting.key) reads old new := by
    rw [Function.update_self]
    exact hread
  rcases set?_cases hmem with ⟨hkey, hcase⟩ | ⟨hkey, hcase⟩ | ⟨hkey, hcase⟩ | ⟨hkey, hcase⟩
  · obtain ⟨a, ha, rfl⟩ := (hcase _ _ _).mp hset
    rw [hkey] at other own ⊢
    exact ⟨own ha, other (by decide) h.url, other (by decide) h.flag, other (by decide) h.delay,
      h.defaultSpeaker, h.speakers⟩
  · obtain rfl := (hcase _ _ _).mp hset
    rw [hkey] at other own ⊢
    exact ⟨other (by decide) h.address, own rfl, other (by decide) h.flag,
      other (by decide) h.delay, h.defaultSpeaker, h.speakers⟩
  · obtain ⟨b, hb, rfl⟩ := (hcase _ _ _).mp hset
    rw [hkey] at other own ⊢
    exact ⟨other (by decide) h.address, other (by decide) h.url, own hb,
      other (by decide) h.delay, h.defaultSpeaker, h.speakers⟩
  · obtain ⟨n, hn, rfl⟩ := (hcase _ _ _).mp hset
    rw [hkey] at other own ⊢
    exact ⟨other (by decide) h.address, other (by decide) h.url, other (by decide) h.flag,
      own hn, h.defaultSpeaker, h.speakers⟩

/-! ## All settings in turn -/

theorem among_concat_of_none {keys : List String} {key : String} (h : lookup key = none) :
    among (keys ++ [key]) lookup = among keys lookup := by
  funext other
  by_cases hother : other = key
  · simp [among, hother, h]
  · simp [among, hother]

theorem among_concat_of_some {keys : List String} {key : String}
    (h : lookup key = some value) :
    among (keys ++ [key]) lookup = Function.update (among keys lookup) key (some value) := by
  funext other
  by_cases hother : other = key
  · simp [among, hother, h]
  · simp [among, hother]

/-- How far the variables come: all of them apply, or those before the first one that
cannot be read. -/
inductive Settled (lookup : String → Option String) (keys : List String) (c : Config) :
    Overridden → Prop
  | all {c' : Config} (hread : ∀ key ∈ keys, ∀ value, lookup key = some value → Readable key value)
      (h : Overrides (among keys lookup) c c') : Settled lookup keys c { config := c' }
  | upTo {before after : List String} {key value : String} {c' : Config}
      (hkeys : keys = before ++ key :: after) (hgiven : lookup key = some value)
      (hfault : ¬ Readable key value)
      (hread : ∀ key ∈ before, ∀ value, lookup key = some value → Readable key value)
      (h : Overrides (among before lookup) c c') :
      Settled lookup keys c { config := c', fault := some (.invalidValue key value) }

theorem settled_applySettings {rest : List Setting} (hrest : ∀ s ∈ rest, s ∈ settings)
    {before : List String}
    (hread : ∀ key ∈ before, ∀ value, lookup key = some value → Readable key value)
    (h : Overrides (among before lookup) c₀ c) :
    Settled lookup (before ++ rest.map Setting.key) c₀ (applySettings lookup rest c) := by
  -- on the settings still to be made; those made so far stay in front
  induction rest generalizing before c with
  | nil =>
      rw [List.map_nil, List.append_nil]
      exact .all hread h
  | cons setting rest ih =>
      have hsetting := hrest setting List.mem_cons_self
      have hlater : ∀ s ∈ rest, s ∈ settings := fun s hs => hrest s (List.mem_cons_of_mem _ hs)
      have hkeys : before ++ (setting :: rest).map Setting.key =
          (before ++ [setting.key]) ++ rest.map Setting.key := by
        simp
      unfold applySettings
      cases hgiven : lookup setting.key with
      | none =>
          rw [hkeys]
          apply ih hlater
          · intro key hkey value hvalue
            rcases List.mem_append.mp hkey with hbefore | hlast
            · exact hread key hbefore value hvalue
            · rw [List.mem_singleton.mp hlast, hgiven] at hvalue
              contradiction
          · rw [among_concat_of_none hgiven]
            exact h
      | some value =>
          dsimp only
          cases hset : setting.set? c value with
          | none =>
              refine .upTo rfl hgiven ?_ hread h
              rw [← exists_set?_iff hsetting c value, hset]
              simp
          | some c' =>
              have hvalue : Readable setting.key value :=
                (exists_set?_iff hsetting c value).mp ⟨c', hset⟩
              rw [hkeys]
              apply ih hlater
              · intro key hkey value' hvalue'
                rcases List.mem_append.mp hkey with hbefore | hlast
                · exact hread key hbefore value' hvalue'
                · rw [List.mem_singleton.mp hlast] at hvalue' ⊢
                  rw [hgiven] at hvalue'
                  obtain rfl := Option.some.inj hvalue'
                  exact hvalue
              · rw [among_concat_of_some hgiven]
                exact h.update hsetting hset

theorem settled_override (lookup : String → Option String) (c : Config) :
    Settled lookup settingKeys c (override lookup c) := by
  have hnone : ∀ key ∈ ([] : List String), ∀ value, lookup key = some value →
      Readable key value := by
    simp
  exact settled_applySettings (fun _ h => h) hnone (.refl c)

/-! ## The same environment again -/

theorem Follows.unique {α : Type} {given : Option String} {reads : String → α → Prop}
    {old new newer : α} (hunique : ∀ value a b, reads value a → reads value b → a = b)
    (h : Follows given reads old new) (h' : Follows given reads new newer) : newer = new := by
  cases given with
  | none => exact h'
  | some value => exact hunique value newer new h' h

theorem Overrides.again (h : Overrides lookup c c') (h' : Overrides lookup c' c'') :
    c'' = c' := by
  have haddress : c''.listenAddress = c'.listenAddress := by
    apply h.address.unique _ h'.address
    intro value a b ha hb
    exact Option.some.inj (ha.symm.trans hb)
  have hurl : c''.apiUrl = c'.apiUrl := by
    apply h.url.unique _ h'.url
    intro value a b ha hb
    exact ha.trans hb.symm
  have hflag : c''.publishOnStartup = c'.publishOnStartup := by
    apply h.flag.unique _ h'.flag
    intro value a b ha hb
    rw [← flag?_eq_some_iff] at ha hb
    exact Option.some.inj (ha.symm.trans hb)
  have hdelay : c''.followUpDelay = c'.followUpDelay := by
    apply h.delay.unique _ h'.delay
    intro value a b ha hb
    exact Option.some.inj
      ((Decimal.word64?_eq_some_iff.mpr ha).symm.trans (Decimal.word64?_eq_some_iff.mpr hb))
  have hspeaker := h'.defaultSpeaker
  have hspeakers := h'.speakers
  cases c''
  cases c'
  dsimp only at haddress hurl hflag hdelay hspeaker hspeakers
  rw [haddress, hurl, hflag, hdelay, hspeaker, hspeakers]

theorem Overrides.of_among (h : Overrides (among settingKeys lookup) c c') :
    Overrides lookup c c' := by
  have hsame : ∀ key ∈ settingKeys, among settingKeys lookup key = lookup key := by
    intro key hkey
    simp [among, hkey]
  obtain ⟨haddress, hurl, hflag, hdelay, hspeaker, hspeakers⟩ := h
  rw [hsame _ (by decide)] at haddress hurl hflag hdelay
  exact ⟨haddress, hurl, hflag, hdelay, hspeaker, hspeakers⟩

/-- If all that is given can be read, it is overridden, and a second time changes nothing.
If not, the error names the first value at fault, and the variables before it have been
overridden alone. -/
theorem override_up_to_first_fault (lookup : String → Option String) (c : Config) :
    ((override lookup c).fault = none ↔
      ∀ key ∈ settingKeys, ∀ value, lookup key = some value → Readable key value) ∧
    ((override lookup c).fault = none →
      Overrides lookup c (override lookup c).config ∧
        override lookup (override lookup c).config = override lookup c) ∧
    ∀ e, (override lookup c).fault = some e →
      ∃ before key after value, settingKeys = before ++ key :: after ∧
        lookup key = some value ∧ ¬ Readable key value ∧
        (∀ earlier ∈ before, ∀ value, lookup earlier = some value → Readable earlier value) ∧
        e = .invalidValue key value ∧
        Overrides (among before lookup) c (override lookup c).config := by
  have hmem {before after : List String} {key : String}
      (hkeys : settingKeys = before ++ key :: after) : key ∈ settingKeys := by
    rw [hkeys]
    exact List.mem_append_right before List.mem_cons_self
  have hsettled := settled_override lookup c
  generalize override lookup c = o at hsettled ⊢
  cases hsettled with
  | @all c' hread h =>
      refine ⟨⟨fun _ => hread, fun _ => rfl⟩, fun _ => ⟨h.of_among, ?_⟩, nofun⟩
      have hagain := settled_override lookup c'
      dsimp only
      generalize override lookup c' = o' at hagain ⊢
      cases hagain with
      | all _ h' => rw [h.again h']
      | upTo hkeys hgiven hfault =>
          exact absurd (hread _ (hmem hkeys) _ hgiven) hfault
  | upTo hkeys hgiven hfault hread h =>
      refine ⟨⟨nofun, fun hall => ?_⟩, nofun, fun e he => ?_⟩
      · exact absurd (hall _ (hmem hkeys) _ hgiven) hfault
      · cases he
        exact ⟨_, _, _, _, hkeys, hgiven, hfault, hread, rfl, h⟩

/-- The address and the URL are overridden before the flag is found to be at fault. -/
example :
    let env : Environment := Dict.ofList
      [(delayKey, "250"), (publishKey, " yes "), (urlKey, "http://den "), (listenKey, " 1.2.3.4:5\n")]
    override env.find? {} =
      { config := { listenAddress := ⟨.octets ⟨1, 2, 3, 4⟩, 5⟩, apiUrl := "http://den " }
        fault := some (.invalidValue publishKey " yes ") } := by
  decide +kernel

end Config

end VoiceHub
