import RegistrySearch.Config.Load
import RegistrySearch.Proofs.Config.Layers
import RegistrySearch.Proofs.Except

/-!
# The settings of a configuration

Which values a setting takes, and what it is then. Reading a configuration goes through its entries, and each entry of a setting replaces what was there before it. Since no key is there twice, the order of the entries does not matter to the settings: each is read from the value of its key, or stays what it was (`LoadedSettings.setAll_eq_ok_iff`). It matters only to which of several faults is reported (`LoadedSettings.setAll_eq_error`).
-/

namespace RegistrySearch

/-- The keys are texts without halves in them. -/
def Config.HasTextKeys (config : Config) : Prop :=
  config.KeysAre fun key => ∃ name, key = .text name

/-! ### One value -/

namespace ConfigValue

variable {value : ConfigValue}

/-- What a value is as a text: its code points, whether all of them are characters or not. -/
inductive IsText : ConfigValue → List CodePoint → Prop
  | text (s : String) : IsText (scalar (.text s)) (CodePoint.ofChars s.toList)
  | halves (s : List CodePoint) : IsText (scalar (.halves s)) s

/-- What a value is as a flag: itself, as a number, or in words with letters of any case. -/
inductive IsFlag : ConfigValue → Bool → Prop
  | bool (b : Bool) : IsFlag (scalar (.bool b)) b
  | zero : IsFlag (scalar (.int 0)) false
  | one : IsFlag (scalar (.int 1)) true
  | no {s : String} (h : s.toLower = "false" ∨ s = "0") : IsFlag (scalar (.text s)) false
  | yes {s : String} (h : s.toLower = "true" ∨ s = "1") : IsFlag (scalar (.text s)) true

theorem asText_eq_ok_iff {s : List CodePoint} : value.asText = .ok s ↔ value.IsText s := by
  constructor
  · intro h
    unfold asText at h
    split at h
    · cases h
      exact .text _
    · cases h
      exact .halves _
    · cases h
  · intro h
    cases h <;> rfl

/-- No word stands for both. -/
theorem not_yes_of_no {s : String} (h : s.toLower = "false" ∨ s = "0") : ¬ (s.toLower = "true" ∨ s = "1") := by
  rcases h with h | rfl
  · rintro (hyes | rfl)
    · rw [h] at hyes
      exact absurd hyes (by decide)
    · exact absurd h (by decide +kernel)
  · decide +kernel

theorem asFlag_eq_ok_iff {b : Bool} : value.asFlag = .ok b ↔ value.IsFlag b := by
  constructor
  · intro h
    unfold asFlag at h
    split at h
    · cases h
      exact .bool b
    · cases h
      exact .zero
    · cases h
      exact .one
    · split at h
      · cases h
        exact .yes ‹_›
      · split at h
        · cases h
          exact .no ‹_›
        · cases h
    · cases h
    · cases h
  · intro h
    cases h with
    | bool _ => rfl
    | zero => rfl
    | one => rfl
    | no h => rw [asFlag, if_neg (not_yes_of_no h), if_pos h]
    | yes h => rw [asFlag, if_pos h]

theorem shallow_asText : Config.Shallow asText := fun _ _ => rfl

theorem shallow_asFlag : Config.Shallow asFlag := fun _ _ => rfl

end ConfigValue

/-! ### One setting -/

section Taken

variable {α : Type} {reads : ConfigValue → α → Prop} {default x : α} {value? : Option ConfigValue}

/-- What a setting is after it is given a value, or nothing. -/
def Taken (reads : ConfigValue → α → Prop) (default : α) : Option ConfigValue → α → Prop
  | none, x => x = default
  | some value, x => reads value x

theorem exists_taken_iff : (∃ x, Taken reads default value? x) ↔ ∀ value, value? = some value → ∃ x, reads value x := by
  cases value? with
  | none => exact iff_of_true ⟨default, rfl⟩ fun value h => nomatch h
  | some value => simp [Taken]

/-- Of two values of which only one is given, that one is read. -/
theorem taken_or {first next : Option ConfigValue} (h : first = none ∨ next = none) :
    (∃ y, Taken reads default first y ∧ Taken reads y next x) ↔ Taken reads default (first.or next) x := by
  rcases h with rfl | rfl
  · simp [Taken]
  · cases first <;> simp [Taken]

/-- It does not matter what the value is beyond how it is read. -/
theorem taken_congr {ε : Type} {read : ConfigValue → Except ε α} (hread : ∀ {value x}, read value = .ok x ↔ reads value x)
    {other? : Option ConfigValue} (h : value?.map read = other?.map read) :
    Taken reads default value? x ↔ Taken reads default other? x := by
  cases value? <;> cases other? <;> simp_all [Taken, ← hread]

end Taken

/-! ### All settings -/

namespace LoadedSettings

attribute [ext] LoadedSettings

variable {start settings : LoadedSettings} {value? other? : String → Option ConfigValue}

/-- The keys of the settings that are texts. -/
def textKeys : List String := ["declaration_namespace", "fullname_subfield", "fuzziness"]

/-- The keys of all settings. -/
def keys : List String := textKeys ++ ["cache_name_fields"]

/-- Settings after their keys are given values, each read from its own. -/
@[mk_iff]
structure TakenFrom (start : LoadedSettings) (value? : String → Option ConfigValue) (settings : LoadedSettings) :
    Prop where
  declarationNamespace :
    Taken ConfigValue.IsText start.declarationNamespace (value? "declaration_namespace") settings.declarationNamespace
  fullnameSubfield :
    Taken ConfigValue.IsText start.fullnameSubfield (value? "fullname_subfield") settings.fullnameSubfield
  fuzziness : Taken ConfigValue.IsText start.fuzziness (value? "fuzziness") settings.fuzziness
  cacheNameFields : Taken ConfigValue.IsFlag start.cacheNameFields (value? "cache_name_fields") settings.cacheNameFields

/-- Every value that a setting is given can be read as one of its kind. -/
def Convertible (value? : String → Option ConfigValue) : Prop :=
  (∀ key ∈ textKeys, ∀ value, value? key = some value → ∃ s, value.IsText s)
    ∧ ∀ value, value? "cache_name_fields" = some value → ∃ b, value.IsFlag b

/-- A value that a key is given cannot be read, for a reason. -/
inductive Refuses : (key : String) → ConfigValue → SettingsFault → Prop
  | text {key : String} {value : ConfigValue} {fault : SettingsFault} (hkey : key ∈ textKeys)
      (h : under key value.asText = .error fault) : Refuses key value fault
  | flag {value : ConfigValue} {fault : SettingsFault} (h : under "cache_name_fields" value.asFlag = .error fault) :
      Refuses "cache_name_fields" value fault

theorem forall_mem_textKeys {P : String → Prop} :
    (∀ key ∈ textKeys, P key) ↔ P "declaration_namespace" ∧ P "fullname_subfield" ∧ P "fuzziness" := by
  simp [textKeys]

theorem exists_takenFrom_iff : (∃ settings, TakenFrom start value? settings) ↔ Convertible value? := by
  rw [Convertible, forall_mem_textKeys]
  constructor
  · rintro ⟨settings, h⟩
    exact ⟨⟨exists_taken_iff.1 ⟨_, h.declarationNamespace⟩, exists_taken_iff.1 ⟨_, h.fullnameSubfield⟩,
      exists_taken_iff.1 ⟨_, h.fuzziness⟩⟩, exists_taken_iff.1 ⟨_, h.cacheNameFields⟩⟩
  · rintro ⟨⟨hnamespace, hsubfield, hfuzziness⟩, hcache⟩
    obtain ⟨a, ha⟩ : ∃ x, Taken ConfigValue.IsText start.declarationNamespace _ x := exists_taken_iff.2 hnamespace
    obtain ⟨b, hb⟩ : ∃ x, Taken ConfigValue.IsText start.fullnameSubfield _ x := exists_taken_iff.2 hsubfield
    obtain ⟨c, hc⟩ : ∃ x, Taken ConfigValue.IsText start.fuzziness _ x := exists_taken_iff.2 hfuzziness
    obtain ⟨d, hd⟩ : ∃ x, Taken ConfigValue.IsFlag start.cacheNameFields _ x := exists_taken_iff.2 hcache
    exact ⟨⟨a, b, c, d⟩, ha, hb, hc, hd⟩

theorem convertible_of_none (h : ∀ key ∈ keys, value? key = none) : Convertible value? := by
  constructor
  · intro key hkey value hvalue
    rw [h key (List.mem_append_left _ hkey)] at hvalue
    cases hvalue
  · intro value hvalue
    rw [h _ (List.mem_append_right _ List.mem_cons_self)] at hvalue
    cases hvalue

/-- Two rounds of values, of which no key is given one in both. -/
theorem takenFrom_or {first next : String → Option ConfigValue} (h : ∀ key, first key = none ∨ next key = none) :
    (∃ mid, TakenFrom start first mid ∧ TakenFrom mid next settings)
      ↔ TakenFrom start (fun key => (first key).or (next key)) settings := by
  constructor
  · rintro ⟨mid, hfirst, hnext⟩
    exact ⟨(taken_or (h _)).1 ⟨_, hfirst.1, hnext.1⟩, (taken_or (h _)).1 ⟨_, hfirst.2, hnext.2⟩,
      (taken_or (h _)).1 ⟨_, hfirst.3, hnext.3⟩, (taken_or (h _)).1 ⟨_, hfirst.4, hnext.4⟩⟩
  · rintro ⟨hnamespace, hsubfield, hfuzziness, hcache⟩
    obtain ⟨a, ha, ha'⟩ := (taken_or (h _)).2 hnamespace
    obtain ⟨b, hb, hb'⟩ := (taken_or (h _)).2 hsubfield
    obtain ⟨c, hc, hc'⟩ := (taken_or (h _)).2 hfuzziness
    obtain ⟨d, hd, hd'⟩ := (taken_or (h _)).2 hcache
    exact ⟨⟨a, b, c, d⟩, ⟨ha, hb, hc, hd⟩, ⟨ha', hb', hc', hd'⟩⟩

/-! ### Entry by entry -/

theorem takenFrom_none : TakenFrom start (fun _ => none) settings ↔ settings = start := by
  constructor
  · rintro ⟨hnamespace, hsubfield, hfuzziness, hcache⟩
    obtain ⟨a, b, c, d⟩ := settings
    cases hnamespace
    cases hsubfield
    cases hfuzziness
    cases hcache
    rfl
  · rintro rfl
    exact ⟨rfl, rfl, rfl, rfl⟩

theorem under_map_eq_ok_iff {α β : Type} {key : String} {outcome : Except SettingsFault α} {f : α → β} {y : β} :
    under key (outcome.map f) = .ok y ↔ ∃ x, outcome = .ok x ∧ f x = y :=
  mapError_eq_ok.trans map_eq_ok

/-- An entry gives its own setting a value, and none to the others. -/
theorem set_eq_ok_iff (name : String) (value : ConfigValue) :
    start.set (.text name) value = .ok settings
      ↔ TakenFrom start (fun key => if name = key then some value else none) settings := by
  rw [takenFrom_iff]
  unfold set
  split
  · rename_i h
    cases h
    simp only [under_map_eq_ok_iff, ConfigValue.asText_eq_ok_iff, LoadedSettings.ext_iff]
    simp [Taken, eq_comm]
  · rename_i h
    cases h
    simp only [under_map_eq_ok_iff, ConfigValue.asText_eq_ok_iff, LoadedSettings.ext_iff]
    simp [Taken, eq_comm, and_left_comm]
  · rename_i h
    cases h
    simp only [under_map_eq_ok_iff, ConfigValue.asText_eq_ok_iff, LoadedSettings.ext_iff]
    simp [Taken, eq_comm, and_left_comm]
  · rename_i h
    cases h
    simp only [under_map_eq_ok_iff, ConfigValue.asFlag_eq_ok_iff, LoadedSettings.ext_iff]
    simp [Taken, eq_comm, and_comm (a := ConfigValue.IsFlag _ _), and_assoc]
  · simp_all [Taken, LoadedSettings.ext_iff, eq_comm]
  · rename_i h
    cases h
  · rename_i h _
    exact absurd rfl (h name)

theorem under_map_eq_error {α β : Type} {key : String} {outcome : Except SettingsFault α} {f : α → β}
    {fault : SettingsFault} (h : under key (outcome.map f) = .error fault) : under key outcome = .error fault := by
  obtain ⟨cause, hcause, hfault⟩ := mapError_eq_error.1 h
  exact mapError_eq_error.2 ⟨cause, map_eq_error.1 hcause, hfault⟩

theorem set_eq_error {name : String} {value : ConfigValue} {fault : SettingsFault}
    (h : start.set (.text name) value = .error fault) : Refuses name value fault := by
  unfold set at h
  split at h
  · rename_i heq
    cases heq
    exact .text (by decide) (under_map_eq_error h)
  · rename_i heq
    cases heq
    exact .text (by decide) (under_map_eq_error h)
  · rename_i heq
    cases heq
    exact .text (by decide) (under_map_eq_error h)
  · rename_i heq
    cases heq
    exact .flag (under_map_eq_error h)
  · cases h
  · rename_i heq
    cases heq
  · rename_i hno _
    exact absurd rfl (hno name)

variable {config : Config}

theorem get?_cons_text (name : String) (value : ConfigValue) (rest : Config) (key : String) :
    Config.get? ((.text name, value) :: rest) (.text key)
      = (if name = key then some value else none).or (Config.get? rest (.text key)) := by
  rw [Config.get?]
  by_cases hkey : name = key
  · rw [if_pos (Scalar.sameKey_text_iff.2 (congrArg Scalar.text hkey)), if_pos hkey, Option.some_or]
  · rw [if_neg fun h => hkey (Scalar.text.inj (Scalar.sameKey_text_iff.1 h)), if_neg hkey, Option.none_or]

/-- Settings after a configuration, in which no key hides another one. -/
theorem setAll_eq_ok_iff (hdistinct : config.DistinctKeys) (hkeys : config.HasTextKeys) :
    start.setAll config = .ok settings ↔ TakenFrom start (fun key => config.get? (.text key)) settings := by
  induction config generalizing start with
  | nil =>
      rw [setAll, Except.ok.injEq]
      exact eq_comm.trans takenFrom_none.symm
  | cons entry rest ih =>
      obtain ⟨k, value⟩ := entry
      obtain ⟨⟨name, rfl⟩, hrest⟩ := List.forall_mem_cons.1 hkeys
      -- No entry of the rest has the key of this one, so what it gives its setting stays.
      have honce : ∀ key, (if name = key then some value else none) = none ∨ Config.get? rest (.text key) = none := by
        intro key
        by_cases hkey : name = key
        · exact .inr (hkey ▸ hdistinct.get?_rest)
        · exact .inl (if_neg hkey)
      rw [setAll, bind_eq_ok]
      simp only [set_eq_ok_iff, ih hdistinct.rest hrest, get?_cons_text]
      exact takenFrom_or honce

/-- A fault is that of a value which is there for a setting. -/
theorem setAll_eq_error (hdistinct : config.DistinctKeys) (hkeys : config.HasTextKeys) {fault : SettingsFault}
    (h : start.setAll config = .error fault) :
    ∃ key value, config.get? (.text key) = some value ∧ Refuses key value fault := by
  induction config generalizing start with
  | nil => cases h
  | cons entry rest ih =>
      obtain ⟨k, value⟩ := entry
      obtain ⟨⟨name, rfl⟩, hrest⟩ := List.forall_mem_cons.1 hkeys
      rw [setAll, bind_eq_error] at h
      rcases h with hset | ⟨mid, -, hall⟩
      · refine ⟨name, value, ?_, set_eq_error hset⟩
        rw [get?_cons_text, if_pos rfl, Option.some_or]
      · obtain ⟨key, other, hget, hrefuses⟩ := ih hdistinct.rest hrest hall
        refine ⟨key, other, ?_, hrefuses⟩
        have hne : name ≠ key := by
          rintro rfl
          rw [hdistinct.get?_rest] at hget
          cases hget
        rw [get?_cons_text, if_neg hne, Option.none_or, hget]

/-! ### What is read of the values -/

/-- The values of two assignments are read alike. -/
structure ReadAlike (value? other? : String → Option ConfigValue) : Prop where
  text : ∀ key ∈ textKeys, (value? key).map ConfigValue.asText = (other? key).map ConfigValue.asText
  flag : (value? "cache_name_fields").map ConfigValue.asFlag = (other? "cache_name_fields").map ConfigValue.asFlag

theorem ReadAlike.takenFrom_iff (h : ReadAlike value? other?) :
    TakenFrom start value? settings ↔ TakenFrom start other? settings := by
  obtain ⟨⟨hnamespace, hsubfield, hfuzziness⟩, hcache⟩ := And.intro (forall_mem_textKeys.1 h.text) h.flag
  rw [LoadedSettings.takenFrom_iff, LoadedSettings.takenFrom_iff]
  exact and_congr (taken_congr ConfigValue.asText_eq_ok_iff hnamespace)
    (and_congr (taken_congr ConfigValue.asText_eq_ok_iff hsubfield)
      (and_congr (taken_congr ConfigValue.asText_eq_ok_iff hfuzziness)
        (taken_congr ConfigValue.asFlag_eq_ok_iff hcache)))

theorem ReadAlike.refuses (h : ReadAlike value? other?) {key : String} {value : ConfigValue} {fault : SettingsFault}
    (hvalue : value? key = some value) (hrefuses : Refuses key value fault) :
    ∃ other, other? key = some other ∧ Refuses key other fault := by
  cases hrefuses with
  | text hkey hfault =>
      have hread := h.text key hkey
      rw [hvalue] at hread
      obtain ⟨other, hother, heq⟩ := Option.map_eq_some_iff.1 hread.symm
      exact ⟨other, hother, .text hkey (heq ▸ hfault)⟩
  | flag hfault =>
      have hread := h.flag
      rw [hvalue] at hread
      obtain ⟨other, hother, heq⟩ := Option.map_eq_some_iff.1 hread.symm
      exact ⟨other, hother, .flag (heq ▸ hfault)⟩

end LoadedSettings

end RegistrySearch
