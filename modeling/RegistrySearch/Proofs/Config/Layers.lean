import Mathlib.Data.List.Nodup
import RegistrySearch.Config.Value

/-!
# Configurations laid over each other

What a merged configuration has under a key. Merging goes entry by entry and into maps, and it keeps the places and the forms of the keys that were there before. Seen from outside a map all of this comes down to one law: the last configuration that has the key decides (`Config.Shallow.get?_layered`). Only what a map holds can come from several configurations, so the law is stated for everything that can be told of a value without looking into maps.
-/

namespace RegistrySearch

theorem ConfigValue.kind_eq_map_iff {value : ConfigValue} : value.kind = .map ↔ ∃ entries, value = .map entries := by
  cases value with
  | scalar s => cases s <;> simp [kind, Scalar.kind]
  | list items => simp [kind]
  | map entries => simp [kind]

/-! ### Keys -/

namespace Scalar

theorem sameKey_iff {a b : Scalar} : a.sameKey b = true ↔ a.keyForm = b.keyForm :=
  decide_eq_true_iff

theorem eq_of_keyForm_eq_alone {a b : Scalar} (h : a.keyForm = .alone b) : a = b := by
  unfold keyForm at h
  split at h
  · cases h
  · split at h
    · cases h
    · exact KeyForm.alone.inj h
  · exact KeyForm.alone.inj h

theorem sameKey_congr {a b : Scalar} (h : a.sameKey b = true) (other : Scalar) : a.sameKey other = b.sameKey other := by
  rw [sameKey, sameKey, sameKey_iff.1 h]

/-- A text is the same key as no other scalar. -/
theorem sameKey_text_iff {key : Scalar} {name : String} : key.sameKey (.text name) = true ↔ key = .text name := by
  rw [sameKey_iff]
  constructor
  · exact eq_of_keyForm_eq_alone
  · rintro rfl
    rfl

end Scalar

namespace Config

variable {β : Type} {base next : Config} {key other : Scalar}

/-- No two keys of the configuration are the same. -/
def DistinctKeys (config : Config) : Prop :=
  ((config.map Prod.fst).map Scalar.keyForm).Nodup

theorem distinctKeys_nil : DistinctKeys [] :=
  List.nodup_nil

/-! ### One key -/

theorem get?_append (first second : Config) (key : Scalar) :
    get? (first ++ second) key = (get? first key).or (get? second key) := by
  induction first with
  | nil => rfl
  | cons entry first ih =>
      obtain ⟨k, v⟩ := entry
      rw [List.cons_append, get?, get?, ih]
      split <;> rfl

theorem get?_update (value : Option ConfigValue → ConfigValue) (base : Config) (key other : Scalar) :
    get? (update value base key) other
      = if key.sameKey other then some (value (get? base key)) else get? base other := by
  induction base with
  | nil => rfl
  | cons entry base ih =>
      obtain ⟨k, v⟩ := entry
      by_cases hkey : k.sameKey key = true
      · rw [update, if_pos hkey, get?, get?, get?, if_pos hkey, Scalar.sameKey_congr hkey]
        by_cases hother : key.sameKey other = true <;> simp [hother]
      · rw [update, if_neg hkey, get?, get?, get?, if_neg hkey, ih]
        by_cases hother : k.sameKey other = true
        · -- Then the key is not the other one, since it is not the key of this entry.
          have hne : ¬ key.sameKey other = true := by
            rw [Scalar.sameKey_iff] at hkey hother ⊢
            exact fun heq => hkey (hother.trans heq.symm)
          rw [if_pos hother, if_neg hne, if_pos hother]
        · rw [if_neg hother, if_neg hother]

/-- A key that was not there is put at the end, and any other one stays in its place. -/
theorem keys_update {α : Type} (value : Option α → α) (base : List (Scalar × α)) (key : Scalar) :
    (update value base key).map Prod.fst = base.map Prod.fst
      ∨ (update value base key).map Prod.fst = base.map Prod.fst ++ [key]
        ∧ ∀ entry ∈ base, entry.1.keyForm ≠ key.keyForm := by
  induction base with
  | nil => exact .inr ⟨rfl, fun entry hentry => absurd hentry List.not_mem_nil⟩
  | cons entry base ih =>
      rw [update]
      split
      · exact .inl rfl
      · rename_i hkey
        rw [Scalar.sameKey_iff] at hkey
        rcases ih with hkeys | ⟨hkeys, hnone⟩
        · exact .inl (congrArg (entry.1 :: ·) hkeys)
        · exact .inr ⟨congrArg (entry.1 :: ·) hkeys, List.forall_mem_cons.2 ⟨hkey, hnone⟩⟩

theorem DistinctKeys.update (h : base.DistinctKeys) (value : Option ConfigValue → ConfigValue) (key : Scalar) :
    DistinctKeys (Config.update value base key) := by
  unfold DistinctKeys at h ⊢
  rcases keys_update value base key with hkeys | ⟨hkeys, hnone⟩
  · rw [hkeys]
    exact h
  · rw [hkeys, List.map_append, List.nodup_append]
    refine ⟨h, List.nodup_singleton _, fun form hform last hlast heq => ?_⟩
    obtain ⟨k, hk, rfl⟩ := List.mem_map.1 hform
    obtain ⟨entry, hentry, rfl⟩ := List.mem_map.1 hk
    rw [List.map_singleton, List.mem_singleton] at hlast
    exact hnone entry hentry (heq.trans hlast)

/-- Every key has the property. -/
def KeysAre (P : Scalar → Prop) (config : Config) : Prop :=
  ∀ key ∈ config.map Prod.fst, P key

theorem KeysAre.update {P : Scalar → Prop} (h : base.KeysAre P) (hkey : P key)
    (value : Option ConfigValue → ConfigValue) : KeysAre P (Config.update value base key) := by
  unfold KeysAre at h ⊢
  rcases keys_update value base key with hkeys | ⟨hkeys, -⟩
  · rw [hkeys]
    exact h
  · rw [hkeys, List.forall_mem_append, List.forall_mem_singleton]
    exact ⟨h, hkey⟩

theorem DistinctKeys.get?_rest {value : ConfigValue} {rest : Config} (h : DistinctKeys ((key, value) :: rest)) :
    get? rest key = none := by
  have hhead : key.keyForm ∉ (rest.map Prod.fst).map Scalar.keyForm := (List.nodup_cons.1 h).1
  clear h
  induction rest with
  | nil => rfl
  | cons entry rest ih =>
      obtain ⟨k, v⟩ := entry
      rw [List.map_cons, List.map_cons, List.mem_cons, not_or] at hhead
      rw [get?, if_neg fun hkey => hhead.1 (Scalar.sameKey_iff.1 hkey).symm]
      exact ih hhead.2

theorem DistinctKeys.rest {entry : Scalar × ConfigValue} {rest : Config} (h : DistinctKeys (entry :: rest)) :
    DistinctKeys rest :=
  (List.nodup_cons.1 h).2

/-! ### Merging -/

/-- It does not matter whether the value of a key is looked up before or where it is replaced. -/
theorem update_get? (f : Option ConfigValue → ConfigValue) (base : Config) (key : Scalar) :
    update (fun _ => f (get? base key)) base key = update f base key := by
  induction base with
  | nil => rfl
  | cons entry base ih =>
      obtain ⟨k, v⟩ := entry
      rw [update, update, get?]
      by_cases hkey : k.sameKey key = true
      · simp only [hkey, if_true]
      · simp only [hkey, if_false, Bool.false_eq_true, ih]

theorem merge_cons (base : Config) (key : Scalar) (value : ConfigValue) (rest : Config) :
    merge base ((key, value) :: rest) = merge (update (fun old => mergeValue old value) base key) rest := by
  rw [← update_get?]
  rfl

theorem mergeValue_maps (before entries : Config) :
    mergeValue (some (.map before)) (.map entries) = .map (merge before entries) := by
  rfl

/-- Two maps are merged. Everything else is replaced. -/
theorem mergeValue_cases (old : Option ConfigValue) (value : ConfigValue) :
    (∃ before entries, old = some (.map before) ∧ value = .map entries
        ∧ mergeValue old value = .map (merge before entries))
      ∨ mergeValue old value = value := by
  cases value with
  | map entries =>
      rcases old with _ | _ | _ | before
      · exact .inr rfl
      · exact .inr rfl
      · exact .inr rfl
      · exact .inl ⟨before, entries, rfl, rfl, rfl⟩
  | _ => exact .inr rfl

theorem mergeValue_of_kind_ne {value : ConfigValue} (h : value.kind ≠ .map) (old : Option ConfigValue) :
    mergeValue old value = value := by
  rcases mergeValue_cases old value with ⟨before, entries, -, rfl, -⟩ | hvalue
  · exact absurd rfl h
  · exact hvalue

/-- A value replaces whatever is no map. -/
theorem mergeValue_of_no_map {old : Option ConfigValue} (h : ∀ v ∈ old, v.kind ≠ .map) (value : ConfigValue) :
    mergeValue old value = value := by
  rcases mergeValue_cases old value with ⟨before, entries, rfl, -, -⟩ | hvalue
  · exact absurd rfl (h _ rfl)
  · exact hvalue

theorem DistinctKeys.merge (h : base.DistinctKeys) (next : Config) : DistinctKeys (Config.merge base next) := by
  induction next generalizing base with
  | nil => exact h
  | cons entry next ih =>
      obtain ⟨key, value⟩ := entry
      rw [merge_cons]
      exact ih (h.update _ key)

theorem KeysAre.merge {P : Scalar → Prop} (h : base.KeysAre P) (hnext : next.KeysAre P) :
    KeysAre P (Config.merge base next) := by
  induction next generalizing base with
  | nil => exact h
  | cons entry next ih =>
      obtain ⟨key, value⟩ := entry
      obtain ⟨hkey, hrest⟩ := List.forall_mem_cons.1 hnext
      rw [merge_cons]
      exact ih (h.update hkey _) hrest

/-! ### Any number of configurations -/

variable {configs : List Config}

theorem distinctKeys_layered (h : base.DistinctKeys) (configs : List Config) :
    DistinctKeys (configs.foldl merge base) := by
  induction configs generalizing base with
  | nil => exact h
  | cons config configs ih => exact ih (h.merge config)

theorem keysAre_layered {P : Scalar → Prop} (h : base.KeysAre P) (hconfigs : ∀ config ∈ configs, config.KeysAre P) :
    KeysAre P (configs.foldl merge base) := by
  induction configs generalizing base with
  | nil => exact h
  | cons config configs ih =>
      obtain ⟨hconfig, hrest⟩ := List.forall_mem_cons.1 hconfigs
      exact ih (h.merge hconfig) hrest

theorem mergeAll_append (configs : List Config) (config : Config) :
    mergeAll (configs ++ [config]) = merge (mergeAll configs) config := by
  rw [mergeAll, List.foldl_append]
  rfl

/-- What a configuration gives a key, the last value if there are several. -/
def given? (config : Config) (key : Scalar) : Option ConfigValue :=
  get? config.reverse key

theorem given?_cons (k : Scalar) (v : ConfigValue) (rest : Config) (key : Scalar) :
    given? ((k, v) :: rest) key = (given? rest key).or (if k.sameKey key then some v else none) := by
  rw [given?, List.reverse_cons, get?_append]
  rfl

/-- The function of a value tells nothing of what a map holds. -/
def Shallow (f : ConfigValue → β) : Prop :=
  ∀ entries others, f (.map entries) = f (.map others)

namespace Shallow

variable {f : ConfigValue → β}

/-- Merging changes nothing of the later value but the content of maps. -/
theorem mergeValue (hf : Shallow f) (old : Option ConfigValue) (value : ConfigValue) :
    f (Config.mergeValue old value) = f value := by
  rcases mergeValue_cases old value with ⟨before, entries, -, rfl, hmerged⟩ | hvalue
  · rw [hmerged]
    exact hf _ _
  · rw [hvalue]

theorem get?_merge (hf : Shallow f) (base next : Config) (key : Scalar) :
    (get? (merge base next) key).map f = ((given? next key).or (get? base key)).map f := by
  induction next generalizing base with
  | nil => rfl
  | cons entry next ih =>
      obtain ⟨k, v⟩ := entry
      rw [merge_cons, ih, get?_update, given?_cons]
      cases given? next key with
      | some value => rfl
      | none =>
          by_cases hkey : k.sameKey key = true
          · simp [hkey, hf.mergeValue]
          · simp [hkey]

/-- Of all configurations that are laid over another one, the last one that has the key decides. -/
theorem get?_layered (hf : Shallow f) (base : Config) (configs : List Config) (key : Scalar) :
    (get? (configs.foldl merge base) key).map f
      = ((configs.reverse.findSome? fun config => config.given? key).or (get? base key)).map f := by
  induction configs generalizing base with
  | nil => rfl
  | cons config configs ih =>
      rw [List.foldl_cons, ih, List.reverse_cons, List.findSome?_append, Option.or_assoc]
      cases configs.reverse.findSome? fun config => config.given? key with
      | some value => rfl
      | none =>
          rw [Option.none_or, Option.none_or, hf.get?_merge, List.findSome?_singleton]

end Shallow

end Config

end RegistrySearch
