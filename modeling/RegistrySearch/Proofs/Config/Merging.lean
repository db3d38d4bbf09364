import Mathlib.Data.List.Induction
import RegistrySearch.Proofs.Config.Loading

/-!
# What is under a key after merging

A key is in the merged configuration if some configuration has it, and what is under it depends on its values alone, in their order (`Config.get?_mergeAll`). The last value decides. If it is no map, it is what the key has. If it is a map, it is merged with the maps that come right before it, and everything before the last value that is no map is lost (`Config.mergedValue_maps`). So the maps of a key are merged by the same law again, at every depth.

Merging from the left in other portions makes no difference, since what was merged before is a configuration without repeated keys, and the empty configuration adds nothing to one (`Config.merge_nil`). Loading does so with the files that exist and then with the environment (`Config.load_eq_ok_iff`).
-/

namespace RegistrySearch

namespace Config

variable {base next config : Config} {configs : List Config} {key other : Scalar} {value : ConfigValue}

/-- No two keys are the same, neither in the configuration nor in a map under a key, however deep. -/
inductive DistinctKeysThroughout : Config → Prop
  | intro {config : Config} (hkeys : config.DistinctKeys)
      (hmaps : ∀ entry ∈ config, ∀ entries, entry.2 = .map entries → DistinctKeysThroughout entries) :
      DistinctKeysThroughout config

theorem distinctKeysThroughout_iff :
    config.DistinctKeysThroughout ↔ config.DistinctKeys
      ∧ ∀ entry ∈ config, ∀ entries, entry.2 = .map entries → DistinctKeysThroughout entries := by
  constructor
  · intro h
    cases h with
    | intro hkeys hmaps => exact ⟨hkeys, hmaps⟩
  · rintro ⟨hkeys, hmaps⟩
    exact .intro hkeys hmaps

instance : DecidablePred DistinctKeys :=
  fun config => inferInstanceAs (Decidable ((config.map Prod.fst).map Scalar.keyForm).Nodup)

mutual

def decideMap : (value : ConfigValue) → Decidable (∀ entries, value = .map entries → DistinctKeysThroughout entries)
  | .scalar _ | .list _ => .isTrue fun _ h => by cases h
  | .map entries =>
    haveI := decideMaps entries
    decidable_of_iff _ (distinctKeysThroughout_iff.symm.trans
      ⟨fun h _ hentries => ConfigValue.map.inj hentries ▸ h, fun h => h entries rfl⟩)

def decideMaps : (entries : Config) →
    Decidable (∀ entry ∈ entries, ∀ inner, entry.2 = .map inner → DistinctKeysThroughout inner)
  | [] => .isTrue fun _ h => absurd h List.not_mem_nil
  | (_, value) :: rest =>
    haveI := decideMap value
    haveI := decideMaps rest
    decidable_of_iff _ List.forall_mem_cons.symm

end

instance : DecidablePred DistinctKeysThroughout :=
  fun config =>
    haveI := decideMaps config
    decidable_of_iff _ distinctKeysThroughout_iff.symm

theorem DistinctKeysThroughout.distinctKeys (h : config.DistinctKeysThroughout) : config.DistinctKeys :=
  (distinctKeysThroughout_iff.1 h).1

/-! ### One key -/

theorem exists_mem_of_get? (h : get? config key = some value) : ∃ k, (k, value) ∈ config := by
  induction config with
  | nil => cases h
  | cons entry config ih =>
      obtain ⟨k, v⟩ := entry
      rw [get?] at h
      split at h
      · cases h
        exact ⟨k, List.mem_cons_self⟩
      · obtain ⟨k', hmem⟩ := ih h
        exact ⟨k', List.mem_cons_of_mem _ hmem⟩

theorem DistinctKeysThroughout.get? {entries : Config} (h : config.DistinctKeysThroughout)
    (hget : Config.get? config key = some (.map entries)) : entries.DistinctKeysThroughout := by
  obtain ⟨k, hmem⟩ := exists_mem_of_get? hget
  exact (distinctKeysThroughout_iff.1 h).2 _ hmem entries rfl

theorem get?_congr (h : key.sameKey other = true) (config : Config) : get? config key = get? config other := by
  induction config with
  | nil => rfl
  | cons entry config ih =>
      obtain ⟨k, v⟩ := entry
      have hsame : k.sameKey key = k.sameKey other := by
        rw [Scalar.sameKey, Scalar.sameKey, Scalar.sameKey_iff.1 h]
      rw [get?, get?, hsame, ih]

/-! ### Two values -/

theorem mergeValue_eq_map {old : Option ConfigValue} {entries : Config} (h : mergeValue old value = .map entries) :
    ∃ inner, value = .map inner ∧ (entries = inner ∨ ∃ before, old = some (.map before) ∧ entries = merge before inner) := by
  rcases mergeValue_cases old value with ⟨before, inner, rfl, rfl, hmerged⟩ | hvalue
  · rw [hmerged, ConfigValue.map.injEq] at h
    exact ⟨inner, rfl, .inr ⟨before, rfl, h.symm⟩⟩
  · exact ⟨entries, hvalue.symm.trans h, .inl rfl⟩

/-! ### Two configurations -/

theorem get?_merge (h : next.DistinctKeys) (base : Config) (key : Scalar) :
    get? (merge base next) key = ((get? next key).map (mergeValue (get? base key))).or (get? base key) := by
  induction next generalizing base with
  | nil => rfl
  | cons entry next ih =>
      obtain ⟨k, v⟩ := entry
      rw [merge_cons, ih h.rest, get?_update, get?]
      by_cases hkey : k.sameKey key = true
      · -- The key is not in the rest, so the entry is the last one that has a say.
        have hrest : get? next key = none := by rw [← get?_congr hkey, h.get?_rest]
        simp [hkey, hrest, get?_congr hkey]
      · simp [hkey]

theorem update_of_no_key {α : Type} (f : Option α → α) {entries : List (Scalar × α)}
    (h : ∀ entry ∈ entries, entry.1.keyForm ≠ key.keyForm) : update f entries key = entries ++ [(key, f none)] := by
  induction entries with
  | nil => rfl
  | cons entry entries ih =>
      obtain ⟨hentry, hrest⟩ := List.forall_mem_cons.1 h
      rw [update, if_neg fun hkey => hentry (Scalar.sameKey_iff.1 hkey), ih hrest]
      rfl

theorem DistinctKeys.keyForm_ne {entry : Scalar × ConfigValue} (h : DistinctKeys (base ++ entry :: config)) :
    ∀ earlier ∈ base, earlier.1.keyForm ≠ entry.1.keyForm := by
  unfold DistinctKeys at h
  rw [List.map_append, List.map_append, List.nodup_append] at h
  intro earlier hearlier
  exact h.2.2 _ (List.mem_map_of_mem (List.mem_map_of_mem hearlier)) _ List.mem_cons_self

theorem merge_append (h : DistinctKeys (base ++ config)) : merge base config = base ++ config := by
  induction config generalizing base with
  | nil => exact (List.append_nil base).symm
  | cons entry config ih =>
      obtain ⟨k, v⟩ := entry
      have hnew : update (fun old => mergeValue old v) base k = base ++ [(k, v)] := by
        rw [update_of_no_key _ h.keyForm_ne, mergeValue_of_no_map fun v hv => by cases hv]
      rw [List.append_cons] at h
      rw [merge_cons, hnew, ih h, ← List.append_cons]

/-- Laying a configuration over nothing leaves it as it is. -/
theorem merge_nil (h : config.DistinctKeys) : merge [] config = config :=
  merge_append h

theorem mem_update {f : Option ConfigValue → ConfigValue} {entry : Scalar × ConfigValue}
    (h : entry ∈ update f base key) : entry ∈ base ∨ entry.2 = f (get? base key) := by
  induction base with
  | nil =>
      rw [List.mem_singleton.1 h]
      exact .inr rfl
  | cons first base ih =>
      obtain ⟨k, v⟩ := first
      rw [update] at h
      rw [get?]
      split at h
      · rename_i hkey
        rw [if_pos hkey]
        rcases List.mem_cons.1 h with rfl | hmem
        · exact .inr rfl
        · exact .inl (List.mem_cons_of_mem _ hmem)
      · rename_i hkey
        rw [if_neg hkey]
        rcases List.mem_cons.1 h with rfl | hmem
        · exact .inl List.mem_cons_self
        · exact (ih hmem).imp_left (List.mem_cons_of_mem _)

namespace DistinctKeysThroughout

theorem update {f : Option ConfigValue → ConfigValue} (h : base.DistinctKeysThroughout)
    (hvalue : ∀ entries, f (Config.get? base key) = .map entries → DistinctKeysThroughout entries) :
    DistinctKeysThroughout (Config.update f base key) := by
  refine .intro (h.distinctKeys.update f key) fun entry hmem entries hentries => ?_
  rcases mem_update hmem with hbase | hnew
  · exact (distinctKeysThroughout_iff.1 h).2 entry hbase entries hentries
  · exact hvalue entries (hnew.symm.trans hentries)

/-- The step from the maps in a configuration to the configuration itself. -/
theorem merge_of_entries (h : base.DistinctKeysThroughout)
    (hnext : ∀ entry ∈ next, ∀ inner, entry.2 = .map inner → DistinctKeysThroughout inner
      ∧ ∀ before : Config, before.DistinctKeysThroughout → DistinctKeysThroughout (Config.merge before inner)) :
    DistinctKeysThroughout (Config.merge base next) := by
  induction next generalizing base with
  | nil => exact h
  | cons entry next ih =>
      obtain ⟨k, v⟩ := entry
      obtain ⟨hentry, hrest⟩ := List.forall_mem_cons.1 hnext
      refine ih (h.update fun entries hentries => ?_) hrest
      obtain ⟨inner, hv, hmerged⟩ := mergeValue_eq_map hentries
      obtain ⟨hinner, hover⟩ := hentry inner hv
      rcases hmerged with rfl | ⟨before, hbefore, rfl⟩
      · exact hinner
      · exact hover before (h.get? hbefore)

/-- A merged configuration is again one without repeated keys, at every depth. -/
theorem merge (h : base.DistinctKeysThroughout) (hnext : next.DistinctKeysThroughout) :
    DistinctKeysThroughout (Config.merge base next) := by
  induction hnext generalizing base with
  | intro _ hmaps ih =>
      refine h.merge_of_entries fun entry hentry inner hinner => ?_
      exact ⟨hmaps entry hentry inner hinner, fun before hbefore => ih entry hentry inner hinner hbefore⟩

theorem nil : DistinctKeysThroughout [] :=
  .intro distinctKeys_nil fun _ hmem => absurd hmem List.not_mem_nil

theorem mergeAll (h : ∀ config ∈ configs, config.DistinctKeysThroughout) :
    DistinctKeysThroughout (Config.mergeAll configs) := by
  have hlayered : ∀ base : Config, base.DistinctKeysThroughout → DistinctKeysThroughout (configs.foldl Config.merge base) := by
    induction configs with
    | nil => exact fun base hbase => hbase
    | cons config configs ih =>
        obtain ⟨hconfig, hrest⟩ := List.forall_mem_cons.1 h
        exact fun base hbase => ih hrest _ (hbase.merge hconfig)
  exact hlayered [] nil

end DistinctKeysThroughout

/-! ### Any number of configurations -/

/-- The values of a key in the configurations that have it. -/
def valuesOf (configs : List Config) (key : Scalar) : List ConfigValue :=
  configs.filterMap fun config => get? config key

theorem valuesOf_ne_nil_iff : valuesOf configs key ≠ [] ↔ ∃ config ∈ configs, (get? config key).isSome := by
  simp [valuesOf, List.filterMap_eq_nil_iff, Option.isSome_iff_ne_none]

theorem DistinctKeysThroughout.of_mem_valuesOf (h : ∀ config ∈ configs, config.DistinctKeysThroughout) {entries : Config}
    (hmem : .map entries ∈ valuesOf configs key) : entries.DistinctKeysThroughout := by
  obtain ⟨config, hconfig, hget⟩ := List.mem_filterMap.1 hmem
  exact (h config hconfig).get? hget

/-- What the values of a key come to. -/
def mergedValue (values : List ConfigValue) : Option ConfigValue :=
  values.foldl (fun old value => some (mergeValue old value)) none

theorem get?_layered (h : ∀ config ∈ configs, config.DistinctKeys) (base : Config) (key : Scalar) :
    get? (configs.foldl merge base) key
      = (valuesOf configs key).foldl (fun old value => some (mergeValue old value)) (get? base key) := by
  induction configs generalizing base with
  | nil => rfl
  | cons config configs ih =>
      obtain ⟨hconfig, hrest⟩ := List.forall_mem_cons.1 h
      rw [List.foldl_cons, ih hrest, get?_merge hconfig, valuesOf, valuesOf, List.filterMap_cons]
      cases get? config key with
      | none => rfl
      | some value => rfl

theorem get?_mergeAll (h : ∀ config ∈ configs, config.DistinctKeys) (key : Scalar) :
    get? (mergeAll configs) key = mergedValue (valuesOf configs key) :=
  get?_layered h [] key

variable {values front : List ConfigValue}

theorem mergedValue_append (values : List ConfigValue) (value : ConfigValue) :
    mergedValue (values ++ [value]) = some (mergeValue (mergedValue values) value) := by
  rw [mergedValue, List.foldl_append]
  rfl

theorem isSome_mergedValue_iff : (mergedValue values).isSome ↔ values ≠ [] := by
  cases values using List.reverseRecOn with
  | nil => simp [mergedValue]
  | append_singleton values value => simp [mergedValue_append]

/-- A value that is no map is what the key has, whatever came before. -/
theorem mergedValue_of_kind_ne (h : value.kind ≠ .map) (values : List ConfigValue) :
    mergedValue (values ++ [value]) = some value := by
  rw [mergedValue_append, mergeValue_of_kind_ne h]

/-- The values do not end with a map. -/
def EndsWithoutMap (values : List ConfigValue) : Prop :=
  ∀ value ∈ values.getLast?, value.kind ≠ .map

theorem EndsWithoutMap.mergedValue (h : EndsWithoutMap front) : ∀ value ∈ mergedValue front, value.kind ≠ .map := by
  cases front using List.reverseRecOn with
  | nil => exact fun value hvalue => by cases hvalue
  | append_singleton front last =>
      have hlast : last.kind ≠ .map := h last (by rw [List.getLast?_concat]; rfl)
      rw [mergedValue_of_kind_ne hlast]
      rintro value ⟨⟩
      exact hlast

/-- The maps at the end of the values are merged, and what comes before them is lost. -/
theorem mergedValue_maps (hfront : EndsWithoutMap front) {block : List Config} {last : Config}
    (h : ∀ entries ∈ block ++ [last], DistinctKeys entries) :
    mergedValue (front ++ block.map .map ++ [.map last]) = some (.map (mergeAll (block ++ [last]))) := by
  -- From the right: what the maps before the last one are merged to is the map that it is laid over.
  induction block using List.reverseRecOn generalizing last with
  | nil =>
      rw [List.map_nil, List.append_nil, mergedValue_append, mergeValue_of_no_map hfront.mergedValue, List.nil_append,
        mergeAll, List.foldl_cons, merge_nil (h last List.mem_cons_self)]
      rfl
  | append_singleton block entries ih =>
      have hbefore := ih fun entries hentries => h entries (List.mem_append_left _ hentries)
      rw [List.map_append, ← List.append_assoc, List.map_singleton, mergedValue_append, hbefore, mergeValue_maps,
        mergeAll_append _ last]

/-- The values up to the last one that is no map, and the maps after it. -/
theorem exists_block (values : List ConfigValue) :
    ∃ (front : List ConfigValue) (block : List Config), values = front ++ block.map .map ∧ EndsWithoutMap front := by
  induction values using List.reverseRecOn with
  | nil => exact ⟨[], [], rfl, fun value hvalue => by cases hvalue⟩
  | append_singleton values value ih =>
      by_cases hmap : value.kind = .map
      · obtain ⟨entries, rfl⟩ := ConfigValue.kind_eq_map_iff.1 hmap
        obtain ⟨front, block, rfl, hfront⟩ := ih
        refine ⟨front, block ++ [entries], ?_, hfront⟩
        rw [List.map_append, List.append_assoc]
        rfl
      · refine ⟨values ++ [value], [], (List.append_nil _).symm, ?_⟩
        rw [EndsWithoutMap, List.getLast?_concat]
        rintro _ ⟨⟩
        exact hmap

/-- If the last value is a map, the maps at the end are merged. None of them repeats a key, so the law holds for what they are merged to as well. -/
theorem exists_mergedValue_maps {earlier : List ConfigValue} {last : Config}
    (h : ∀ entries, .map entries ∈ earlier ++ [.map last] → DistinctKeysThroughout entries) :
    ∃ (front : List ConfigValue) (block : List Config),
      earlier = front ++ block.map .map ∧ EndsWithoutMap front
      ∧ (∀ entries ∈ block ++ [last], DistinctKeysThroughout entries)
      ∧ mergedValue (earlier ++ [.map last]) = some (.map (mergeAll (block ++ [last]))) := by
  obtain ⟨front, block, rfl, hfront⟩ := exists_block earlier
  have hvalues : front ++ block.map .map ++ [.map last] = front ++ (block ++ [last]).map .map := by
    rw [List.map_append, List.append_assoc]
    rfl
  have hblock : ∀ entries ∈ block ++ [last], DistinctKeysThroughout entries := by
    intro entries hentries
    apply h
    rw [hvalues]
    exact List.mem_append_right front (List.mem_map_of_mem hentries)
  exact ⟨front, block, rfl, hfront, hblock,
    mergedValue_maps hfront fun entries hentries => (hblock entries hentries).distinctKeys⟩

/-- Configurations that are merged already count as one. -/
theorem mergeAll_cons_mergeAll (configs others : List Config) :
    mergeAll (mergeAll configs :: others) = mergeAll (configs ++ others) := by
  have hkeys : (mergeAll configs).DistinctKeys := distinctKeys_layered distinctKeys_nil configs
  rw [mergeAll, List.foldl_cons, merge_nil hkeys, mergeAll, mergeAll, List.foldl_append]

theorem foldl_mergeAll (configs : List Config) :
    configs.foldl (fun merged config => mergeAll [merged, config]) [] = mergeAll configs := by
  induction configs using List.reverseRecOn with
  | nil => rfl
  | append_singleton configs config ih =>
      rw [List.foldl_append, List.foldl_cons, ih, List.foldl_nil, mergeAll_cons_mergeAll]

/-! ### The law -/

/-- A key is in the merged configuration if some configuration has it. Its value is the last one if this is no map. Otherwise it is merged from the maps after the last value that is no map, and by the same law, since these repeat no keys either. Merging one configuration at a time makes no difference, and so it makes none when configurations are loaded. -/
theorem mergeAll_by_key :
    (∀ configs : List Config, (∀ config ∈ configs, config.DistinctKeysThroughout) →
        (mergeAll configs).DistinctKeysThroughout
        ∧ ∀ key, ((get? (mergeAll configs) key).isSome ↔ ∃ config ∈ configs, (get? config key).isSome)
          ∧ (∀ earlier last, valuesOf configs key = earlier ++ [last] → last.kind ≠ .map →
              get? (mergeAll configs) key = some last)
          ∧ ∀ earlier last, valuesOf configs key = earlier ++ [.map last] →
              ∃ (front : List ConfigValue) (block : List Config),
                earlier = front ++ block.map .map ∧ EndsWithoutMap front
                ∧ (∀ entries ∈ block ++ [last], DistinctKeysThroughout entries)
                ∧ get? (mergeAll configs) key = some (.map (mergeAll (block ++ [last]))))
      ∧ (∀ configs : List Config,
          configs.foldl (fun merged config => mergeAll [merged, config]) [] = mergeAll configs)
      ∧ ∀ (host : Host) (environment : Environment) (paths : Option (List Path)) (config : Config),
          load host environment paths = .ok config
            ↔ ∃ listed configs, pathsOr host environment paths = .ok listed ∧ host.Reads listed configs
              ∧ LayersEnd host.mergingRoom [] configs
              ∧ config = mergeAll (configs ++ [ofEnvironment environment]) := by
  refine ⟨fun configs hd => ⟨.mergeAll hd, fun key => ?_⟩, foldl_mergeAll, fun _ _ _ _ => load_eq_ok_iff⟩
  rw [get?_mergeAll fun config hconfig => (hd config hconfig).distinctKeys]
  refine ⟨?_, fun earlier last hvalues hlast => ?_, fun earlier last hvalues => ?_⟩
  · rw [isSome_mergedValue_iff, valuesOf_ne_nil_iff]
  · rw [hvalues, mergedValue_of_kind_ne hlast]
  · rw [hvalues]
    exact exists_mergedValue_maps fun entries hentries => .of_mem_valuesOf hd (hvalues ▸ hentries)

/-- One key in three spellings: as a map, as a text, which is lost, and as two more maps. -/
def respelled : List Config :=
  [[(.int 1, .map [(.text "a", .scalar (.int 1)), (.text "c", .scalar .null)])],
    [(.bool true, .scalar (.text "x")), (.text "k", .map [])],
    [(.float (Binary64.ofNat 1), .map [(.text "a", .scalar (.int 2)), (.text "b", .scalar .null)])],
    [(.text "k", .list []), (.int 1, .map [(.text "b", .scalar (.int 3))])]]

theorem mergeAll_by_key_respelled :
    (∀ config ∈ respelled, config.DistinctKeysThroughout)
      ∧ get? (mergeAll respelled) (.text "k") = some (.list [])
      ∧ get? (mergeAll respelled) (.int 1)
        = some (.map [(.text "a", .scalar (.int 2)), (.text "b", .scalar (.int 3))])
      ∧ ∃ (front : List ConfigValue) (block : List Config),
          [.map [(.text "a", .scalar (.int 1)), (.text "c", .scalar .null)], .scalar (.text "x"),
            .map [(.text "a", .scalar (.int 2)), (.text "b", .scalar .null)]] = front ++ block.map .map
          ∧ EndsWithoutMap front
          ∧ get? (mergeAll respelled) (.int 1) = some (.map (mergeAll (block ++ [[(.text "b", .scalar (.int 3))]]))) := by
  have hd : ∀ config ∈ respelled, config.DistinctKeysThroughout := by decide +kernel
  have hlist : valuesOf respelled (.text "k") = [.map []] ++ [.list []] := by decide +kernel
  have hmaps : valuesOf respelled (.int 1)
      = [.map [(.text "a", .scalar (.int 1)), (.text "c", .scalar .null)], .scalar (.text "x"),
          .map [(.text "a", .scalar (.int 2)), (.text "b", .scalar .null)]]
        ++ [.map [(.text "b", .scalar (.int 3))]] := by decide +kernel
  obtain ⟨-, hlaw⟩ := mergeAll_by_key.1 respelled hd
  obtain ⟨-, hvalue, -⟩ := hlaw (.text "k")
  obtain ⟨-, -, hblock⟩ := hlaw (.int 1)
  obtain ⟨front, block, hearlier, hfront, -, hget⟩ := hblock _ _ hmaps
  exact ⟨hd, hvalue _ _ hlist (by decide), by decide +kernel, front, block, hearlier, hfront, hget⟩

end Config

end RegistrySearch
