import Mathlib.Data.List.Forall2
import Mathlib.Data.List.Nodup
import RegistrySearch.Json.Basic

/-!
# Members of objects

In an object without repeated keys, having a member and finding it by its key are the same, and what is found has no repeated keys either.
-/

namespace RegistrySearch

namespace Json

theorem mem_of_get? {members : List (String × Json)} {key : String} {value : Json}
    (h : get? members key = some value) : (key, value) ∈ members := by
  obtain ⟨before, after, hmembers, -⟩ := List.lookup_eq_some_iff.1 h
  rw [hmembers]
  exact List.mem_append_right _ List.mem_cons_self

theorem get?_of_mem {members : List (String × Json)} (h : (members.map (·.1)).Nodup) {key : String}
    {value : Json} (hmem : (key, value) ∈ members) : get? members key = some value := by
  induction members with
  | nil => exact absurd hmem List.not_mem_nil
  | cons member members ih =>
      obtain ⟨k, v⟩ := member
      rw [List.map_cons, List.nodup_cons] at h
      rcases List.mem_cons.1 hmem with heq | hrest
      · cases heq
        exact List.lookup_cons_self
      · have hne : key ≠ k := fun hkey => h.1 (List.mem_map.2 ⟨(key, value), hrest, hkey⟩)
        rw [get?, List.lookup_cons, beq_false_of_ne hne]
        exact ih h.2 hrest

theorem get?_eq_some_iff {members : List (String × Json)} (h : (members.map (·.1)).Nodup) {key : String} {value : Json} :
    get? members key = some value ↔ (key, value) ∈ members :=
  ⟨mem_of_get?, get?_of_mem h⟩

/-- The order of members does not matter for finding them. -/
theorem get?_of_perm {members others : List (String × Json)} (h : members.Perm others)
    (hnodup : (members.map (·.1)).Nodup) (key : String) : get? others key = get? members key := by
  have hothers : (others.map (·.1)).Nodup := (h.map (·.1)).nodup_iff.1 hnodup
  apply Option.ext
  intro value
  rw [get?_eq_some_iff hothers, get?_eq_some_iff hnodup, h.mem_iff]

theorem get?_of_notMem {members : List (String × Json)} {key : String} (h : key ∉ members.map (·.1)) :
    get? members key = none := by
  cases hget : get? members key with
  | none => rfl
  | some value => exact absurd (List.mem_map.2 ⟨_, mem_of_get? hget, rfl⟩) h

theorem distinctKeysItems_iff {items : List Json} :
    DistinctKeysItems items ↔ ∀ item ∈ items, item.DistinctKeys := by
  induction items with
  | nil => simp [DistinctKeysItems]
  | cons item items ih => rw [DistinctKeysItems, ih, List.forall_mem_cons]

theorem distinctKeysMembers_iff {members : List (String × Json)} :
    DistinctKeysMembers members ↔ ∀ member ∈ members, member.2.DistinctKeys := by
  induction members with
  | nil => simp [DistinctKeysMembers]
  | cons member members ih => rw [DistinctKeysMembers, ih, List.forall_mem_cons]

theorem distinctKeys_arr {items : List Json} :
    (arr items).DistinctKeys ↔ ∀ item ∈ items, item.DistinctKeys := by
  rw [DistinctKeys, distinctKeysItems_iff]

theorem distinctKeys_obj {members : List (String × Json)} :
    (obj members).DistinctKeys ↔ (members.map (·.1)).Nodup ∧ ∀ member ∈ members, member.2.DistinctKeys := by
  rw [DistinctKeys, distinctKeysMembers_iff]

theorem DistinctKeys.get? {members : List (String × Json)} (h : (obj members).DistinctKeys) {key : String}
    {value : Json} (hget : Json.get? members key = some value) : value.DistinctKeys :=
  (distinctKeys_obj.1 h).2 _ (mem_of_get? hget)

/-- The value of a member can be changed to any other one without repeated keys. -/
theorem DistinctKeys.replaceValue {before after : List (String × Json)} {key : String} {v w : Json}
    (h : (obj (before ++ (key, v) :: after)).DistinctKeys) (hvalue : v.DistinctKeys → w.DistinctKeys) :
    (obj (before ++ (key, w) :: after)).DistinctKeys := by
  rw [distinctKeys_obj, List.forall_mem_append, List.forall_mem_cons, List.map_append, List.map_cons] at h ⊢
  obtain ⟨hnodup, hbefore, hold, hafter⟩ := h
  exact ⟨hnodup, hbefore, hvalue hold, hafter⟩

/-! ### Giving a key a value -/

theorem put_of_not_mem {members : List (String × Json)} {key : String} {value : Json}
    (h : key ∉ members.map (·.1)) : put members key value = members ++ [(key, value)] := by
  induction members with
  | nil => rfl
  | cons member members ih =>
      rw [List.map_cons, List.mem_cons, not_or] at h
      rw [put, if_neg fun heq => h.1 heq.symm, ih h.2, List.cons_append]

theorem mem_put {members : List (String × Json)} {key : String} {value : Json} {member : String × Json}
    (h : member ∈ put members key value) : member ∈ members ∨ member = (key, value) := by
  induction members with
  | nil => exact .inr (List.mem_singleton.1 h)
  | cons first members ih =>
      rw [put] at h
      split at h
      · rename_i hkey
        rcases List.mem_cons.1 h with hfirst | hrest
        · exact .inr (hkey ▸ hfirst)
        · exact .inl (List.mem_cons_of_mem _ hrest)
      · rcases List.mem_cons.1 h with hfirst | hrest
        · exact .inl (hfirst ▸ List.mem_cons_self)
        · exact (ih hrest).imp_left (List.mem_cons_of_mem _)

theorem nodup_put {members : List (String × Json)} (h : (members.map (·.1)).Nodup) (key : String) (value : Json) :
    ((put members key value).map (·.1)).Nodup := by
  induction members with
  | nil => exact List.nodup_cons.2 ⟨List.not_mem_nil, List.nodup_nil⟩
  | cons member members ih =>
      rw [List.map_cons, List.nodup_cons] at h
      rw [put]
      split
      · exact List.nodup_cons.2 h
      · rename_i hne
        refine List.nodup_cons.2 ⟨fun hmem => ?_, ih h.2⟩
        obtain ⟨other, hother, hkey⟩ := List.mem_map.1 hmem
        rcases mem_put hother with hold | rfl
        · exact h.1 (List.mem_map.2 ⟨other, hold, hkey⟩)
        · exact hne hkey.symm

theorem DistinctKeys.put {members : List (String × Json)} (h : (obj members).DistinctKeys) {key : String}
    {value : Json} (hvalue : value.DistinctKeys) : (obj (Json.put members key value)).DistinctKeys := by
  obtain ⟨hnodup, hvalues⟩ := distinctKeys_obj.1 h
  refine distinctKeys_obj.2 ⟨nodup_put hnodup key value, fun member hmember => ?_⟩
  rcases mem_put hmember with hold | rfl
  · exact hvalues member hold
  · exact hvalue

theorem distinctKeys_nil : (obj []).DistinctKeys :=
  ⟨List.nodup_nil, trivial⟩

/-! ### Places that can be empty -/

/-- The member that stands in a place, if there is one. -/
def member? (place : String × Option Json) : Option (String × Json) :=
  place.2.map fun value => (place.1, value)

theorem mem_filterMap_member? {places : List (String × Option Json)} {member : String × Json} :
    member ∈ places.filterMap member? ↔ (member.1, some member.2) ∈ places := by
  rw [List.mem_filterMap]
  constructor
  · intro h
    obtain ⟨⟨key, value⟩, hplace, hmember⟩ := h
    obtain ⟨value, rfl, rfl⟩ := Option.map_eq_some_iff.1 hmember
    exact hplace
  · intro hplace
    exact ⟨_, hplace, rfl⟩

theorem nodup_filterMap_member? {places : List (String × Option Json)} (h : (places.map (·.1)).Nodup) :
    ((places.filterMap member?).map (·.1)).Nodup := by
  induction places with
  | nil => exact List.nodup_nil
  | cons place places ih =>
      obtain ⟨key, value⟩ := place
      rw [List.map_cons, List.nodup_cons] at h
      cases value with
      | none => exact ih h.2
      | some value =>
          refine List.nodup_cons.2 ⟨fun hmem => ?_, ih h.2⟩
          obtain ⟨member, hmember, hkey⟩ := List.mem_map.1 hmem
          exact h.1 (List.mem_map.2 ⟨_, mem_filterMap_member?.1 hmember, hkey⟩)

/-- Of places with different keys each is found by its key. -/
theorem get?_filterMap_member? {places : List (String × Option Json)} (h : (places.map (·.1)).Nodup)
    {key : String} {value : Option Json} (hmem : (key, value) ∈ places) :
    get? (places.filterMap member?) key = value := by
  cases value with
  | some value => exact get?_of_mem (nodup_filterMap_member? h) (mem_filterMap_member?.2 hmem)
  | none =>
      cases hget : get? (places.filterMap member?) key with
      | none => rfl
      | some value =>
          have hother := mem_filterMap_member?.1 (mem_of_get? hget)
          cases List.inj_on_of_nodup_map h hmem hother rfl

end Json

end RegistrySearch
