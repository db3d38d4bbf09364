import Mathlib.Data.List.Nodup
import RegistrySearch.Proofs.Catalog.NameFields

/-!
# What a memo remembers

A memo keeps the catalogs that were looked up last. Which ones these are can be told from the look-ups alone: list them with the latest in front, leave out all but the latest look-up of each catalog, and take as many as the memo has room for. The entries of the memo are for these catalogs, in this order (`Memo.Remembers`). The reason is that both change alike with a look-up: the catalog comes in front, and if it was further back it leaves its place there.

With the entries known, so is what the next look-up will be, a hit or a miss, and the counters follow.
-/

namespace RegistrySearch

/-! ### Taking from a list without repetitions -/

section Lists

variable {α : Type} [DecidableEq α] {x : α} {xs : List α}

theorem filter_ne_of_not_mem (h : x ∉ xs) : (xs.filter fun y => y ≠ x) = xs := by
  rw [List.filter_eq_self]
  intro y hy
  rw [decide_eq_true_iff]
  intro heq
  exact h (heq ▸ hy)

theorem length_filter_ne_of_mem (hnodup : xs.Nodup) (h : x ∈ xs) : (xs.filter fun y => y ≠ x).length + 1 = xs.length := by
  have herase : (xs.filter fun y => y ≠ x) = xs.erase x := by
    rw [hnodup.erase_eq_filter]
    exact List.filter_congr fun y _ => Bool.eq_iff_iff.2 (by rw [decide_eq_true_iff, bne_iff_ne])
  rw [herase, List.length_erase_add_one h]

/-- When an element among the first ones leaves its place, the others among them are the first ones of what is left. -/
theorem filter_take_of_mem_take (hnodup : xs.Nodup) {n : Nat} (h : x ∈ xs.take (n + 1)) :
    ((xs.take (n + 1)).filter fun y => y ≠ x) = (xs.filter fun y => y ≠ x).take n := by
  induction xs generalizing n with
  | nil => cases h
  | cons y xs ih =>
      obtain ⟨hy, hnodup⟩ := List.nodup_cons.1 hnodup
      rw [List.take_succ_cons] at h ⊢
      by_cases hyx : y = x
      · -- Without repetitions nothing leaves behind the head, so both sides are the first elements of the tail.
        subst hyx
        have htake : y ∉ xs.take n := fun hmem => hy (List.mem_of_mem_take hmem)
        rw [List.filter_cons_of_neg (by simp), List.filter_cons_of_neg (by simp), filter_ne_of_not_mem htake,
          filter_ne_of_not_mem hy]
      · cases n with
        | zero =>
            rw [List.take_zero, List.mem_singleton] at h
            exact absurd h.symm hyx
        | succ n =>
            have hrest : x ∈ xs.take (n + 1) := List.mem_of_ne_of_mem (Ne.symm hyx) h
            rw [List.filter_cons_of_pos (by simp [hyx]), List.filter_cons_of_pos (by simp [hyx]), List.take_succ_cons,
              ih hnodup hrest]

/-- When an element that is not among the first ones leaves its place, these stay. -/
theorem take_filter_of_not_mem_take {n : Nat} (h : x ∉ xs.take n) :
    (xs.filter fun y => y ≠ x).take n = xs.take n := by
  induction xs generalizing n with
  | nil => rfl
  | cons y xs ih =>
      cases n with
      | zero => rfl
      | succ n =>
          rw [List.take_succ_cons, List.mem_cons, not_or] at h
          rw [List.filter_cons_of_pos (by simp [Ne.symm h.1]), List.take_succ_cons, List.take_succ_cons, ih h.2]

end Lists

namespace Memo

variable {memo : Memo} {lookups : List (List Event)} {events : List Event}

/-! ### One look-up -/

/-- The catalogs that the memo has entries for. -/
def keys (memo : Memo) : List (List Event) := memo.entries.map Prod.fst

theorem find?_eq_none_iff : memo.find? events = none ↔ events ∉ memo.keys := by
  rw [find?, List.lookup_eq_none_iff, keys, List.mem_map]
  constructor
  · intro h hmem
    obtain ⟨entry, hentry, hkey⟩ := hmem
    have hne := h entry hentry
    rw [hkey, bne_self_eq_false] at hne
    cases hne
  · intro h entry hentry
    rw [bne_iff_ne]
    intro heq
    exact h ⟨entry, hentry, heq.symm⟩

/-- The answer of a look-up was there. -/
def IsHit (before after : Memo) : Prop :=
  after.hits = before.hits + 1 ∧ after.misses = before.misses

/-- The answer of a look-up had to be found. -/
def IsMiss (before after : Memo) : Prop :=
  after.hits = before.hits ∧ after.misses = before.misses + 1

variable (classify : List Event → List String)

theorem ask_snd_of_mem (h : events ∈ memo.keys) : ∃ ids, (memo.ask classify events).2 = memo.touch events ids := by
  unfold ask
  cases hfind : memo.find? events with
  | none => exact absurd h (find?_eq_none_iff.1 hfind)
  | some ids => exact ⟨ids, rfl⟩

theorem ask_snd_of_not_mem (h : events ∉ memo.keys) :
    (memo.ask classify events).2 = memo.insert events (classify events) := by
  rw [ask, find?_eq_none_iff.2 h]

theorem isHit_ask_iff : memo.IsHit (memo.ask classify events).2 ↔ events ∈ memo.keys := by
  by_cases h : events ∈ memo.keys
  · obtain ⟨ids, hask⟩ := ask_snd_of_mem classify h
    rw [hask]
    exact iff_of_true ⟨rfl, rfl⟩ h
  · rw [ask_snd_of_not_mem classify h]
    exact iff_of_false (fun hhit => Nat.succ_ne_self _ hhit.2) h

theorem isMiss_ask_iff : memo.IsMiss (memo.ask classify events).2 ↔ events ∉ memo.keys := by
  by_cases h : events ∈ memo.keys
  · obtain ⟨ids, hask⟩ := ask_snd_of_mem classify h
    rw [hask]
    exact iff_of_false (fun hmiss => Nat.succ_ne_self _ hmiss.1) (not_not_intro h)
  · rw [ask_snd_of_not_mem classify h]
    exact iff_of_true ⟨rfl, rfl⟩ h

theorem keys_touch (ids : List String) :
    (memo.touch events ids).keys = events :: memo.keys.filter fun other => other ≠ events := by
  rw [keys, keys, List.filter_map]
  rfl

theorem keys_insert (ids : List String) : (memo.insert events ids).keys = (events :: memo.keys).take capacity :=
  List.map_take

/-- Every look-up is counted, as a hit or as a miss. -/
theorem total_ask (memo : Memo) (events : List Event) :
    (memo.ask classify events).2.hits + (memo.ask classify events).2.misses = memo.hits + memo.misses + 1 := by
  by_cases h : events ∈ memo.keys
  · obtain ⟨hhits, hmisses⟩ := (isHit_ask_iff classify).2 h
    omega
  · obtain ⟨hhits, hmisses⟩ := (isMiss_ask_iff classify).2 h
    omega

/-- Whatever the memo was, a catalog that is looked up stands in front. -/
theorem mem_keys_ask (memo : Memo) (events : List Event) : events ∈ (memo.ask classify events).2.keys := by
  by_cases h : events ∈ memo.keys
  · obtain ⟨ids, hask⟩ := ask_snd_of_mem classify h
    rw [hask, keys_touch]
    exact List.mem_cons_self
  · rw [ask_snd_of_not_mem classify h, keys_insert]
    exact List.mem_cons_self

/-! ### All look-ups -/

/-- The memo has entries for the catalogs that were looked up last, and counts all look-ups. These are listed with the latest one in front. -/
structure Remembers (memo : Memo) (lookups : List (List Event)) : Prop where
  keys_eq : memo.keys = (distinctBy id lookups).take capacity
  total : memo.hits + memo.misses = lookups.length
  size_eq : memo.size = min memo.misses capacity

theorem remembers_empty : empty.Remembers [] where
  keys_eq := rfl
  total := rfl
  size_eq := rfl

theorem nodup_distinctBy_id (lookups : List (List Event)) : (distinctBy id lookups).Nodup := by
  have h := nodup_map_distinctBy id lookups
  rwa [List.map_id] at h

theorem distinctBy_id_cons (events : List Event) (lookups : List (List Event)) :
    distinctBy id (events :: lookups) = events :: (distinctBy id lookups).filter fun other => other ≠ events := rfl

theorem size_eq_length_keys (memo : Memo) : memo.size = memo.keys.length := by
  rw [keys, List.length_map]
  rfl

theorem capacity_eq : capacity = 31 + 1 := rfl

theorem Remembers.nodup_keys (h : memo.Remembers lookups) : memo.keys.Nodup := by
  rw [h.keys_eq]
  exact (List.take_sublist _ _).nodup (nodup_distinctBy_id lookups)

/-- A hit moves the catalog to the front of the entries, as it moves to the front of the look-ups. -/
theorem Remembers.keys_touch_eq (h : memo.Remembers lookups) (hmem : events ∈ memo.keys) (ids : List String) :
    (memo.touch events ids).keys = (distinctBy id (events :: lookups)).take capacity := by
  rw [h.keys_eq, capacity_eq] at hmem
  rw [keys_touch, h.keys_eq, distinctBy_id_cons, capacity_eq, List.take_succ_cons,
    filter_take_of_mem_take (nodup_distinctBy_id lookups) hmem]

/-- A miss pushes the last entry out, if there are as many as there is room for. -/
theorem Remembers.keys_insert_eq (h : memo.Remembers lookups) (hmem : events ∉ memo.keys) (ids : List String) :
    (memo.insert events ids).keys = (distinctBy id (events :: lookups)).take capacity := by
  have hfirst : events ∉ (distinctBy id lookups).take 31 := by
    intro hin
    rw [h.keys_eq] at hmem
    exact hmem (List.take_subset_take_left _ (by decide) hin)
  rw [keys_insert, h.keys_eq, distinctBy_id_cons, capacity_eq, List.take_succ_cons, List.take_succ_cons,
    take_filter_of_not_mem_take hfirst, List.take_take]
  rfl

theorem Remembers.size_touch (h : memo.Remembers lookups) (hmem : events ∈ memo.keys) (ids : List String) :
    (memo.touch events ids).size = memo.size := by
  rw [size_eq_length_keys, size_eq_length_keys, keys_touch, List.length_cons,
    length_filter_ne_of_mem h.nodup_keys hmem]

theorem size_insert (memo : Memo) (events : List Event) (ids : List String) :
    (memo.insert events ids).size = min capacity (memo.size + 1) := by
  rw [size_eq_length_keys, size_eq_length_keys, keys_insert, List.length_take, List.length_cons]

theorem Remembers.ask (h : memo.Remembers lookups) (events : List Event) :
    (memo.ask classify events).2.Remembers (events :: lookups) where
  keys_eq := by
    by_cases hmem : events ∈ memo.keys
    · obtain ⟨ids, hask⟩ := ask_snd_of_mem classify hmem
      rw [hask, h.keys_touch_eq hmem]
    · rw [ask_snd_of_not_mem classify hmem, h.keys_insert_eq hmem]
  total := by
    rw [total_ask, h.total, List.length_cons]
  size_eq := by
    have hsize := h.size_eq
    by_cases hmem : events ∈ memo.keys
    · obtain ⟨ids, hask⟩ := ask_snd_of_mem classify hmem
      rw [hask, h.size_touch hmem, hsize]
      rfl
    · rw [ask_snd_of_not_mem classify hmem, size_insert]
      change min capacity (memo.size + 1) = min (memo.misses + 1) capacity
      omega

end Memo

end RegistrySearch
