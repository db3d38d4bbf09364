import RegistrySearch.Config.Load
import RegistrySearch.Proofs.Config.Layers
import RegistrySearch.Proofs.Except

/-!
# How deep merging goes

Merging calls itself where both configurations have a map under a key, and again where these maps have maps under the same keys. `Overlap` says how deep this goes. With room for so many nested calls a configuration is laid over another one exactly if they do not overlap deeper than that, and then the room makes no difference (`Config.layer_eq_ok_iff`).

Only maps that contain themselves overlap without an end. They are written out deeper than there is room for merging, so that they are seen to.
-/

namespace RegistrySearch

namespace Config

variable {room depth : Nat} {base next rest config merged : Config} {configs : List Config} {key : Scalar}
  {old : Option ConfigValue} {value : ConfigValue} {failure : ConfigFailure}

/-- Under some keys both configurations have maps, which again have maps under the same keys, to a depth. The entries of the later configuration are laid over the other one in their order. -/
inductive Overlap : (depth : Nat) → Config → Config → Prop
  | zero {base next : Config} : Overlap 0 base next
  | here {depth : Nat} {base before entries rest : Config} {key : Scalar} (hold : get? base key = some (.map before))
      (h : Overlap depth before entries) : Overlap (depth + 1) base ((key, .map entries) :: rest)
  | later {depth : Nat} {base rest : Config} {key : Scalar} {value : ConfigValue}
      (h : Overlap (depth + 1) (merge base [(key, value)]) rest) : Overlap (depth + 1) base ((key, value) :: rest)

/-- Two values of a key are maps that overlap. -/
def ValuesOverlap (depth : Nat) (old : Option ConfigValue) (value : ConfigValue) : Prop :=
  ∃ before entries, old = some (.map before) ∧ value = .map entries ∧ Overlap depth before entries

theorem overlap_cons_iff :
    Overlap (depth + 1) base ((key, value) :: rest)
      ↔ ValuesOverlap depth (get? base key) value ∨ Overlap (depth + 1) (merge base [(key, value)]) rest := by
  constructor
  · intro h
    cases h with
    | here hold h => exact .inl ⟨_, _, hold, rfl, h⟩
    | later h => exact .inr h
  · rintro (⟨before, entries, hold, rfl, h⟩ | h)
    · exact .here hold h
    · exact .later h

/-! ### With room for nested calls -/

/-- What was to be found is there, unless calls were nested too deep. -/
def DoneUnless {α : Type} (tooDeep : Prop) (outcome : Except ConfigFailure α) (result : α) : Prop :=
  outcome = .ok result ∧ ¬ tooDeep ∨ outcome = .error .endless ∧ tooDeep

theorem layer_cons (room : Nat) (base : Config) (key : Scalar) (value : ConfigValue) (rest : Config) :
    layer room base ((key, value) :: rest)
      = (mergeValueBy mergeCall (get? base key) value).run room >>= fun merged =>
          layer room (update (fun _ => merged) base key) rest := by
  rfl

/-- What a nested call of merging comes to. -/
theorem mergeCall_cases
    (h : ∀ room' < room, DoneUnless (Overlap (room' + 1) base next) (layer room' base next) (merge base next)) :
    DoneUnless (Overlap room base next) ((mergeCall (mergeBy mergeCall base next)).run room) (merge base next) := by
  cases room with
  | zero => exact .inr ⟨rfl, .zero⟩
  | succ room => exact h room (Nat.lt_succ_self room)

theorem mergeValueBy_maps_run (room : Nat) (before entries : Config) :
    (mergeValueBy mergeCall (some (.map before)) (.map entries)).run room
      = ConfigValue.map <$> (mergeCall (mergeBy mergeCall before entries)).run room := by
  rfl

theorem mergeValueBy_of_not_maps (h : ¬ ∃ before entries, old = some (.map before) ∧ value = .map entries) :
    (mergeValueBy mergeCall old value).run room = .ok (mergeValue old value) := by
  cases value with
  | map entries =>
      rcases old with _ | _ | _ | before
      · rfl
      · rfl
      · rfl
      · exact absurd ⟨before, entries, rfl, rfl⟩ h
  | _ => rfl

theorem mergeValueBy_cases
    (h : ∀ room' < room, ∀ before entries,
      DoneUnless (Overlap (room' + 1) before entries) (layer room' before entries) (merge before entries))
    (old : Option ConfigValue) (value : ConfigValue) :
    DoneUnless (ValuesOverlap room old value) ((mergeValueBy mergeCall old value).run room) (mergeValue old value) := by
  by_cases hmaps : ∃ before entries, old = some (.map before) ∧ value = .map entries
  · obtain ⟨before, entries, rfl, rfl⟩ := hmaps
    have hover : ValuesOverlap room (some (.map before)) (.map entries) ↔ Overlap room before entries := by
      simp [ValuesOverlap]
    rw [mergeValueBy_maps_run, mergeValue_maps, DoneUnless, hover]
    rcases mergeCall_cases fun room' hlt => h room' hlt before entries with ⟨hdone, hnot⟩ | ⟨hfailed, hdeep⟩
    · exact .inl ⟨map_eq_ok.2 ⟨_, hdone, rfl⟩, hnot⟩
    · exact .inr ⟨map_eq_error.2 hfailed, hdeep⟩
  · refine .inl ⟨mergeValueBy_of_not_maps hmaps, ?_⟩
    rintro ⟨before, entries, hold, hvalue, -⟩
    exact hmaps ⟨before, entries, hold, hvalue⟩

/-- A configuration is laid over another one, unless they overlap deeper than calls can be nested. -/
theorem layer_cases (room : Nat) (base next : Config) :
    DoneUnless (Overlap (room + 1) base next) (layer room base next) (merge base next) := by
  induction room using Nat.strongRecOn generalizing base next with
  | ind room ih =>
      -- The entries are laid over the other configuration one by one, all with the same room.
      induction next generalizing base with
      | nil => exact .inl ⟨rfl, fun h => by cases h⟩
      | cons entry next ihNext =>
          obtain ⟨key, value⟩ := entry
          rw [DoneUnless, overlap_cons_iff, layer_cons, bind_eq_ok, bind_eq_error]
          rcases mergeValueBy_cases ih (get? base key) value with ⟨hvalue, hnot⟩ | ⟨hvalue, hdeep⟩
          · rcases ihNext (merge base [(key, value)]) with ⟨hrest, hnotRest⟩ | ⟨hrest, hdeepRest⟩
            · exact .inl ⟨⟨_, hvalue, hrest⟩, not_or.2 ⟨hnot, hnotRest⟩⟩
            · exact .inr ⟨.inr ⟨_, hvalue, hrest⟩, .inr hdeepRest⟩
          · exact .inr ⟨.inl hvalue, .inl hdeep⟩

theorem layer_eq_ok_iff :
    layer room base next = .ok merged ↔ ¬ Overlap (room + 1) base next ∧ merged = merge base next := by
  rcases layer_cases room base next with ⟨hdone, hnot⟩ | ⟨hfailed, hdeep⟩
  · rw [hdone, Except.ok.injEq, eq_comm]
    exact (and_iff_right hnot).symm
  · rw [hfailed]
    exact iff_of_false (fun h => by cases h) fun h => h.1 hdeep

theorem layer_eq_error_iff :
    layer room base next = .error failure ↔ Overlap (room + 1) base next ∧ failure = .endless := by
  rcases layer_cases room base next with ⟨hdone, hnot⟩ | ⟨hfailed, hdeep⟩
  · rw [hdone]
    exact iff_of_false (fun h => by cases h) fun h => hnot h.1
  · rw [hfailed, Except.error.injEq, eq_comm]
    exact (and_iff_right hdeep).symm

instance : Decidable (Overlap (room + 1) base next) :=
  decidable_of_iff (layer room base next = .error .endless) (layer_eq_error_iff.trans (and_iff_left rfl))

/-! ### Any number of configurations -/

/-- There is room for laying each configuration over those before it. -/
def LayersEnd (room : Nat) (base : Config) (configs : List Config) : Prop :=
  ∀ before next after, configs = before ++ next :: after → ¬ Overlap (room + 1) (before.foldl merge base) next

theorem layersEnd_nil : LayersEnd room base [] := by
  intro before next after h
  cases before <;> cases h

theorem layersEnd_cons_iff :
    LayersEnd room base (config :: configs)
      ↔ ¬ Overlap (room + 1) base config ∧ LayersEnd room (merge base config) configs := by
  constructor
  · intro h
    refine ⟨h [] config configs rfl, fun before next after hconfigs => ?_⟩
    exact h (config :: before) next after (congrArg (config :: ·) hconfigs)
  · rintro ⟨hhead, htail⟩ before next after hconfigs
    cases before with
    | nil =>
        cases hconfigs
        exact hhead
    | cons first before =>
        cases hconfigs
        exact htail before next after rfl

end Config

end RegistrySearch
