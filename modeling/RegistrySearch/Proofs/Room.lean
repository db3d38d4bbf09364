import Mathlib.Order.Basic
import RegistrySearch.Room

/-!
# Computations with more room

The room for nested calls is a bound on resources and nothing else: with more of it a computation does the same, unless it failed for lack of it. `Steady` says so of a computation with a state, and every way of putting computations together keeps it.
-/

namespace RegistrySearch

variable {ε σ α β : Type} {failure : ε}

/-- With more room the computation does the same, unless it had too little. -/
def Steady (failure : ε) (c : Nesting (StateT σ (Except ε)) α) : Prop :=
  ∀ ⦃room more : Nat⦄, room ≤ more → ∀ s, c room s = .error failure ∨ c room s = c more s

namespace Steady

theorem lift (c : StateT σ (Except ε) α) : Steady failure (liftM c : Nesting (StateT σ (Except ε)) α) :=
  fun _ _ _ _ => .inr rfl

theorem pure (a : α) : Steady failure (pure a : Nesting (StateT σ (Except ε)) α) :=
  fun _ _ _ _ => .inr rfl

theorem throw (e : ε) : Steady failure (throw e : Nesting (StateT σ (Except ε)) α) :=
  fun _ _ _ _ => .inr rfl

theorem get : Steady failure (get : Nesting (StateT σ (Except ε)) σ) :=
  fun _ _ _ _ => .inr rfl

theorem modify (f : σ → σ) : Steady failure (modify f : Nesting (StateT σ (Except ε)) PUnit) :=
  fun _ _ _ _ => .inr rfl

theorem bind {c : Nesting (StateT σ (Except ε)) α} {next : α → Nesting (StateT σ (Except ε)) β}
    (hc : Steady failure c) (hnext : ∀ a, Steady failure (next a)) : Steady failure (c >>= next) := by
  intro room more hle s
  have hbind : ∀ r, (c >>= next) r s = c r s >>= fun result => next result.1 r result.2 := fun _ => rfl
  rw [hbind, hbind]
  rcases hc hle s with hshort | hsame
  · rw [hshort]
    exact .inl rfl
  · rw [← hsame]
    cases c room s with
    | error e => exact .inr rfl
    | ok result => exact hnext result.1 hle result.2

theorem map {c : Nesting (StateT σ (Except ε)) α} (f : α → β) (hc : Steady failure c) : Steady failure (f <$> c) := by
  rw [map_eq_pure_bind]
  exact hc.bind fun a => .pure _

/-- A nested call fails without room, and then in the way that is allowed. -/
theorem nested {c : Nesting (StateT σ (Except ε)) α} (hc : Steady failure c) :
    Steady failure (nested failure c) := by
  intro room more hle s
  cases room with
  | zero => exact .inl rfl
  | succ room =>
      cases more with
      | zero => exact absurd hle (Nat.not_succ_le_zero room)
      | succ more => exact hc (Nat.le_of_succ_le_succ hle) s

theorem ite {p : Prop} [Decidable p] {c d : Nesting (StateT σ (Except ε)) α} (hc : Steady failure c)
    (hd : Steady failure d) : Steady failure (if p then c else d) := by
  split
  · exact hc
  · exact hd

theorem forM {f : α → Nesting (StateT σ (Except ε)) PUnit} (hf : ∀ a, Steady failure (f a)) (as : List α) :
    Steady failure (as.forM f) := by
  induction as with
  | nil => exact .pure _
  | cons a as ih => exact (hf a).bind fun _ => ih

theorem mapM {f : α → Nesting (StateT σ (Except ε)) β} (hf : ∀ a, Steady failure (f a)) (as : List α) :
    Steady failure (as.mapM f) := by
  induction as with
  | nil => exact .pure _
  | cons a as ih =>
      rw [List.mapM_cons]
      exact (hf a).bind fun b => ih.bind fun bs => .pure _

end Steady

end RegistrySearch
