import Mathlib.Data.List.Forall2

/-!
# Computations that stop at a failure

When a computation with a failure ends well, all its steps did, and when it fails, one of them did and the steps before it did not. These are the inversions that the readers and the compiler share: of a sequence of two steps, of a change of the failure, and of a step for each element of a list, whose results then stand beside the elements. A computation is also told by its failures: by a property that all of them have, or by the list of the faults it would meet, of which it reports the first.
-/

namespace RegistrySearch

variable {ε δ α β : Type}

theorem bind_eq_ok {first : Except ε α} {next : α → Except ε β} {result : β} :
    (first >>= next) = .ok result ↔ ∃ value, first = .ok value ∧ next value = .ok result := by
  cases first <;> simp [bind, Except.bind]

theorem bind_eq_error {first : Except ε α} {next : α → Except ε β} {failure : ε} :
    (first >>= next) = .error failure
      ↔ first = .error failure ∨ ∃ value, first = .ok value ∧ next value = .error failure := by
  cases first <;> simp [bind, Except.bind]

theorem pure_eq_ok {value result : α} :
    (pure value : Except ε α) = .ok result ↔ value = result := by
  simp [pure, Except.pure]

theorem map_eq_ok {f : α → β} {outcome : Except ε α} {result : β} :
    f <$> outcome = .ok result ↔ ∃ value, outcome = .ok value ∧ f value = result := by
  cases outcome <;> simp [Functor.map, Except.map]

theorem map_eq_error {f : α → β} {outcome : Except ε α} {failure : ε} :
    f <$> outcome = .error failure ↔ outcome = .error failure := by
  cases outcome <;> simp [Functor.map, Except.map]

theorem mapError_eq_ok {f : ε → δ} {outcome : Except ε α} {result : α} :
    outcome.mapError f = .ok result ↔ outcome = .ok result := by
  cases outcome <;> simp [Except.mapError]

theorem mapError_eq_error {f : ε → δ} {outcome : Except ε α} {failure : δ} :
    outcome.mapError f = .error failure ↔ ∃ cause, outcome = .error cause ∧ f cause = failure := by
  cases outcome <;> simp [Except.mapError]

/-- Computations that end alike up to a change of the failure still do so when they go on alike. -/
theorem mapError_bind_congr {f : ε → δ} {first second : Except ε α} {next other : α → Except ε β}
    (h : first.mapError f = second.mapError f) (hnext : ∀ value, (next value).mapError f = (other value).mapError f) :
    (first >>= next).mapError f = (second >>= other).mapError f := by
  cases first with
  | ok value =>
      cases second with
      | ok _ => cases h; exact hnext value
      | error _ => cases h
  | error failure =>
      cases second with
      | ok _ => cases h
      | error _ => exact congrArg Except.error (Except.error.inj h)

theorem mapError_congr {f : ε → δ} {first second : Except ε α} (hok : ∀ value, first = .ok value ↔ second = .ok value)
    (herror : ∀ failure other, first = .error failure → second = .error other → f failure = f other) :
    first.mapError f = second.mapError f := by
  cases first with
  | ok value => rw [(hok value).1 rfl]
  | error failure =>
      cases second with
      | ok value => cases (hok value).2 rfl
      | error other => exact congrArg Except.error (herror failure other rfl rfl)

/-- A check that keeps nothing of what it computed. -/
theorem seqRight_eq_ok {first : Except ε α} {second : Except ε β} {result : β} :
    (first *> second) = .ok result ↔ (∃ value, first = .ok value) ∧ second = .ok result := by
  cases first <;> simp [SeqRight.seqRight, Except.bind]

theorem mapM_eq_ok {f : α → Except ε β} {xs : List α} {ys : List β} :
    xs.mapM f = .ok ys ↔ List.Forall₂ (fun x y => f x = .ok y) xs ys := by
  induction xs generalizing ys with
  | nil =>
      rw [List.mapM_nil, pure_eq_ok, List.forall₂_nil_left_iff]
      exact eq_comm
  | cons x xs ih =>
      rw [List.mapM_cons, List.forall₂_cons_left_iff, bind_eq_ok]
      constructor
      · intro h
        obtain ⟨y, hy, hrest⟩ := h
        obtain ⟨rest, hrest, hys⟩ := bind_eq_ok.1 hrest
        exact ⟨y, rest, hy, ih.1 hrest, (pure_eq_ok.1 hys).symm⟩
      · intro h
        obtain ⟨y, rest, hy, hrest, rfl⟩ := h
        exact ⟨y, hy, bind_eq_ok.2 ⟨rest, ih.2 hrest, rfl⟩⟩

/-- The failure of a step for each element is that of the first element that it fails for. -/
theorem mapM_eq_error {f : α → Except ε β} {xs : List α} {failure : ε} (h : xs.mapM f = .error failure) :
    ∃ (i : Nat) (x : α), xs[i]? = some x ∧ f x = .error failure ∧ ∀ j < i, ∀ y, xs[j]? = some y → ∃ r, f y = .ok r := by
  induction xs with
  | nil => cases h
  | cons x xs ih =>
      rw [List.mapM_cons, bind_eq_error] at h
      rcases h with hx | ⟨r, hx, hrest⟩
      · exact ⟨0, x, rfl, hx, fun j hj => absurd hj (Nat.not_lt_zero j)⟩
      · rcases bind_eq_error.1 hrest with hxs | ⟨rest, -, hpure⟩
        · obtain ⟨i, y, hy, hfailure, hbefore⟩ := ih hxs
          refine ⟨i + 1, y, hy, hfailure, fun j hj z hz => ?_⟩
          cases j with
          | zero =>
              cases hz
              exact ⟨r, hx⟩
          | succ j => exact hbefore j (Nat.lt_of_succ_lt_succ hj) z hz
        · cases hpure

theorem mapM_eq_map {f : α → Except ε β} {g : α → β} {xs : List α} (h : ∀ x ∈ xs, f x = .ok (g x)) :
    xs.mapM f = .ok (xs.map g) := by
  rw [mapM_eq_ok, List.forall₂_map_right_iff, List.forall₂_same]
  exact h

theorem mapM_eq_filterMap {f : α → Except ε β} {g : α → Option β} {xs : List α}
    (h : ∀ x ∈ xs, ∃ y, f x = .ok y ∧ g x = some y) : xs.mapM f = .ok (xs.filterMap g) := by
  induction xs with
  | nil => rfl
  | cons x xs ih =>
      obtain ⟨hx, hxs⟩ := List.forall_mem_cons.1 h
      obtain ⟨y, hf, hg⟩ := hx
      rw [List.mapM_cons, hf, ih hxs, List.filterMap_cons_some hg]
      rfl

/-- A list has partners for its elements in their order if each element has one. -/
theorem exists_forall₂_iff {R : α → β → Prop} {xs : List α} :
    (∃ ys, List.Forall₂ R xs ys) ↔ ∀ x ∈ xs, ∃ y, R x y := by
  induction xs with
  | nil => exact iff_of_true ⟨[], .nil⟩ fun x hx => absurd hx List.not_mem_nil
  | cons x xs ih =>
      rw [List.forall_mem_cons, ← ih]
      constructor
      · intro h
        obtain ⟨ys, hys⟩ := h
        obtain ⟨y, ys, hy, hys, -⟩ := List.forall₂_cons_left_iff.1 hys
        exact ⟨⟨y, hy⟩, ys, hys⟩
      · intro h
        obtain ⟨⟨y, hy⟩, ys, hys⟩ := h
        exact ⟨y :: ys, .cons hy hys⟩

theorem exists_mapM {f : α → Except ε β} {R : α → β → Prop} {xs : List α}
    (h : ∀ x ∈ xs, ∃ y, f x = .ok y ∧ R x y) : ∃ ys, xs.mapM f = .ok ys ∧ List.Forall₂ R xs ys := by
  obtain ⟨ys, hys⟩ := exists_forall₂_iff.2 h
  exact ⟨ys, mapM_eq_ok.2 (hys.imp fun _ _ hy => hy.1), hys.imp fun _ _ hy => hy.2⟩

/-! ### Computations by their failures -/

section Failures

variable {P : ε → Prop}

/-- Every failure that the computation can end with is one of these. -/
def FailsOnly (P : ε → Prop) (outcome : Except ε α) : Prop :=
  ∀ failure, outcome = .error failure → P failure

theorem failsOnly_ok (value : α) : FailsOnly P (.ok value : Except ε α) := by
  intro failure h
  cases h

theorem failsOnly_error {failure : ε} (h : P failure) : FailsOnly P (.error failure : Except ε α) := by
  intro other hother
  cases hother
  exact h

theorem FailsOnly.bind {first : Except ε α} {next : α → Except ε β} (hfirst : FailsOnly P first)
    (hnext : ∀ value, FailsOnly P (next value)) : FailsOnly P (first >>= next) := by
  intro failure h
  rcases bind_eq_error.1 h with herror | ⟨value, -, herror⟩
  · exact hfirst failure herror
  · exact hnext value failure herror

theorem FailsOnly.map {outcome : Except ε α} (h : FailsOnly P outcome) (f : α → β) : FailsOnly P (f <$> outcome) := by
  intro failure herror
  exact h failure (map_eq_error.1 herror)

theorem failsOnly_mapError {f : δ → ε} {outcome : Except δ α} (h : ∀ cause, P (f cause)) :
    FailsOnly P (outcome.mapError f) := by
  intro failure herror
  obtain ⟨cause, -, rfl⟩ := mapError_eq_error.1 herror
  exact h cause

theorem FailsOnly.mapM {f : α → Except ε β} (h : ∀ x, FailsOnly P (f x)) (xs : List α) : FailsOnly P (xs.mapM f) := by
  intro failure herror
  obtain ⟨_, x, -, hx, -⟩ := mapM_eq_error herror
  exact h x failure hx

end Failures

/-- The faults tell how a computation ends: without any it ends well, and otherwise with the first of them. -/
def EndsBy {ε α : Type} (outcome : Except ε α) (faults : List ε) : Prop :=
  match outcome with
  | .ok _ => faults = []
  | .error fault => faults.head? = some fault

namespace EndsBy

variable {outcome : Except ε α} {faults others : List ε}

theorem ok (value : α) : EndsBy (.ok value : Except ε α) [] := rfl

theorem error (fault : ε) (others : List ε) : EndsBy (.error fault : Except ε α) (fault :: others) := rfl

theorem bind {next : α → Except ε β} (h : EndsBy outcome faults)
    (hnext : ∀ value, EndsBy (next value) others) : EndsBy (outcome >>= next) (faults ++ others) := by
  cases outcome with
  | error fault =>
      have hhead : faults.head? = some fault := h
      change (faults ++ others).head? = some fault
      rw [List.head?_append, hhead]
      rfl
  | ok value =>
      have hnil : faults = [] := h
      rw [hnil]
      exact hnext value

theorem map (h : EndsBy outcome faults) (f : α → β) : EndsBy (f <$> outcome) faults := by
  cases outcome with
  | error fault => exact h
  | ok value => exact h

theorem mapM {f : α → Except ε β} {faultsOf : α → List ε} {xs : List α} (h : ∀ x ∈ xs, EndsBy (f x) (faultsOf x)) :
    EndsBy (xs.mapM f) (xs.flatMap faultsOf) := by
  induction xs with
  | nil => exact .ok []
  | cons x xs ih =>
      obtain ⟨hx, hxs⟩ := List.forall_mem_cons.1 h
      rw [List.mapM_cons, List.flatMap_cons]
      exact hx.bind fun first => (ih hxs).map (first :: ·)

theorem eq_nil (h : EndsBy outcome faults) {value : α} (hok : outcome = .ok value) : faults = [] := by
  subst hok
  exact h

theorem eq_error_iff (h : EndsBy outcome faults) {fault : ε} :
    outcome = .error fault ↔ faults.head? = some fault := by
  cases outcome with
  | error other =>
      have hhead : faults.head? = some other := h
      rw [hhead, Except.error.injEq, Option.some.injEq]
  | ok value =>
      have hnil : faults = [] := h
      simp [hnil]

theorem exists_error_iff (h : EndsBy outcome faults) : (∃ fault, outcome = .error fault) ↔ faults ≠ [] := by
  cases outcome with
  | error fault =>
      refine iff_of_true ⟨fault, rfl⟩ fun hnil => ?_
      rw [hnil] at h
      cases h
  | ok value => exact iff_of_false (fun ⟨fault, hfault⟩ => by cases hfault) fun hne => hne (h.eq_nil rfl)

end EndsBy

/-! ### Lists side by side -/

theorem forall_mem_iff_of_forall₂ {P : α → Prop} {Q : β → Prop} {xs : List α} {ys : List β}
    (h : List.Forall₂ (fun x y => Q y ↔ P x) xs ys) : (∀ y ∈ ys, Q y) ↔ ∀ x ∈ xs, P x := by
  induction h with
  | nil => exact iff_of_true (fun y hy => absurd hy List.not_mem_nil) fun x hx => absurd hx List.not_mem_nil
  | cons hxy _ ih => rw [List.forall_mem_cons, List.forall_mem_cons, hxy, ih]

theorem exists_mem_iff_of_forall₂ {P : α → Prop} {Q : β → Prop} {xs : List α} {ys : List β}
    (h : List.Forall₂ (fun x y => Q y ↔ P x) xs ys) : (∃ y ∈ ys, Q y) ↔ ∃ x ∈ xs, P x := by
  induction h with
  | nil => exact iff_of_false (fun ⟨y, hy, _⟩ => absurd hy List.not_mem_nil) fun ⟨x, hx, _⟩ =>
      absurd hx List.not_mem_nil
  | cons hxy _ ih => rw [List.exists_mem_cons_iff, List.exists_mem_cons_iff, hxy, ih]

end RegistrySearch
