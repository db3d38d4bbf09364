import Mathlib.Algebra.Order.Field.Rat
import Mathlib.Data.List.Infix
import Mathlib.Data.Nat.Cast.Order.Field
import Mathlib.Order.Lattice.Nat
import Mathlib.Tactic.NormNum
import RegistrySearch.Text.Similarity

/-!
# The most similar word

What the tables and fractions of `Similarity` stand for. The entries of a table are the lengths of longest common subsequences, where the longest is over all subsequences that two texts share (`Similarity.commonRow_eq`). A score is the ratio of twice that length to the lengths of both words, and of words that are not both empty scores are compared as their ratios are. So `closest?` finds the first word of the highest ratio, if that is three fifths or more and the word itself is not in the list (`Similarity.closest?_eq_some_iff`).
-/

namespace RegistrySearch

namespace Similarity

/-! ### Longest common subsequences -/

/-- The lengths of the common subsequences of two texts. -/
def commonLengths (as bs : List Char) : Set ℕ :=
  {n | ∃ common : List Char, common.Sublist as ∧ common.Sublist bs ∧ common.length = n}

/-- The length of a longest common subsequence of two texts. -/
noncomputable def longestCommon (as bs : List Char) : ℕ :=
  sSup (commonLengths as bs)

variable {a b : Char} {as bs : List Char}

theorem isGreatest_longestCommon (as bs : List Char) : IsGreatest (commonLengths as bs) (longestCommon as bs) := by
  have hempty : 0 ∈ commonLengths as bs := ⟨[], List.nil_sublist as, List.nil_sublist bs, rfl⟩
  have hbound : BddAbove (commonLengths as bs) := by
    refine ⟨as.length, ?_⟩
    rintro n ⟨common, has, -, rfl⟩
    exact has.length_le
  exact ⟨Nat.sSup_mem ⟨0, hempty⟩ hbound, fun n hn => le_csSup hbound hn⟩

theorem exists_longestCommon (as bs : List Char) :
    ∃ common : List Char, common.Sublist as ∧ common.Sublist bs ∧ common.length = longestCommon as bs :=
  (isGreatest_longestCommon as bs).1

theorem longestCommon_le_iff {n : ℕ} :
    longestCommon as bs ≤ n ↔ ∀ common : List Char, common.Sublist as → common.Sublist bs → common.length ≤ n := by
  constructor
  · intro h common has hbs
    exact le_trans ((isGreatest_longestCommon as bs).2 ⟨common, has, hbs, rfl⟩) h
  · intro h
    obtain ⟨common, has, hbs, hlength⟩ := exists_longestCommon as bs
    rw [← hlength]
    exact h common has hbs

theorem length_le_longestCommon {common : List Char} (has : common.Sublist as) (hbs : common.Sublist bs) :
    common.length ≤ longestCommon as bs :=
  longestCommon_le_iff.1 le_rfl common has hbs

@[simp] theorem longestCommon_nil_left (bs : List Char) : longestCommon [] bs = 0 := by
  rw [← Nat.le_zero, longestCommon_le_iff]
  intro common has hbs
  simp [List.sublist_nil.1 has]

@[simp] theorem longestCommon_nil_right (as : List Char) : longestCommon as [] = 0 := by
  rw [← Nat.le_zero, longestCommon_le_iff]
  intro common has hbs
  simp [List.sublist_nil.1 hbs]

theorem longestCommon_cons_self : longestCommon (a :: as) (a :: bs) = longestCommon as bs + 1 := by
  apply le_antisymm
  · rw [longestCommon_le_iff]
    intro common has hbs
    have htail := length_le_longestCommon has.tail hbs.tail
    simp only [List.length_tail, List.tail_cons] at htail
    omega
  · obtain ⟨common, has, hbs, hlength⟩ := exists_longestCommon as bs
    have hcons := length_le_longestCommon (has.cons_cons a) (hbs.cons_cons a)
    rw [List.length_cons] at hcons
    omega

/-- Of two texts that start differently, a common subsequence leaves out the start of one of them. -/
theorem longestCommon_cons_of_ne (h : a ≠ b) :
    longestCommon (a :: as) (b :: bs) = max (longestCommon as (b :: bs)) (longestCommon (a :: as) bs) := by
  apply le_antisymm
  · rw [longestCommon_le_iff]
    intro common has hbs
    rw [le_max_iff]
    rcases List.sublist_cons_iff.1 has with hskip | ⟨rest, rfl, -⟩
    · exact .inl (length_le_longestCommon hskip hbs)
    · rcases List.sublist_cons_iff.1 hbs with hskip | ⟨other, heq, -⟩
      · exact .inr (length_le_longestCommon has hskip)
      · exact absurd (List.cons.inj heq).1 h
  · rw [max_le_iff, longestCommon_le_iff, longestCommon_le_iff]
    constructor
    · intro common has hbs
      exact length_le_longestCommon (has.cons a) hbs
    · intro common has hbs
      exact length_le_longestCommon has (hbs.cons b)

/-! ### Tables -/

theorem headD_map_tails (f : List Char → ℕ) (bs : List Char) : (bs.tails.map f).headD 0 = f bs := by
  cases bs <;> simp

theorem nextRow_eq (a : Char) (as bs : List Char) :
    nextRow a bs (bs.tails.map (longestCommon as)) = bs.tails.map (longestCommon (a :: as)) := by
  induction bs with
  | nil => simp [nextRow]
  | cons b bs ih =>
      simp only [List.tails_cons, List.map_cons, nextRow, List.tail_cons, List.headD_cons, ih, headD_map_tails]
      congr 1
      by_cases hab : a = b
      · rw [if_pos hab, hab, longestCommon_cons_self]
      · rw [if_neg hab, longestCommon_cons_of_ne hab]

/-- A row holds the length of a longest common subsequence for each suffix of the second text. -/
theorem commonRow_eq (as bs : List Char) : commonRow as bs = bs.tails.map (longestCommon as) := by
  induction as with
  | nil =>
      have hzero : longestCommon [] = fun _ => 0 := funext longestCommon_nil_left
      rw [commonRow, hzero, List.map_const', List.length_tails]
  | cons a as ih => rw [commonRow, ih, nextRow_eq]

/-! ### Ratios -/

/-- How alike two words are: twice the length of a longest common subsequence over the sum of their lengths. -/
noncomputable def ratio (a b : String) : ℚ :=
  2 * longestCommon a.toList b.toList / (a.length + b.length)

variable {word found candidate : String}

theorem ratio_eq (a b : String) : ratio a b = ((score a b).shared : ℚ) / ((score a b).total : ℚ) := by
  simp only [ratio, score, commonRow_eq, headD_map_tails, Nat.cast_mul, Nat.cast_add, Nat.cast_ofNat]

theorem total_score_pos (h : word ≠ found) : 0 < ((score word found).total : ℚ) := by
  rw [Nat.cast_pos, Nat.pos_iff_ne_zero]
  intro hzero
  obtain ⟨hword, hfound⟩ := Nat.add_eq_zero_iff.1 hzero
  rw [String.length_eq_zero_iff] at hword hfound
  exact h (hword.trans hfound.symm)

theorem exceeds_score_iff (hcandidate : word ≠ candidate) (hfound : word ≠ found) :
    (score word candidate).exceeds (score word found) = true ↔ ratio word found < ratio word candidate := by
  rw [ratio_eq, ratio_eq, div_lt_div_iff₀ (total_score_pos hfound) (total_score_pos hcandidate), Score.exceeds,
    decide_eq_true_iff]
  exact_mod_cast Iff.rfl

theorem suffices_score_iff (h : word ≠ found) : (score word found).suffices = true ↔ 3 / 5 ≤ ratio word found := by
  have hfive : (0 : ℚ) < 5 := by norm_num
  rw [ratio_eq, div_le_div_iff₀ hfive (total_score_pos h), mul_comm ((score word found).shared : ℚ), Score.suffices,
    decide_eq_true_iff]
  exact_mod_cast Iff.rfl

/-- No word has anything in common with the empty one. -/
theorem ratio_empty (word : String) : ratio word "" = 0 := by
  simp [ratio]

/-! ### The first of the best -/

/-- The element is the first one in the list whose score is the highest there. -/
def IsFirstBest {α : Type} (score : α → ℚ) (xs : List α) (x : α) : Prop :=
  ∃ before after, xs = before ++ x :: after ∧ (∀ y ∈ before, score y < score x) ∧ ∀ y ∈ after, score y ≤ score x

namespace IsFirstBest

variable {α : Type} {score : α → ℚ} {x y : α} {xs : List α}

theorem mem (h : IsFirstBest score xs x) : x ∈ xs := by
  obtain ⟨before, after, rfl, -, -⟩ := h
  simp

theorem not_nil : ¬ IsFirstBest score [] x := by
  intro h
  exact absurd h.mem List.not_mem_nil

/-- The first of the best is the head if nothing after it is better, and is found after the head if it is better. -/
theorem cons_iff : IsFirstBest score (y :: xs) x
    ↔ x = y ∧ (∀ z ∈ xs, score z ≤ score y) ∨ score y < score x ∧ IsFirstBest score xs x := by
  constructor
  · rintro ⟨before, after, heq, hbefore, hafter⟩
    cases before with
    | nil =>
        obtain ⟨rfl, rfl⟩ := List.cons.inj heq
        exact .inl ⟨rfl, hafter⟩
    | cons z before =>
        obtain ⟨rfl, rfl⟩ := List.cons.inj heq
        obtain ⟨hhead, hbefore⟩ := List.forall_mem_cons.1 hbefore
        exact .inr ⟨hhead, before, after, rfl, hbefore, hafter⟩
  · rintro (⟨rfl, hafter⟩ | ⟨hhead, before, after, rfl, hbefore, hafter⟩)
    · exact ⟨[], xs, rfl, by simp, hafter⟩
    · exact ⟨y :: before, after, rfl, List.forall_mem_cons.2 ⟨hhead, hbefore⟩, hafter⟩

theorem unique (hx : IsFirstBest score xs x) (hy : IsFirstBest score xs y) : x = y := by
  induction xs with
  | nil => exact absurd hx not_nil
  | cons z xs ih =>
      rcases cons_iff.1 hx with ⟨rfl, hafter⟩ | ⟨hlt, hxs⟩
      · rcases cons_iff.1 hy with ⟨rfl, -⟩ | ⟨hlt, hys⟩
        · rfl
        · exact absurd hlt (not_lt.2 (hafter y hys.mem))
      · rcases cons_iff.1 hy with ⟨rfl, hafter⟩ | ⟨-, hys⟩
        · exact absurd hlt (not_lt.2 (hafter x hxs.mem))
        · exact ih hxs hys

/-- An element that is no better than the one before it can be passed over. -/
theorem pass (h : IsFirstBest score (y :: xs) x) {z : α} (hz : score z ≤ score y) :
    IsFirstBest score (y :: z :: xs) x := by
  rcases cons_iff.1 h with ⟨rfl, hafter⟩ | ⟨hlt, h⟩
  · exact cons_iff.2 (.inl ⟨rfl, List.forall_mem_cons.2 ⟨hz, hafter⟩⟩)
  · exact cons_iff.2 (.inr ⟨hlt, cons_iff.2 (.inr ⟨lt_of_le_of_lt hz hlt, h⟩)⟩)

/-- An element that is worse than the one after it is not the best. -/
theorem replace (h : IsFirstBest score (y :: xs) x) {z : α} (hz : score z < score y) :
    IsFirstBest score (z :: y :: xs) x := by
  have hle : score y ≤ score x := by
    rcases cons_iff.1 h with ⟨rfl, -⟩ | ⟨hlt, -⟩
    · exact le_rfl
    · exact le_of_lt hlt
  exact cons_iff.2 (.inr ⟨lt_of_lt_of_le hz hle, h⟩)

end IsFirstBest

/-! ### The closest word -/

theorem isFirstBest_best {rest : List String} (h : word ∉ found :: rest) :
    IsFirstBest (ratio word) (found :: rest) (best word found rest) := by
  induction rest generalizing found with
  | nil => exact IsFirstBest.cons_iff.2 (.inl ⟨rfl, by simp⟩)
  | cons candidate rest ih =>
      simp only [List.mem_cons, not_or] at h ih
      obtain ⟨hfound, hcandidate, hrest⟩ := h
      rw [best]
      by_cases hexceeds : (score word candidate).exceeds (score word found) = true
      · rw [if_pos hexceeds]
        exact (ih ⟨hcandidate, hrest⟩).replace ((exceeds_score_iff hcandidate hfound).1 hexceeds)
      · rw [if_neg hexceeds]
        have hle := not_lt.1 fun hlt => hexceeds ((exceeds_score_iff hcandidate hfound).2 hlt)
        exact (ih ⟨hfound, hrest⟩).pass hle

theorem closest?_eq_some_iff {known : List String} :
    closest? word known = some found
      ↔ word ∉ known ∧ IsFirstBest (ratio word) known found ∧ 3 / 5 ≤ ratio word found := by
  unfold closest?
  by_cases hmem : word ∈ known
  · simp [hmem]
  · rw [if_neg hmem, and_iff_right hmem]
    cases known with
    | nil => simp [IsFirstBest.not_nil]
    | cons first rest =>
        have hbest := isFirstBest_best hmem
        have hne : ∀ {other}, IsFirstBest (ratio word) (first :: rest) other → word ≠ other := by
          rintro other hother rfl
          exact hmem hother.mem
        simp only [Option.ite_none_right_eq_some, Option.some.injEq, suffices_score_iff (hne hbest)]
        constructor
        · rintro ⟨hratio, rfl⟩
          exact ⟨hbest, hratio⟩
        · rintro ⟨hfound, hratio⟩
          have heq := hbest.unique hfound
          exact ⟨heq ▸ hratio, heq⟩

end Similarity

end RegistrySearch
