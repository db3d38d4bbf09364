import RegistrySearch.Proofs.Search.Lookups
import RegistrySearch.Search.NameQuestion

/-!
# The memo of a compiler that answers questions

Questions about the name fields of catalogs are asked in any order, between them the memo may be dropped, and some of them are about catalogs that must not be remembered. What counts for the memo are the other ones that were asked since it was last dropped (`NameQuestion.lookups`). It has the answers for the 32 catalogs among them that were asked about last, in the order of these last questions, so the next question finds its answer exactly if it is about one of these (`Compiler.memo_keeps_latest`).

A single question either leaves the memo as it is or looks one catalog up, for which `Memo.Remembers` is kept; the rest is an induction over the questions, the last one of which is taken off.
-/

namespace RegistrySearch

/-- The events under which the name fields of a catalog are remembered, unless it may change. -/
def Catalog.key? (catalog : Catalog) : Option (List Event) :=
  if catalog.editable = true then none else some catalog.events

namespace NameQuestion

/-- The catalog that the question is about. -/
def catalog? : NameQuestion → Option Catalog
  | nameFields catalog => some catalog
  | isNameField _ catalog => some catalog
  | forget => none

/-- The events that are looked up in the memo, if the question is about a catalog that may be remembered. -/
def key? (question : NameQuestion) : Option (List Event) :=
  question.catalog?.bind Catalog.key?

/-- What was looked up since the memo was last dropped, the latest first. -/
def lookups (questions : List NameQuestion) : List (List Event) :=
  (questions.reverse.takeWhile fun question => question ≠ forget).filterMap key?

theorem lookups_append_forget (questions : List NameQuestion) : lookups (questions ++ [forget]) = [] := by
  rw [lookups, List.reverse_append]
  rfl

theorem lookups_append {question : NameQuestion} (h : question ≠ forget) (questions : List NameQuestion) :
    lookups (questions ++ [question]) = question.key?.toList ++ lookups questions := by
  have hstep : ((question :: questions.reverse).takeWhile fun question => question ≠ forget)
      = question :: questions.reverse.takeWhile fun question => question ≠ forget :=
    List.takeWhile_cons_of_pos (decide_eq_true h)
  rw [lookups, List.reverse_append, List.reverse_singleton, List.singleton_append, hstep]
  cases hkey : question.key? with
  | none =>
      rw [List.filterMap_cons_none hkey]
      rfl
  | some events =>
      rw [List.filterMap_cons_some hkey]
      rfl

end NameQuestion

namespace Compiler

variable (compiler : Compiler)

/-! ### One question -/

theorem lookUp_of_key {catalog : Catalog} {events : List Event} (hcache : compiler.settings.cacheNameFields = true)
    (hkey : catalog.key? = some events) (memo : Memo) :
    compiler.lookUp catalog memo = (memo.ask (nameFieldIds compiler.lookup) events).2 := by
  unfold Catalog.key? at hkey
  split at hkey
  · cases hkey
  · rename_i heditable
    cases hkey
    exact if_pos ⟨hcache, Bool.eq_false_iff.2 heditable⟩

theorem lookUp_of_no_key {catalog : Catalog} (h : catalog.key? = none ∨ compiler.settings.cacheNameFields = false)
    (memo : Memo) : compiler.lookUp catalog memo = memo := by
  refine if_neg fun hboth => ?_
  rw [Catalog.key?, hboth.1, hboth.2] at h
  rcases h with h | h <;> cases h

theorem run_answer {question : NameQuestion} {catalog : Catalog} (h : question.catalog? = some catalog) (memo : Memo) :
    ((compiler.answer question).run memo).memo = compiler.lookUp catalog memo := by
  have hasks := compiler.asks_nameFields catalog
  cases question with
  | nameFields asked =>
      cases h
      exact (hasks.map NameAnswer.nameFields).memo memo
  | isNameField id asked =>
      cases h
      exact ((hasks.map fun ids => ids.contains id).map NameAnswer.isNameField).memo memo
  | forget => cases h

/-- A question looks its catalog up if that may be remembered. -/
theorem run_answer_of_key {question : NameQuestion} {events : List Event} (hcache : compiler.settings.cacheNameFields = true)
    (hkey : question.key? = some events) (memo : Memo) :
    ((compiler.answer question).run memo).memo = (memo.ask (nameFieldIds compiler.lookup) events).2 := by
  obtain ⟨catalog, hcatalog, hkey⟩ := Option.bind_eq_some_iff.1 hkey
  rw [compiler.run_answer hcatalog, compiler.lookUp_of_key hcache hkey]

theorem run_answer_of_no_key {question : NameQuestion} (hne : question ≠ .forget)
    (hnone : question.key? = none ∨ compiler.settings.cacheNameFields = false) (memo : Memo) :
    ((compiler.answer question).run memo).memo = memo := by
  cases question with
  | nameFields catalog => exact (compiler.run_answer rfl memo).trans (compiler.lookUp_of_no_key hnone memo)
  | isNameField id catalog => exact (compiler.run_answer rfl memo).trans (compiler.lookUp_of_no_key hnone memo)
  | forget => exact absurd rfl hne

/-! ### Questions in a row -/

theorem memoAfter_append (questions : List NameQuestion) (question : NameQuestion) :
    compiler.memoAfter (questions ++ [question]) = ((compiler.answer question).run (compiler.memoAfter questions)).memo :=
  List.foldl_concat ..

theorem remembers_memoAfter (hcache : compiler.settings.cacheNameFields = true) (questions : List NameQuestion) :
    (compiler.memoAfter questions).Remembers (NameQuestion.lookups questions) := by
  -- The memo comes from the last question and the memo before it, and so do the look-ups.
  induction questions using List.reverseRecOn with
  | nil => exact Memo.remembers_empty
  | append_singleton questions question ih =>
      rw [memoAfter_append]
      by_cases hforget : question = .forget
      · rw [hforget, NameQuestion.lookups_append_forget]
        exact Memo.remembers_empty
      · rw [NameQuestion.lookups_append hforget]
        cases hkey : question.key? with
        | none =>
            rw [run_answer_of_no_key compiler hforget (.inl hkey)]
            exact ih
        | some events =>
            rw [run_answer_of_key compiler hcache hkey]
            exact ih.ask _ events

/-- The memo of a compiler that answers questions has entries for the 32 catalogs that were looked up last since it was last dropped, in the order of their last look-ups. A catalog that is looked up next is a hit exactly if it is among them; all look-ups are counted, and there are as many entries as misses until there is no more room. Questions about a catalog that may change leave the memo as it is, and so do all questions if nothing is to be remembered. -/
theorem memo_keeps_latest (compiler : Compiler) (questions : List NameQuestion) :
    let memo := compiler.memoAfter questions
    let lookups := NameQuestion.lookups questions
    (compiler.settings.cacheNameFields = true →
      memo.keys = (distinctBy id lookups).take 32
      ∧ memo.hits + memo.misses = lookups.length ∧ memo.size = min memo.misses 32
      ∧ ∀ question events, question.key? = some events →
        (memo.IsHit (compiler.memoAfter (questions ++ [question])) ↔ events ∈ (distinctBy id lookups).take 32)
        ∧ (memo.IsMiss (compiler.memoAfter (questions ++ [question])) ↔ events ∉ (distinctBy id lookups).take 32))
    ∧ ∀ question, question ≠ .forget → question.key? = none ∨ compiler.settings.cacheNameFields = false →
      compiler.memoAfter (questions ++ [question]) = memo := by
  intro memo lookups
  constructor
  · intro hcache
    have hremembers : memo.Remembers lookups := compiler.remembers_memoAfter hcache questions
    have hkeys : memo.keys = (distinctBy id lookups).take 32 := hremembers.keys_eq
    refine ⟨hkeys, hremembers.total, hremembers.size_eq, fun question events hkey => ?_⟩
    rw [memoAfter_append, run_answer_of_key compiler hcache hkey, Memo.isHit_ask_iff, Memo.isMiss_ask_iff, ← hkeys]
    exact ⟨Iff.rfl, Iff.rfl⟩
  · intro question hne hnone
    rw [memoAfter_append]
    exact run_answer_of_no_key compiler hne hnone _

end Compiler

/-- One of many catalogs that can be told apart. -/
def Catalog.numbered (i : Nat) : Catalog := { events := [{ id := toString i }] }

/-- After the memo was dropped, one catalog more than it has room for is asked about. The second one of them and a catalog that may change are asked about once more. -/
def rotation : List NameQuestion :=
  [.nameFields .redeclaring, .forget] ++ (List.range 33).map (fun i => .nameFields (.numbered i))
    ++ [.isNameField "child.name" (.numbered 1), .nameFields Catalog.redeclaring.edited]

/-- The first catalog was pushed out. The second one was asked about again since, so the next one to go is the third. -/
theorem Compiler.memo_keeps_latest_rotation :
    let compiler : Compiler := {}
    let memo := compiler.memoAfter rotation
    memo.keys.getLast? = some (Catalog.numbered 2).events ∧ memo.hits + memo.misses = 34 ∧ memo.size = 32
      ∧ memo.IsHit (compiler.memoAfter (rotation ++ [.isNameField "child.name" (.numbered 1)]))
      ∧ memo.IsMiss (compiler.memoAfter (rotation ++ [.nameFields (.numbered 0)]))
      ∧ compiler.memoAfter (rotation ++ [.nameFields Catalog.redeclaring.edited]) = memo := by
  intro compiler memo
  obtain ⟨hcached, hunchanged⟩ := compiler.memo_keeps_latest rotation
  obtain ⟨hkeys, htotal, hsize, hnext⟩ := hcached rfl
  refine ⟨?_, htotal.trans (by decide +kernel), hsize.trans (by decide +kernel), ?_, ?_, ?_⟩
  · rw [hkeys]
    decide +kernel
  · exact (hnext (.isNameField "child.name" (.numbered 1)) _ rfl).1.2 (by decide +kernel)
  · exact (hnext (.nameFields (.numbered 0)) _ rfl).2.2 (by decide +kernel)
  · exact hunchanged _ (by decide) (.inl rfl)

end RegistrySearch
