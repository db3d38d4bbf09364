import RegistrySearch.Proofs.Search.Lookups

/-!
# When compiling fails

A declaration field can be searched exactly, approximately, for one of several values or within bounds. Anything else that stands in the place of its criterion, be it a criterion of another variant or a value that was never read, ends the compilation of the whole query. Of several such entries the first one counts, clause by clause and in the order of each clause (`Query.RefusedFirst`), whatever stands before, between and after them.

Nothing is compiled under an operator that matches nothing, so there nothing can fail.
-/

namespace RegistrySearch

/-- The clause searches its declaration fields only with criteria for those. -/
def Clause.Searchable (clause : Clause) : Prop :=
  ∀ data, clause.data = some data → ∀ entry ∈ data, entry.2.IsOneOf Variant.field

/-- The entry is the first one of the query whose declaration field cannot be searched as it asks for. -/
def Query.RefusedFirst (query : Query) (entry : String × Criterion) : Prop :=
  ∃ before clause after, query.clauses = before ++ clause :: after ∧ (∀ other ∈ before, other.Searchable)
    ∧ ∃ first rest, clause.data = some (first ++ entry :: rest) ∧ (∀ other ∈ first, other.2.IsOneOf Variant.field)
      ∧ ¬ entry.2.IsOneOf Variant.field

/-- The failure that tells of an entry, with its field and its tag. -/
def refusalOf (entry : String × Criterion) : CompileFailure :=
  .unsupported ⟨entry.1, entry.2.tag, suggestTag entry.2.tag UnsupportedCriterion.supportedTags⟩

/-! ### One entry and one clause -/

theorem Criterion.refusals_eq_nil_iff {id : String} {criterion : Criterion} :
    criterion.refusals id = [] ↔ criterion.IsOneOf Variant.field :=
  ⟨isOneOf_of_refusals, fun h => if_pos h⟩

theorem Criterion.head?_refusals {entry : String × Criterion} {failure : CompileFailure} :
    (entry.2.refusals entry.1).head? = some failure ↔ ¬ entry.2.IsOneOf Variant.field ∧ failure = refusalOf entry := by
  by_cases h : entry.2.IsOneOf Variant.field
  · rw [refusals_eq_nil_iff.2 h]
    exact iff_of_false (fun hnone => by cases hnone) fun hnot => hnot.1 h
  · have hsingle : entry.2.refusals entry.1 = [refusalOf entry] := if_neg h
    rw [hsingle, List.head?_cons, Option.some_inj, eq_comm]
    exact (and_iff_right h).symm

theorem Clause.refusals_eq_nil_iff {clause : Clause} : clause.refusals = [] ↔ clause.Searchable := by
  unfold refusals Searchable
  cases clause.data with
  | none => exact iff_of_true rfl fun data hdata => by cases hdata
  | some data => simp [Criterion.refusals_eq_nil_iff]

/-- The first fault of a list of parts is that of the first part that has one. -/
theorem head?_flatMap_eq_some_iff {α β : Type} {f : α → List β} {xs : List α} {y : β} :
    (xs.flatMap f).head? = some y
      ↔ ∃ before x after, xs = before ++ x :: after ∧ (∀ other ∈ before, f other = []) ∧ (f x).head? = some y := by
  rw [List.head?_flatMap, List.findSome?_eq_some_iff]
  simp only [List.head?_eq_none_iff, and_comm]

theorem Clause.head?_refusals {clause : Clause} {failure : CompileFailure} :
    clause.refusals.head? = some failure
      ↔ ∃ entry, (∃ first rest, clause.data = some (first ++ entry :: rest)
          ∧ (∀ other ∈ first, other.2.IsOneOf Variant.field) ∧ ¬ entry.2.IsOneOf Variant.field)
        ∧ failure = refusalOf entry := by
  rw [refusals, head?_flatMap_eq_some_iff]
  constructor
  · rintro ⟨first, entry, rest, hdata, hfirst, hentry⟩
    obtain ⟨hnot, hfailure⟩ := Criterion.head?_refusals.1 hentry
    refine ⟨entry, ⟨first, rest, ?_, fun other hother => Criterion.refusals_eq_nil_iff.1 (hfirst other hother), hnot⟩,
      hfailure⟩
    cases hnone : clause.data with
    | none =>
        rw [hnone] at hdata
        exact absurd hdata.symm (List.append_ne_nil_of_right_ne_nil _ (List.cons_ne_nil _ _))
    | some data =>
        rw [hnone] at hdata
        exact congrArg some hdata
  · rintro ⟨entry, ⟨first, rest, hdata, hfirst, hnot⟩, hfailure⟩
    rw [hdata]
    exact ⟨first, entry, rest, rfl, fun other hother => Criterion.refusals_eq_nil_iff.2 (hfirst other hother),
      Criterion.head?_refusals.2 ⟨hnot, hfailure⟩⟩

/-! ### Queries -/

namespace Query

variable {query : Query}

theorem head?_refusals {failure : CompileFailure} :
    query.refusals.head? = some failure
      ↔ (query.operator = conjunction ∨ query.operator = disjunction)
        ∧ ∃ entry, query.RefusedFirst entry ∧ failure = refusalOf entry := by
  by_cases hop : query.operator = conjunction ∨ query.operator = disjunction
  · rw [refusals, if_pos hop, head?_flatMap_eq_some_iff, and_iff_right hop]
    simp only [Clause.refusals_eq_nil_iff, Clause.head?_refusals]
    constructor
    · rintro ⟨before, clause, after, hclauses, hbefore, entry, hentry, hfailure⟩
      exact ⟨entry, ⟨before, clause, after, hclauses, hbefore, hentry⟩, hfailure⟩
    · rintro ⟨entry, ⟨before, clause, after, hclauses, hbefore, hentry⟩, hfailure⟩
      exact ⟨before, clause, after, hclauses, hbefore, entry, hentry, hfailure⟩
  · rw [refusals, if_neg hop]
    exact iff_of_false (fun hnone => by cases hnone) fun h => hop h.1

theorem refusals_ne_nil_iff :
    query.refusals ≠ [] ↔ (query.operator = conjunction ∨ query.operator = disjunction)
      ∧ ∃ clause ∈ query.clauses, ∃ data, clause.data = some data ∧ ∃ entry ∈ data, ¬ entry.2.IsOneOf Variant.field := by
  by_cases hop : query.operator = conjunction ∨ query.operator = disjunction
  · rw [refusals, if_pos hop, and_iff_right hop, ne_eq, List.flatMap_eq_nil_iff]
    simp [Clause.refusals_eq_nil_iff, Clause.Searchable]
  · rw [refusals, if_neg hop]
    exact iff_of_false (fun hne => hne rfl) fun h => hop h.1

end Query

namespace Compiler

variable (compiler : Compiler) (catalog : Catalog)

theorem run_compile_of_unknown {query : Query} (hand : query.operator ≠ Query.conjunction)
    (hor : query.operator ≠ Query.disjunction) (memo : Memo) :
    (compiler.compile query catalog).run memo = ⟨.ok .none, memo, [.unknownOperator query.operator]⟩ := by
  rw [compile, if_neg hand, if_neg hor]
  rfl

/-- Compiling fails exactly if the operator is "and" or "or" and some declaration field is given something else than a criterion for those, and it fails with the first such entry. Under every other operator no clause is compiled, whatever it holds: nothing is looked up, and all that is logged is the operator. -/
theorem fails_with_first_refused (compiler : Compiler) (catalog : Catalog) (memo : Memo) :
    (∀ query : Query, query.RecordDeclared →
      ((∃ failure, ((compiler.compile query catalog).run memo).result = .error failure)
        ↔ (query.operator = "and" ∨ query.operator = "or") ∧ ∃ clause ∈ query.clauses, ∃ data,
          clause.data = some data ∧ ∃ entry ∈ data, ¬ entry.2.IsOneOf Variant.field)
      ∧ ∀ failure, ((compiler.compile query catalog).run memo).result = .error failure
        ↔ (query.operator = "and" ∨ query.operator = "or")
          ∧ ∃ entry, query.RefusedFirst entry ∧ failure = refusalOf entry)
    ∧ ∀ query : Query, query.operator ≠ "and" → query.operator ≠ "or" →
      (compiler.compile query catalog).run memo = ⟨.ok .none, memo, [.unknownOperator query.operator]⟩ := by
  constructor
  · intro query h
    have hends := (compiler.asks_compile catalog h).ends memo
    exact ⟨hends.exists_error_iff.trans Query.refusals_ne_nil_iff,
      fun failure => hends.eq_error_iff.trans Query.head?_refusals⟩
  · intro query hand hor
    exact compiler.run_compile_of_unknown catalog hand hor memo

end Compiler

/-- Alternatives that can be searched up to a value that was never read, though it looks like a criterion, before a criterion of another variant. -/
def unreadSearch : Query :=
  .anyOf [{ eventType := some "birth", data := some [("child.name", .fuzzy "Ana")] },
    { data := some [("child.dob", .range "2020-01-01" "2020-12-31"),
        ("mother.name", .raw (.obj [("type", .str "exact"), ("term", .str "Eve")])), ("child.place", .within "1,9")] }]

theorem Compiler.fails_with_first_refused_unreadSearch :
    unreadSearch.RecordDeclared
      ∧ ((Compiler.compile {} unreadSearch .redeclaring).run Memo.empty).result
        = .error (.unsupported ⟨"mother.name", .str "exact", none⟩)
      ∧ (Compiler.compile {} { unreadSearch with operator := "OR" } .redeclaring).run Memo.empty
        = ⟨.ok .none, Memo.empty, [.unknownOperator "OR"]⟩ := by
  have hdeclared : unreadSearch.RecordDeclared := by decide
  have hbefore : ∀ other ∈ unreadSearch.clauses.take 1, other.Searchable := by
    simp [unreadSearch, Query.anyOf, Clause.Searchable, Criterion.isOneOf_field]
  have hfirst : unreadSearch.RefusedFirst ("mother.name", .raw (.obj [("type", .str "exact"), ("term", .str "Eve")])) :=
    ⟨_, _, [], rfl, hbefore, [_], [_], rfl, by decide, by decide⟩
  obtain ⟨hfails, hunknown⟩ := Compiler.fails_with_first_refused {} .redeclaring Memo.empty
  refine ⟨hdeclared, ?_, hunknown _ (by decide) (by decide)⟩
  exact ((hfails unreadSearch hdeclared).2 _).2 ⟨.inr rfl, _, hfirst, by decide +kernel⟩

end RegistrySearch
