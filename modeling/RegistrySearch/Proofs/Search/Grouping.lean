import RegistrySearch.Proofs.Search.Direct

/-!
# Joined and grouped conditions

Under "and" the conditions of all clauses are put into one list while they are compiled, under "or" each clause keeps a list of its own. These are two ways through the compiler, and each of them passes the memo from one clause to the next. Both come to what compiling the clauses one by one without a memo comes to, so one fails exactly if the other one does, and otherwise the list of the first is the lists of the second after each other. It follows that a conjunction can be split anywhere.
-/

namespace RegistrySearch

namespace Compiler

variable (compiler : Compiler) (catalog : Catalog) (history : Query → List (List Event))

/-- The object that a query comes to. What the memo was asked before may be different for each query. -/
def documentAfter (query : Query) : Except CompileFailure Json :=
  Document.toJson <$> ((compiler.compile query catalog).run (Memo.asked compiler.lookup (history query))).result

theorem documentAfter_eq (query : Query) :
    compiler.documentAfter catalog history query
      = Document.toJson <$> compiler.direct (nameFieldIds compiler.lookup catalog.events) query := by
  have hfaithful := Memo.faithful_asked compiler.lookup (history query)
  rw [documentAfter, (compiler.yields_compile catalog query _ hfaithful).1]

/-- The conditions of each clause, as the objects that they are sent as. -/
def groupsOf (clauses : List Clause) : Except CompileFailure (List (List Json)) :=
  List.map (List.map Condition.toJson)
    <$> clauses.mapM (compiler.directClause (nameFieldIds compiler.lookup catalog.events))

theorem direct_allOf (names : List String) (clauses : List Clause) :
    compiler.direct names (.allOf clauses) = do
      let groups ← clauses.mapM (compiler.directClause names)
      return .all groups.flatten :=
  if_pos rfl

theorem direct_anyOf (names : List String) (clauses : List Clause) :
    compiler.direct names (.anyOf clauses) = do
      let groups ← clauses.mapM (compiler.directClause names)
      return .any groups := by
  have hne : Query.disjunction ≠ Query.conjunction := by decide
  exact (if_neg hne).trans (if_pos rfl)

theorem documentAfter_allOf (clauses : List Clause) :
    compiler.documentAfter catalog history (.allOf clauses)
      = (fun groups => EngineQuery.allOf groups.flatten) <$> compiler.groupsOf catalog clauses := by
  rw [documentAfter_eq, direct_allOf, groupsOf]
  cases clauses.mapM (compiler.directClause (nameFieldIds compiler.lookup catalog.events)) with
  | error failure => rfl
  | ok groups => exact congrArg (fun leaves => Except.ok (EngineQuery.allOf leaves)) List.map_flatten

theorem documentAfter_anyOf (clauses : List Clause) :
    compiler.documentAfter catalog history (.anyOf clauses)
      = (fun groups => EngineQuery.anyOf (groups.map EngineQuery.allOf)) <$> compiler.groupsOf catalog clauses := by
  rw [documentAfter_eq, direct_anyOf, groupsOf]
  cases clauses.mapM (compiler.directClause (nameFieldIds compiler.lookup catalog.events)) with
  | error failure => rfl
  | ok groups => exact congrArg (fun parts => Except.ok (EngineQuery.anyOf parts)) (List.map_map ..).symm

/-! ### One clause, and two parts of a list -/

theorem groupsOf_append (before after : List Clause) :
    compiler.groupsOf catalog (before ++ after) = do
      let first ← compiler.groupsOf catalog before
      let second ← compiler.groupsOf catalog after
      return first ++ second := by
  simp only [groupsOf, List.mapM_append, map_bind, bind_map_left, map_pure, List.map_append]

theorem groupsOf_singleton {clause : Clause} {group : List Json} :
    compiler.groupsOf catalog [clause] = .ok [group]
      ↔ List.map Condition.toJson <$> compiler.directClause (nameFieldIds compiler.lookup catalog.events) clause
        = .ok group := by
  simp only [groupsOf, List.mapM_cons, List.mapM_nil]
  cases compiler.directClause (nameFieldIds compiler.lookup catalog.events) clause with
  | error failure => simp [Functor.map, Except.map, bind, Except.bind]
  | ok conditions => simp [Functor.map, Except.map, bind, Except.bind, pure, Except.pure]

theorem groupsOf_eq_ok {clauses : List Clause} {groups : List (List Json)}
    (h : compiler.groupsOf catalog clauses = .ok groups) :
    List.Forall₂ (fun clause group => compiler.groupsOf catalog [clause] = .ok [group]) clauses groups := by
  obtain ⟨conditions, hconditions, rfl⟩ := map_eq_ok.1 h
  rw [List.forall₂_map_right_iff]
  refine (mapM_eq_ok.1 hconditions).imp fun clause group hgroup => ?_
  rw [groupsOf_singleton, hgroup]
  rfl

theorem documentAfter_allOf_eq_ok {clauses : List Clause} {leaves : List Json} :
    compiler.documentAfter catalog history (.allOf clauses) = .ok (EngineQuery.allOf leaves)
      ↔ ∃ groups, compiler.groupsOf catalog clauses = .ok groups ∧ groups.flatten = leaves := by
  rw [documentAfter_allOf, map_eq_ok]
  have hallOf : ∀ {first second : List Json}, EngineQuery.allOf first = EngineQuery.allOf second ↔ first = second := by
    simp [EngineQuery.allOf, EngineQuery.single]
  simp only [hallOf]

theorem groupsOf_isEmpty {clause : Clause} (h : clause.isEmpty = true) :
    compiler.groupsOf catalog [clause] = .ok [[]] := by
  rw [groupsOf_singleton, Clause.directClause_of_isEmpty compiler _ h]
  rfl

end Compiler

/-- Clauses under "and" and under "or" fail alike. If they do not, the alternative has one part for each clause, in their order, which is the conjunction of this clause alone; and the conjunction of all clauses holds the conditions of these parts after each other, wherever the clauses are split. -/
theorem Compiler.joined_agrees_with_grouped (compiler : Compiler) (catalog : Catalog)
    (history : Query → List (List Event)) (clauses : List Clause) :
    (∀ failure, compiler.documentAfter catalog history (.allOf clauses) = .error failure
        ↔ compiler.documentAfter catalog history (.anyOf clauses) = .error failure)
      ∧ (∀ document, compiler.documentAfter catalog history (.anyOf clauses) = .ok document →
        ∃ groups : List (List Json), document = EngineQuery.anyOf (groups.map EngineQuery.allOf)
          ∧ List.Forall₂ (fun clause group =>
              compiler.documentAfter catalog history (.allOf [clause]) = .ok (EngineQuery.allOf group)
                ∧ (clause.isEmpty = true → group = []))
            clauses groups
          ∧ compiler.documentAfter catalog history (.allOf clauses) = .ok (EngineQuery.allOf groups.flatten))
      ∧ ∀ before after, clauses = before ++ after → ∀ document,
        compiler.documentAfter catalog history (.allOf clauses) = .ok document
          ↔ ∃ first second, document = EngineQuery.allOf (first ++ second)
            ∧ compiler.documentAfter catalog history (.allOf before) = .ok (EngineQuery.allOf first)
            ∧ compiler.documentAfter catalog history (.allOf after) = .ok (EngineQuery.allOf second) := by
  refine ⟨fun failure => ?_, fun document hdocument => ?_, fun before after hclauses document => ?_⟩
  · rw [documentAfter_allOf, documentAfter_anyOf, map_eq_error, map_eq_error]
  · rw [documentAfter_anyOf] at hdocument
    obtain ⟨groups, hgroups, rfl⟩ := map_eq_ok.1 hdocument
    refine ⟨groups, rfl, ?_, (documentAfter_allOf_eq_ok ..).2 ⟨groups, hgroups, rfl⟩⟩
    refine (compiler.groupsOf_eq_ok catalog hgroups).imp fun clause group hgroup => ⟨?_, fun hempty => ?_⟩
    · exact (documentAfter_allOf_eq_ok ..).2 ⟨[group], hgroup, List.flatten_singleton⟩
    · rw [compiler.groupsOf_isEmpty catalog hempty] at hgroup
      cases hgroup
      rfl
  · simp only [documentAfter_allOf_eq_ok]
    rw [hclauses, documentAfter_allOf, map_eq_ok, groupsOf_append]
    constructor
    · rintro ⟨groups, hgroups, rfl⟩
      obtain ⟨first, hfirst, hrest⟩ := bind_eq_ok.1 hgroups
      obtain ⟨second, hsecond, hpure⟩ := bind_eq_ok.1 hrest
      cases hpure
      exact ⟨_, _, congrArg EngineQuery.allOf List.flatten_append, ⟨first, hfirst, rfl⟩, second, hsecond, rfl⟩
    · rintro ⟨_, _, rfl, ⟨first, hfirst, rfl⟩, second, hsecond, rfl⟩
      refine ⟨first ++ second, ?_, congrArg EngineQuery.allOf List.flatten_append⟩
      rw [hfirst, hsecond]
      rfl

end RegistrySearch
