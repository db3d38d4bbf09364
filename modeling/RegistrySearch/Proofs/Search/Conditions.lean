import RegistrySearch.Proofs.Query.Declared
import RegistrySearch.Proofs.Search.Direct

/-!
# The conditions of a clause

A criterion of a declared variant becomes one test of one path, with the values that it has (`Criterion.condition?`). What is left to say is which path that is, and that a registration location is passed over unless it is exact. With both, the conditions of a clause of declared variants have a closed form, without a memo, a log or a failure (`Clause.Declared.directClause_eq`).
-/

namespace RegistrySearch

/-- The test that a criterion is of the values at a path; a place is not tested at a path of its own. A value that has not been read is no test. -/
def Criterion.condition? (path fuzziness : String) : Criterion → Option Condition
  | exact term => some (.equals path term)
  | fuzzy term => some (.resembles path term fuzziness)
  | anyOf terms => some (.oneOf path terms)
  | range gte lte => some (.between path gte lte)
  | within location => some (.near location)
  | raw _ => none

/-- The test that a criterion of a declaration field is tests the path that it is made for. -/
theorem Criterion.path_of_condition? {criterion : Criterion} (h : criterion.IsOneOf Variant.field)
    {path fuzziness : String} {condition : Condition} (hc : criterion.condition? path fuzziness = some condition) :
    condition.path = path := by
  rw [isOneOf_field] at h
  rcases h with ⟨term, rfl⟩ | ⟨term, rfl⟩ | ⟨terms, rfl⟩ | ⟨gte, lte, rfl⟩
  · cases hc; rfl
  · cases hc; rfl
  · cases hc; rfl
  · cases hc; rfl

/-! ### Declaration fields -/

namespace Compiler

variable (compiler : Compiler) (names : List String)

/-- The path that a declaration field is searched at: that of the full name if the criterion is approximate and the field is one of a name. -/
def searchedPath (id : String) : Criterion → String
  | .fuzzy _ => if names.contains id then compiler.fullnamePath id else compiler.fieldPath id
  | _ => compiler.fieldPath id

theorem searchedPath_of_name {id : String} {criterion : Criterion}
    (h : (∃ term, criterion = .fuzzy term) ∧ id ∈ names) :
    compiler.searchedPath names id criterion = compiler.fullnamePath id := by
  obtain ⟨⟨term, rfl⟩, hid⟩ := h
  exact if_pos (List.contains_iff_mem.2 hid)

theorem searchedPath_of_not_name {id : String} {criterion : Criterion}
    (h : ¬ ((∃ term, criterion = .fuzzy term) ∧ id ∈ names)) :
    compiler.searchedPath names id criterion = compiler.fieldPath id := by
  cases criterion with
  | fuzzy term => exact if_neg fun hid => h ⟨⟨term, rfl⟩, List.contains_iff_mem.1 hid⟩
  | _ => rfl

/-- The condition on a declaration field. -/
def entryCondition? (entry : String × Criterion) : Option Condition :=
  entry.2.condition? (compiler.searchedPath names entry.1 entry.2) compiler.settings.fuzziness

theorem exists_entryCondition {entry : String × Criterion} (h : entry.2.IsOneOf Variant.field) :
    ∃ condition, compiler.directField names entry = .ok condition
      ∧ compiler.entryCondition? names entry = some condition := by
  obtain ⟨id, criterion⟩ := entry
  rw [Criterion.isOneOf_field] at h
  rcases h with ⟨term, rfl⟩ | ⟨term, rfl⟩ | ⟨terms, rfl⟩ | ⟨gte, lte, rfl⟩
  · exact ⟨_, rfl, rfl⟩
  · exact ⟨_, rfl, rfl⟩
  · exact ⟨_, rfl, rfl⟩
  · exact ⟨_, rfl, rfl⟩

theorem directData_eq {data : Option (List (String × Criterion))}
    (h : ∀ entries, data = some entries → ∀ entry ∈ entries, entry.2.IsOneOf Variant.field) :
    compiler.directData names data = .ok ((data.getD []).filterMap (compiler.entryCondition? names)) := by
  cases data with
  | none => rfl
  | some entries =>
      exact mapM_eq_filterMap fun entry hentry => compiler.exists_entryCondition names (h entries rfl entry hentry)

end Compiler

/-! ### Record fields -/

namespace Clause

variable (compiler : Compiler)

/-- The criterion of a record field as far as it is searched on. Of the registration location only an exact one is. -/
def honoured (clause : Clause) (field : RecordField) : Option Criterion :=
  match field.role with
  | .registrationPlace => (clause.criterion field).filter fun criterion => criterion.variant? = some .exact
  | _ => clause.criterion field

/-- The condition on a record field, if it is searched on. -/
def recordCondition? (clause : Clause) (field : RecordField) : Option Condition :=
  (clause.honoured field).bind (Criterion.condition? field.indexPath compiler.settings.fuzziness)

theorem recordConditions_eq {clause : Clause} {field : RecordField}
    (h : ∀ criterion, clause.criterion field = some criterion → criterion.IsOneOf field.role.variants) :
    clause.recordConditions field = .ok (clause.recordCondition? compiler field).toList := by
  unfold recordConditions recordCondition? honoured
  cases hc : clause.criterion field with
  | none => cases field.role <;> rfl
  | some criterion =>
      have hdeclared := h criterion hc
      unfold RecordField.conditions
      cases hrole : field.role with
      | status =>
          rw [hrole, Criterion.isOneOf_status] at hdeclared
          rcases hdeclared with ⟨term, rfl⟩ | ⟨terms, rfl⟩
          · rfl
          · rfl
      | identifier =>
          rw [hrole, Criterion.isOneOf_identifier] at hdeclared
          obtain ⟨term, rfl⟩ := hdeclared
          rfl
      | time =>
          rw [hrole, Criterion.isOneOf_time] at hdeclared
          rcases hdeclared with ⟨term, rfl⟩ | ⟨gte, lte, rfl⟩
          · rfl
          · rfl
      | registrationPlace =>
          rw [hrole, Criterion.isOneOf_registrationPlace] at hdeclared
          rcases hdeclared with ⟨term, rfl⟩ | ⟨location, rfl⟩ | ⟨gte, lte, rfl⟩
          · rfl
          · rfl
          · rfl
      | place =>
          rw [hrole, Criterion.isOneOf_place] at hdeclared
          rcases hdeclared with ⟨term, rfl⟩ | ⟨location, rfl⟩
          · rfl
          · rfl

/-! ### Clauses -/

/-- The conditions of a clause of declared variants, given the ids of the name fields. -/
def conditions (names : List String) (clause : Clause) : List Condition :=
  clause.eventConditions ++ RecordField.all.filterMap (clause.recordCondition? compiler)
    ++ (clause.data.getD []).filterMap (compiler.entryCondition? names)

theorem Declared.directClause_eq {clause : Clause} (h : clause.Declared) (names : List String) :
    compiler.directClause names clause = .ok (clause.conditions compiler names) := by
  have hrecord : RecordField.all.mapM clause.recordConditions
      = .ok (RecordField.all.map fun field => (clause.recordCondition? compiler field).toList) :=
    mapM_eq_map fun field _ => recordConditions_eq compiler (h.record field)
  have hflatten : (RecordField.all.map fun field => (clause.recordCondition? compiler field).toList).flatten
      = RecordField.all.filterMap (clause.recordCondition? compiler) :=
    (List.filterMap_eq_flatMap_toList ..).symm
  rw [Compiler.directClause, hrecord, compiler.directData_eq names h.data, conditions, ← hflatten]
  rfl

end Clause

end RegistrySearch
