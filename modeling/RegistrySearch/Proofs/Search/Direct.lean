import RegistrySearch.Proofs.Catalog.Memo
import RegistrySearch.Proofs.Except
import RegistrySearch.Search.Session

/-!
# Compiling without a memo

The result of a compilation does not depend on what was remembered before it. `Compiler.direct` compiles a query with the ids of the name fields given, without a memo and without a log. From a faithful memo, compiling ends with the same result as `direct` with the ids that classifying the catalog anew gives, and with a faithful memo (`Compiler.yields_compile`). Since the shared memo is faithful after any searches, this holds of every search in a row (`Search.compiled_result`).

Each part of the compiler has its lemma of the form `Compilation.Yields`, and the lemma of a sequence of two steps puts them together.
-/

namespace RegistrySearch

variable {α β : Type} {lookup : FieldLookup}

/-! ### The direct compilation -/

/-- The conditions on a record field of a clause, none if the clause does not search on it. -/
def Clause.recordConditions (clause : Clause) (field : RecordField) : Except CompileFailure (List Condition) :=
  match clause.criterion field with
  | none => .ok []
  | some criterion => field.conditions criterion

namespace Compiler

variable (compiler : Compiler) (names : List String)

/-- The condition on a declaration field. -/
def directField (entry : String × Criterion) : Except CompileFailure Condition :=
  (compiler.fieldCondition entry.1 entry.2 (names.contains entry.1)).mapError .unsupported

/-- The conditions on the declaration fields of a clause. -/
def directData : Option (List (String × Criterion)) → Except CompileFailure (List Condition)
  | none => .ok []
  | some data => data.mapM (compiler.directField names)

/-- The conditions of a clause. -/
def directClause (clause : Clause) : Except CompileFailure (List Condition) := do
  let record ← List.flatten <$> RecordField.all.mapM clause.recordConditions
  let data ← compiler.directData names clause.data
  return clause.eventConditions ++ record ++ data

/-- The document of a query. -/
def direct (query : Query) : Except CompileFailure Document :=
  if query.operator = Query.conjunction then do
    let groups ← query.clauses.mapM (compiler.directClause names)
    return .all groups.flatten
  else if query.operator = Query.disjunction then do
    let groups ← query.clauses.mapM (compiler.directClause names)
    return .any groups
  else .ok .none

end Compiler

/-! ### What a compilation yields -/

/-- What comes of an outcome when the compilation goes on. -/
def Outcome.andThen (first : Outcome α) (next : α → Compilation β) : Outcome β :=
  match first.result with
  | .error failure => ⟨.error failure, first.memo, first.log⟩
  | .ok value =>
    let second := (next value).run first.memo
    ⟨second.result, second.memo, first.log ++ second.log⟩

namespace Compilation

theorem run_bind (c : Compilation α) (next : α → Compilation β) (memo : Memo) :
    (c >>= next).run memo = (c.run memo).andThen next := rfl

/-- From every faithful memo the compilation ends with the result, and the memo is faithful then. -/
def Yields (lookup : FieldLookup) (c : Compilation α) (result : Except CompileFailure α) : Prop :=
  ∀ memo, memo.Faithful lookup → (c.run memo).result = result ∧ (c.run memo).memo.Faithful lookup

theorem yields_pure (value : α) : Yields lookup (pure value) (.ok value) := by
  intro memo h
  exact ⟨rfl, h⟩

theorem yields_log (entry : LogEntry) : Yields lookup (log entry) (.ok ()) := by
  intro memo h
  exact ⟨rfl, h⟩

theorem yields_ofExcept (result : Except CompileFailure α) : Yields lookup (ofExcept result) result := by
  intro memo h
  exact ⟨rfl, h⟩

theorem yields_ask (events : List Event) (onMiss : List String → LogEntry) :
    Yields lookup (ask (nameFieldIds lookup) events onMiss) (.ok (nameFieldIds lookup events)) := by
  intro memo h
  exact ⟨congrArg Except.ok (h.ask_fst events), h.ask_snd events⟩

theorem Yields.bind {c : Compilation α} {next : α → Compilation β} {result : Except CompileFailure α}
    {rest : α → Except CompileFailure β} (hc : c.Yields lookup result)
    (hnext : ∀ value, (next value).Yields lookup (rest value)) :
    (c >>= next).Yields lookup (result >>= rest) := by
  intro memo h
  obtain ⟨hresult, hmemo⟩ := hc memo h
  rw [run_bind, Outcome.andThen, hresult]
  cases result with
  | error failure => exact ⟨rfl, hmemo⟩
  | ok value => exact hnext value _ hmemo

/-- A step that yields a value leaves the result of the rest as it is. -/
theorem Yields.then {c : Compilation α} {next : α → Compilation β} {value : α}
    {result : Except CompileFailure β} (hc : c.Yields lookup (.ok value))
    (hnext : (next value).Yields lookup result) : (c >>= next).Yields lookup result := by
  intro memo h
  obtain ⟨hresult, hmemo⟩ := hc memo h
  rw [run_bind, Outcome.andThen, hresult]
  exact hnext _ hmemo

theorem yields_forM_log (entries : List LogEntry) : Yields lookup (entries.forM log) (.ok ()) := by
  induction entries with
  | nil => exact yields_pure ()
  | cons entry entries ih => exact (yields_log entry).then ih

end Compilation

/-! ### The parts of the compiler -/

open Compilation

namespace Clause

theorem yields_compileMember (clause : Clause) (field : RecordField) :
    (clause.compileMember field).Yields lookup (clause.recordConditions field) := by
  unfold compileMember recordConditions
  cases clause.criterion field with
  | none => exact yields_pure []
  | some criterion => exact (yields_forM_log _).then (yields_ofExcept _)

theorem flatten_mapM_cons {f : α → Except CompileFailure (List β)} (x : α) (xs : List α) :
    List.flatten <$> (x :: xs).mapM f
      = f x >>= fun first => (List.flatten <$> xs.mapM f) >>= fun others => .ok (first ++ others) := by
  rw [List.mapM_cons]
  cases f x with
  | error failure => rfl
  | ok first => cases xs.mapM f <;> rfl

theorem yields_compileRecord (clause : Clause) (fields : List RecordField) :
    (clause.compileRecord fields).Yields lookup (List.flatten <$> fields.mapM clause.recordConditions) := by
  induction fields with
  | nil => exact yields_pure []
  | cons field fields ih =>
      rw [flatten_mapM_cons]
      exact (clause.yields_compileMember field).bind fun first =>
        ih.bind fun others => yields_pure (first ++ others)

theorem isEmpty_iff {clause : Clause} :
    clause.isEmpty = true
      ↔ clause.eventType = none ∧ (∀ field, clause.criterion field = none) ∧ clause.data = none := by
  simp [isEmpty, and_assoc]

/-- A clause that searches on nothing has no conditions, so passing over it changes nothing. -/
theorem directClause_of_isEmpty (compiler : Compiler) (names : List String) {clause : Clause}
    (h : clause.isEmpty = true) : compiler.directClause names clause = .ok [] := by
  obtain ⟨hevent, hrecord, hdata⟩ := isEmpty_iff.1 h
  have hnone : clause.recordConditions = fun _ => .ok [] := by
    funext field
    rw [recordConditions, hrecord field]
  rw [Compiler.directClause, hnone, hdata, eventConditions, hevent]
  rfl

end Clause

namespace Compiler

theorem yields_compileField (compiler : Compiler) (names : List String) (entry : String × Criterion) :
    (compiler.compileField entry.1 entry.2 (names.contains entry.1)).Yields lookup
      (compiler.directField names entry) := by
  unfold compileField directField
  cases compiler.fieldCondition entry.1 entry.2 (names.contains entry.1) with
  | ok condition => exact yields_pure condition
  | error unsupported => exact (yields_log _).then (yields_ofExcept _)

theorem yields_compileFields (compiler : Compiler) (names : List String) (data : List (String × Criterion)) :
    (compiler.compileFields names data).Yields lookup (data.mapM (compiler.directField names)) := by
  induction data with
  | nil => exact yields_pure []
  | cons entry data ih =>
      rw [List.mapM_cons]
      exact (compiler.yields_compileField names entry).bind fun first =>
        ih.bind fun others => yields_pure (first :: others)

variable (compiler : Compiler) (catalog : Catalog)

theorem yields_nameFields :
    (compiler.nameFields catalog).Yields compiler.lookup (.ok (nameFieldIds compiler.lookup catalog.events)) := by
  unfold nameFields
  split
  · exact yields_ask _ _
  · split
    · exact (yields_log _).then ((yields_log _).then (yields_pure _))
    · exact (yields_log _).then (yields_pure _)

theorem yields_compileDataMember (data : Option (List (String × Criterion))) :
    (compiler.compileDataMember catalog data).Yields compiler.lookup
      (compiler.directData (nameFieldIds compiler.lookup catalog.events) data) := by
  cases data with
  | none => exact yields_pure []
  | some data => exact (compiler.yields_nameFields catalog).then (compiler.yields_compileFields _ data)

theorem yields_compileClause (clause : Clause) :
    (compiler.compileClause catalog clause).Yields compiler.lookup
      (compiler.directClause (nameFieldIds compiler.lookup catalog.events) clause) := by
  unfold compileClause
  split
  · rename_i hempty
    rw [Clause.directClause_of_isEmpty compiler _ hempty]
    exact (yields_log _).then (yields_pure [])
  · exact (clause.yields_compileRecord RecordField.all).bind fun record =>
      (compiler.yields_compileDataMember catalog clause.data).bind fun data => yields_pure _

theorem yields_compileJoined (clauses : List Clause) :
    (compiler.compileJoined catalog clauses).Yields compiler.lookup
      (List.flatten <$> clauses.mapM (compiler.directClause (nameFieldIds compiler.lookup catalog.events))) := by
  induction clauses with
  | nil => exact yields_pure []
  | cons clause clauses ih =>
      rw [Clause.flatten_mapM_cons]
      exact (compiler.yields_compileClause catalog clause).bind fun first =>
        ih.bind fun others => yields_pure (first ++ others)

theorem yields_compileClauses (clauses : List Clause) :
    (compiler.compileClauses catalog clauses).Yields compiler.lookup
      (clauses.mapM (compiler.directClause (nameFieldIds compiler.lookup catalog.events))) := by
  induction clauses with
  | nil => exact yields_pure []
  | cons clause clauses ih =>
      rw [List.mapM_cons]
      exact (compiler.yields_compileClause catalog clause).bind fun first =>
        ih.bind fun others => yields_pure (first :: others)

theorem yields_compile (query : Query) :
    (compiler.compile query catalog).Yields compiler.lookup
      (compiler.direct (nameFieldIds compiler.lookup catalog.events) query) := by
  unfold compile direct
  split
  · let all (conditions : List Condition) : Except CompileFailure Document := .ok (.all conditions)
    change Yields _ _ (query.clauses.mapM (compiler.directClause _) >>= fun groups => all groups.flatten)
    rw [← bind_map_left List.flatten _ all]
    exact (compiler.yields_compileJoined catalog query.clauses).bind fun conditions =>
      (yields_log _).then (yields_pure _)
  · split
    · exact (compiler.yields_compileClauses catalog query.clauses).bind fun groups =>
        (yields_log _).then (yields_pure _)
    · exact (yields_log _).then (yields_pure _)

end Compiler

/-! ### Searches in a row -/

namespace Search

theorem yields_compiled (search : Search) :
    search.compiled.Yields Event.uniqueFields
      (search.compiler.direct (nameFieldIds Event.uniqueFields search.catalog.events) search.query) := by
  intro shared h
  change (compiled search shared).result = _ ∧ (compiled search shared).memo.Faithful _
  unfold compiled
  split
  · exact search.compiler.yields_compile search.catalog search.query shared h
  · exact ⟨(search.compiler.yields_compile search.catalog search.query _ Memo.faithful_empty).1, h⟩

theorem faithful_sharedAfter (earlier : List Search) : (sharedAfter earlier).Faithful Event.uniqueFields := by
  suffices h : ∀ memo : Memo, memo.Faithful Event.uniqueFields →
      (earlier.foldl (fun shared search => (search.compiled shared).memo) memo).Faithful Event.uniqueFields from
    h _ Memo.faithful_empty
  induction earlier with
  | nil => exact fun memo h => h
  | cons search earlier ih => exact fun memo h => ih _ (search.yields_compiled memo h).2

/-- What a search comes to depends on nothing that was searched for earlier. -/
theorem compiled_result (search : Search) (earlier : List Search) :
    (search.compiled.run (sharedAfter earlier)).result
      = search.compiler.direct (nameFieldIds Event.uniqueFields search.catalog.events) search.query :=
  (search.yields_compiled _ (faithful_sharedAfter earlier)).1

end Search

end RegistrySearch
