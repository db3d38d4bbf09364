import RegistrySearch.Proofs.Catalog.NameFields
import RegistrySearch.Proofs.Document.Evaluation
import RegistrySearch.Proofs.Query.Declared
import RegistrySearch.Proofs.Search.Direct

/-!
# What a query means

`Query.Holds` says of a record directly, without a document, whether a query holds: member by member, from the table of index paths that the records are stored under. The main theorem compares it with what the search engine makes of the compiled document. The two agree for every query of declared variants but one (`Query.Declared.exists_direct`): the engine takes an alternative of no clauses to hold, while no clause of it does.
-/

namespace RegistrySearch

/-! ### The meaning of a query -/

/-- What a criterion asks of the values at a path. An approximate criterion is for declaration fields, whose `Compiler.Holds` says which path and tolerance it is tested with. -/
def Criterion.Holds (a : Assignment) (path : String) : Criterion → Prop
  | .exact term => a.equality path term
  | .anyOf terms => a.membership path terms
  | .range gte lte => a.range path gte lte
  | .within location => a.nearby location
  | .fuzzy _ | .raw _ => False

/-- Some event of the catalog declares the id with the type of names. -/
def Catalog.DeclaresName (lookup : FieldLookup) (catalog : Catalog) (id : String) : Prop :=
  ∃ event ∈ catalog.events, ∃ field ∈ lookup event, field.id = id ∧ field.kind.isName

/-- What a criterion asks of a declaration field. An approximate one is tested on the full name where the field is one of a name. -/
def Compiler.Holds (a : Assignment) (compiler : Compiler) (catalog : Catalog) (id : String) : Criterion → Prop
  | .fuzzy term =>
    let path := compiler.settings.declarationNamespace ++ "." ++ compiler.encodeId id
    (catalog.DeclaresName compiler.lookup id →
      a.fuzzy (path ++ "." ++ compiler.settings.fullnameSubfield) term compiler.settings.fuzziness)
    ∧ (¬ catalog.DeclaresName compiler.lookup id → a.fuzzy path term compiler.settings.fuzziness)
  | criterion => criterion.Holds a (compiler.settings.declarationNamespace ++ "." ++ compiler.encodeId id)

/-- Every member that the clause searches on holds. Of the registration location only an exact criterion counts. -/
structure Clause.Holds (a : Assignment) (compiler : Compiler) (catalog : Catalog) (clause : Clause) : Prop where
  eventType : ∀ type, clause.eventType = some type → a.equality "type" type
  status : ∀ c, clause.status = some c → c.Holds a "status"
  trackingId : ∀ c, clause.trackingId = some c → c.Holds a "trackingId"
  registeredAt : ∀ c, clause.registeredAt = some c → c.Holds a "legalStatuses.REGISTERED.createdAt"
  registeredAtLocation : ∀ term, clause.registeredAtLocation = some (.exact term) →
    a.equality "legalStatuses.REGISTERED.createdAtLocation" term
  registrationNumber : ∀ c, clause.registrationNumber = some c →
    c.Holds a "legalStatuses.REGISTERED.registrationNumber"
  createdAt : ∀ c, clause.createdAt = some c → c.Holds a "createdAt"
  updatedAt : ∀ c, clause.updatedAt = some c → c.Holds a "updatedAt"
  createdAtLocation : ∀ c, clause.createdAtLocation = some c → c.Holds a "createdAtLocation"
  updatedAtLocation : ∀ c, clause.updatedAtLocation = some c → c.Holds a "updatedAtLocation"
  data : ∀ data, clause.data = some data → ∀ entry ∈ data, compiler.Holds a catalog entry.1 entry.2

/-- Every clause holds under "and", one of them under "or". No other operator makes a query hold. -/
def Query.Holds (a : Assignment) (compiler : Compiler) (catalog : Catalog) (query : Query) : Prop :=
  if query.operator = "and" then ∀ clause ∈ query.clauses, clause.Holds a compiler catalog
  else if query.operator = "or" then ∃ clause ∈ query.clauses, clause.Holds a compiler catalog
  else False

/-! ### Record fields -/

/-- What a criterion asks of a record field, as in `Clause.Holds`. -/
def RecordField.Holds (a : Assignment) (field : RecordField) (criterion : Criterion) : Prop :=
  match field.role with
  | .registrationPlace => ∀ term, criterion = .exact term → a.equality field.indexPath term
  | _ => criterion.Holds a field.indexPath

theorem Clause.holds_iff {a : Assignment} {compiler : Compiler} {catalog : Catalog} {clause : Clause} :
    clause.Holds a compiler catalog
      ↔ (∀ type, clause.eventType = some type → a.equality eventTypePath type)
        ∧ (∀ field criterion, clause.criterion field = some criterion → field.Holds a criterion)
        ∧ ∀ data, clause.data = some data → ∀ entry ∈ data, compiler.Holds a catalog entry.1 entry.2 := by
  constructor
  · intro h
    refine ⟨h.eventType, fun field criterion hc => ?_, h.data⟩
    cases field with
    | status => exact h.status criterion hc
    | trackingId => exact h.trackingId criterion hc
    | registeredAt => exact h.registeredAt criterion hc
    | registeredAtLocation =>
        intro term hterm
        subst hterm
        exact h.registeredAtLocation term hc
    | registrationNumber => exact h.registrationNumber criterion hc
    | createdAt => exact h.createdAt criterion hc
    | updatedAt => exact h.updatedAt criterion hc
    | createdAtLocation => exact h.createdAtLocation criterion hc
    | updatedAtLocation => exact h.updatedAtLocation criterion hc
  · intro h
    obtain ⟨hevent, hrecord, hdata⟩ := h
    exact {
      eventType := hevent
      status := hrecord .status
      trackingId := hrecord .trackingId
      registeredAt := hrecord .registeredAt
      registeredAtLocation := fun term hterm => hrecord .registeredAtLocation _ hterm term rfl
      registrationNumber := hrecord .registrationNumber
      createdAt := hrecord .createdAt
      updatedAt := hrecord .updatedAt
      createdAtLocation := hrecord .createdAtLocation
      updatedAtLocation := hrecord .updatedAtLocation
      data := hdata }

/-- The conditions mean what is asked: all of them are met exactly if it holds. -/
def Expresses (conditions : List Condition) (asked : Assignment → Prop) : Prop :=
  ∀ a, (∀ condition ∈ conditions, condition.answer a = true) ↔ asked a

theorem expresses_nil {asked : Assignment → Prop} (h : ∀ a, asked a) : Expresses [] asked := by
  intro a
  exact iff_of_true (fun condition hcondition => absurd hcondition List.not_mem_nil) (h a)

theorem expresses_singleton {condition : Condition} {asked : Assignment → Prop}
    (h : ∀ a, condition.answer a = true ↔ asked a) : Expresses [condition] asked := by
  intro a
  rw [List.forall_mem_singleton]
  exact h a

theorem Expresses.append {first second : List Condition} {asked other : Assignment → Prop}
    (hfirst : Expresses first asked) (hsecond : Expresses second other) :
    Expresses (first ++ second) fun a => asked a ∧ other a := by
  intro a
  rw [List.forall_mem_append, hfirst a, hsecond a]

/-- Groups of conditions that stand beside what each of them means, put into one list. -/
theorem expresses_flatten {α : Type} {asked : Assignment → α → Prop} {xs : List α}
    {groups : List (List Condition)}
    (h : List.Forall₂ (fun x group => Expresses group fun a => asked a x) xs groups) :
    Expresses groups.flatten fun a => ∀ x ∈ xs, asked a x := by
  intro a
  rw [List.forall_mem_flatten]
  exact forall_mem_iff_of_forall₂ (h.imp fun x group hx => hx a)

namespace RecordField

theorem exists_conditions {field : RecordField} {criterion : Criterion}
    (h : criterion.IsOneOf field.role.variants) :
    ∃ conditions, field.conditions criterion = .ok conditions
      ∧ Expresses conditions fun a => field.Holds a criterion := by
  unfold conditions Holds
  cases hrole : field.role with
  | status =>
      rw [hrole, Criterion.isOneOf_status] at h
      rcases h with ⟨term, rfl⟩ | ⟨terms, rfl⟩
      · exact ⟨_, rfl, expresses_singleton fun a => Iff.rfl⟩
      · exact ⟨_, rfl, expresses_singleton fun a => Iff.rfl⟩
  | identifier =>
      rw [hrole, Criterion.isOneOf_identifier] at h
      obtain ⟨term, rfl⟩ := h
      exact ⟨_, rfl, expresses_singleton fun a => Iff.rfl⟩
  | time =>
      rw [hrole, Criterion.isOneOf_time] at h
      rcases h with ⟨term, rfl⟩ | ⟨gte, lte, rfl⟩
      · exact ⟨_, rfl, expresses_singleton fun a => Iff.rfl⟩
      · exact ⟨_, rfl, expresses_singleton fun a => Iff.rfl⟩
  | registrationPlace =>
      rw [hrole, Criterion.isOneOf_registrationPlace] at h
      rcases h with ⟨term, rfl⟩ | ⟨location, rfl⟩ | ⟨gte, lte, rfl⟩
      · refine ⟨_, rfl, expresses_singleton fun a => ⟨fun hterm other hother => ?_, fun hterm => hterm term rfl⟩⟩
        cases hother
        exact hterm
      · exact ⟨_, rfl, expresses_nil fun a term hterm => by cases hterm⟩
      · exact ⟨_, rfl, expresses_nil fun a term hterm => by cases hterm⟩
  | place =>
      rw [hrole, Criterion.isOneOf_place] at h
      rcases h with ⟨term, rfl⟩ | ⟨location, rfl⟩
      · exact ⟨_, rfl, expresses_singleton fun a => Iff.rfl⟩
      · exact ⟨_, rfl, expresses_singleton fun a => Iff.rfl⟩

end RecordField

/-! ### Declaration fields -/

namespace Compiler

variable (compiler : Compiler) (catalog : Catalog)

theorem exists_directField {entry : String × Criterion} (h : entry.2.IsOneOf Variant.field) :
    ∃ condition, compiler.directField (nameFieldIds compiler.lookup catalog.events) entry = .ok condition
      ∧ ∀ a, condition.answer a = true ↔ compiler.Holds a catalog entry.1 entry.2 := by
  obtain ⟨id, criterion⟩ := entry
  rw [Criterion.isOneOf_field] at h
  rcases h with ⟨term, rfl⟩ | ⟨term, rfl⟩ | ⟨terms, rfl⟩ | ⟨gte, lte, rfl⟩
  · exact ⟨_, rfl, fun a => Iff.rfl⟩
  · refine ⟨_, rfl, fun a => ?_⟩
    have hname : (nameFieldIds compiler.lookup catalog.events).contains id = true
        ↔ catalog.DeclaresName compiler.lookup id := by
      rw [List.contains_iff_mem, mem_nameFieldIds]
      rfl
    by_cases hdeclared : catalog.DeclaresName compiler.lookup id
    · rw [if_pos (hname.2 hdeclared)]
      exact ⟨fun h => ⟨fun _ => h, fun hnot => absurd hdeclared hnot⟩, fun h => h.1 hdeclared⟩
    · rw [if_neg fun hcontains => hdeclared (hname.1 hcontains)]
      exact ⟨fun h => ⟨fun hname => absurd hname hdeclared, fun _ => h⟩, fun h => h.2 hdeclared⟩
  · exact ⟨_, rfl, fun a => Iff.rfl⟩
  · exact ⟨_, rfl, fun a => Iff.rfl⟩

theorem exists_directData {data : Option (List (String × Criterion))}
    (h : ∀ entries, data = some entries → ∀ entry ∈ entries, entry.2.IsOneOf Variant.field) :
    ∃ conditions, compiler.directData (nameFieldIds compiler.lookup catalog.events) data = .ok conditions
      ∧ Expresses conditions fun a =>
        ∀ entries, data = some entries → ∀ entry ∈ entries, compiler.Holds a catalog entry.1 entry.2 := by
  cases data with
  | none => exact ⟨[], rfl, expresses_nil fun a entries hentries => by cases hentries⟩
  | some data =>
      obtain ⟨conditions, hok, hholds⟩ := exists_mapM fun entry hentry =>
        compiler.exists_directField catalog (h data rfl entry hentry)
      refine ⟨conditions, hok, fun a => ?_⟩
      rw [forall_mem_iff_of_forall₂ (hholds.imp fun entry condition hcondition => hcondition a)]
      exact ⟨fun hall entries hentries => Option.some.inj hentries ▸ hall, fun hall => hall data rfl⟩

end Compiler

/-! ### Clauses -/

namespace Clause

theorem expresses_eventConditions (clause : Clause) :
    Expresses clause.eventConditions fun a =>
      ∀ type, clause.eventType = some type → a.equality eventTypePath type := by
  unfold eventConditions
  cases clause.eventType with
  | none => exact expresses_nil fun a type htype => by cases htype
  | some type =>
      refine expresses_singleton fun a => ⟨fun h other hother => ?_, fun h => h type rfl⟩
      cases hother
      exact h

theorem Declared.exists_recordConditions {clause : Clause} (h : clause.Declared) (field : RecordField) :
    ∃ conditions, clause.recordConditions field = .ok conditions
      ∧ Expresses conditions fun a => ∀ c, clause.criterion field = some c → field.Holds a c := by
  unfold recordConditions
  cases hc : clause.criterion field with
  | none => exact ⟨[], rfl, expresses_nil fun a c hnone => by cases hnone⟩
  | some criterion =>
      obtain ⟨conditions, hok, hholds⟩ := field.exists_conditions (h.record field criterion hc)
      refine ⟨conditions, hok, fun a => (hholds a).trans ⟨fun h c hsome => ?_, fun h => h criterion rfl⟩⟩
      cases hsome
      exact h

theorem Declared.exists_directClause {clause : Clause} (h : clause.Declared) (compiler : Compiler)
    (catalog : Catalog) :
    ∃ conditions, compiler.directClause (nameFieldIds compiler.lookup catalog.events) clause = .ok conditions
      ∧ Expresses conditions fun a => clause.Holds a compiler catalog := by
  obtain ⟨groups, hgroups, hrecord⟩ := exists_mapM fun field (_ : field ∈ RecordField.all) =>
    h.exists_recordConditions field
  obtain ⟨data, hok, hdata⟩ := compiler.exists_directData catalog h.data
  refine ⟨clause.eventConditions ++ groups.flatten ++ data, ?_, fun a => ?_⟩
  · rw [Compiler.directClause, hgroups, hok]
    rfl
  · have hexpress := (clause.expresses_eventConditions.append (expresses_flatten hrecord)).append hdata a
    simp only [RecordField.mem_all, true_implies, and_assoc] at hexpress
    exact hexpress.trans holds_iff.symm

end Clause

/-! ### Queries -/

namespace Query

variable {query : Query}

theorem Declared.exists_directClauses (h : query.Declared) (compiler : Compiler) (catalog : Catalog) :
    ∃ groups, query.clauses.mapM (compiler.directClause (nameFieldIds compiler.lookup catalog.events)) = .ok groups
      ∧ List.Forall₂ (fun clause group => Expresses group fun a => clause.Holds a compiler catalog)
        query.clauses groups :=
  exists_mapM fun clause hclause => (h clause hclause).exists_directClause compiler catalog

/-- The document of a query of declared variants, and when the engine takes it to hold: when the query does, and for an alternative of no clauses always. -/
theorem Declared.exists_direct (h : query.Declared) (compiler : Compiler) (catalog : Catalog) :
    ∃ document, compiler.direct (nameFieldIds compiler.lookup catalog.events) query = .ok document
      ∧ ∀ a, document.answer a = true
        ↔ query.Holds a compiler catalog ∨ (query.operator = "or" ∧ query.clauses = []) := by
  obtain ⟨groups, hgroups, hexpress⟩ := h.exists_directClauses compiler catalog
  unfold Compiler.direct Holds
  change ∃ document, (if query.operator = "and" then _ else if query.operator = "or" then _ else _) = _ ∧ _
  by_cases hand : query.operator = "and"
  · refine ⟨.all groups.flatten, ?_, fun a => ?_⟩
    · rw [if_pos hand, hgroups]
      rfl
    · rw [if_pos hand, Document.answer, List.all_eq_true, expresses_flatten hexpress a]
      simp [hand]
  · by_cases hor : query.operator = "or"
    · refine ⟨.any groups, ?_, fun a => ?_⟩
      · rw [if_neg hand, if_pos hor, hgroups]
        rfl
      · have hsome : (∃ group ∈ groups, ∀ condition ∈ group, condition.answer a = true)
            ↔ ∃ clause ∈ query.clauses, clause.Holds a compiler catalog :=
          exists_mem_iff_of_forall₂ (hexpress.imp fun clause group hgroup => hgroup a)
        have hempty : groups = [] ↔ query.clauses = [] := by
          rw [← List.length_eq_zero_iff, ← hexpress.length_eq, List.length_eq_zero_iff]
        rw [if_neg hand, if_pos hor, ← hsome, ← hempty]
        simp [Document.answer, hor, or_comm]
    · refine ⟨.none, ?_, fun a => ?_⟩
      · rw [if_neg hand, if_neg hor]
      · rw [if_neg hand, if_neg hor]
        simp [Document.answer, hor]

end Query

/-- The engine's answer to the compiled document is whether the query holds, for every assignment, exactly if the query is not an alternative of no clauses. -/
theorem Search.compiled_agrees_iff (search : Search) (earlier : List Search) (h : search.query.Declared) :
    ∃ document, (search.compiled.run (sharedAfter earlier)).result = .ok document
      ∧ ((∀ a, ∃ answer, EngineQuery.answer? a document.toJson = some answer
          ∧ (answer = true ↔ search.query.Holds a search.compiler search.catalog))
        ↔ ¬ (search.query.operator = "or" ∧ search.query.clauses = [])) := by
  obtain ⟨document, hok, hanswer⟩ := h.exists_direct search.compiler search.catalog
  refine ⟨document, (search.compiled_result earlier).trans hok, ?_, fun hnot a => ?_⟩
  · intro hagree hempty
    obtain ⟨hor, hnil⟩ := hempty
    -- Any assignment tells the two apart: the engine answers yes, and there is no clause to hold.
    let a : Assignment := ⟨fun _ _ => true, fun _ _ => true, fun _ _ _ => true, fun _ _ _ => true, fun _ => true⟩
    obtain ⟨answer, hsome, hiff⟩ := hagree a
    rw [Document.answer?_toJson, (hanswer a).2 (.inr ⟨hor, hnil⟩)] at hsome
    have hholds := hiff.1 (Option.some.inj hsome).symm
    rw [Query.Holds, if_neg (by rw [hor]; decide), if_pos hor, hnil] at hholds
    obtain ⟨clause, hclause, -⟩ := hholds
    exact absurd hclause List.not_mem_nil
  · refine ⟨document.answer a, Document.answer?_toJson a document, (hanswer a).trans ?_⟩
    rw [or_iff_left hnot]

/-- A search with an approximate name, a place that is passed over, an empty list of terms and a clause that searches on nothing. -/
def Search.birthOrUpdate : Search where
  query := .anyOf [
    { eventType := some "birth"
      status := some (.anyOf ["REGISTERED", "CERTIFIED"])
      registeredAtLocation := some (.within "12.5,90.1")
      data := some [("child.name", .fuzzy "Ana"), ("child.dob", .range "2020-01-01" "2020-12-31")] },
    { updatedAt := some (.exact "2024-05-01"), data := some [("mother.name", .anyOf [])] },
    {}]
  catalog := {
    events := [{ id := "birth", pages := [{ id := "child", fields := [⟨"child.name", .known .name, none, true⟩] }] }] }

theorem Search.compiled_agrees_birthOrUpdate :
    birthOrUpdate.query.Declared
      ∧ ∃ document, (birthOrUpdate.compiled.run (sharedAfter [birthOrUpdate])).result = .ok document
        ∧ ∀ a, ∃ answer, EngineQuery.answer? a document.toJson = some answer
          ∧ (answer = true ↔ birthOrUpdate.query.Holds a birthOrUpdate.compiler birthOrUpdate.catalog) := by
  have hdeclared : birthOrUpdate.query.Declared := by decide
  obtain ⟨document, hok, hagree⟩ := compiled_agrees_iff birthOrUpdate [birthOrUpdate] hdeclared
  exact ⟨hdeclared, document, hok, hagree.2 (by decide)⟩

end RegistrySearch
