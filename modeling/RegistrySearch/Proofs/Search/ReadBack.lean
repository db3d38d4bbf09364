import RegistrySearch.Proofs.Search.RecordConditions

/-!
# Reading a clause back from its conditions

Nothing in the conditions of a clause marks which member they come from, but their paths do. Only nearness has no path of its own. Of two places the first is that of the creation, but a single one can be that of the creation or of the update, and the two are not told apart. Besides, a registration location that is not exact and an empty list of declaration fields leave no condition. `Clause.normal` does to a clause what these three do to its conditions, and `Clause.ofConditions` reads the conditions of a clause as its normal form (`Clause.ofConditions_conditions`). So the conditions of two clauses are the same exactly if their normal forms are.
-/

namespace RegistrySearch

/-! ### The normal form -/

namespace Clause

/-- The criteria of the record fields as far as the conditions show them. A registration location counts if it is exact, and a single nearby place is taken for that of the creation. -/
def normalCriterion (clause : Clause) : RecordField → Option Criterion
  | .registeredAtLocation => clause.registeredAtLocation.filter fun criterion => criterion.variant? = some .exact
  | .createdAtLocation =>
    match clause.createdAtLocation, clause.updatedAtLocation with
    | none, some (.within location) => some (.within location)
    | created, _ => created
  | .updatedAtLocation =>
    match clause.createdAtLocation, clause.updatedAtLocation with
    | none, some (.within _) => none
    | _, updated => updated
  | field => clause.criterion field

/-- The clause as far as its conditions show it. -/
def normal (clause : Clause) : Clause :=
  ofCriteria clause.eventType clause.normalCriterion (clause.data.filter fun entries => !entries.isEmpty)

theorem normalCriterion_of_ne {field : RecordField} (h : field.role ≠ .place) (clause : Clause) :
    clause.normalCriterion field = clause.honoured field := by
  cases field with
  | createdAtLocation => exact absurd rfl h
  | updatedAtLocation => exact absurd rfl h
  | _ => rfl

end Clause

/-! ### Reading conditions -/

namespace Condition

/-- The criterion that a condition tests the values of its path for. -/
def criterion : Condition → Criterion
  | equals _ value => .exact value
  | oneOf _ values => .anyOf values
  | resembles _ value _ => .fuzzy value
  | between _ gte lte => .range gte lte
  | near location => .within location

/-- The id of the declaration field that a condition tests, from the segment of the path after the namespace. -/
def fieldId (settings : Settings) (condition : Condition) : String :=
  let inNamespace := condition.path.toList.drop (settings.declarationNamespace.toList.length + 1)
  FieldId.decode (String.ofList (inNamespace.takeWhile fun c => c ≠ '.'))

end Condition

namespace Clause

/-- The criterion for a path among conditions on the record. -/
def criterionAt (record : List Condition) (path : String) : Option Criterion :=
  (record.filter fun condition => condition.path = path).head?.map Condition.criterion

/-- The criterion of a record field among conditions on the record. A place is near the first location, but if the place of the creation is near that already, or has none to be near to, the place of the update is near the next. -/
def readCriterion (record : List Condition) (field : RecordField) : Option Criterion :=
  let locations := record.filterMap Condition.location?
  let created := criterionAt record RecordField.createdAtLocation.indexPath
  match field with
  | .createdAtLocation => created <|> locations[0]?.map .within
  | .updatedAtLocation =>
    criterionAt record RecordField.updatedAtLocation.indexPath
      <|> locations[if created.isSome then 0 else 1]?.map .within
  | field => criterionAt record field.indexPath

/-- The event type among conditions on the record. -/
def readEventType (record : List Condition) : Option String :=
  match criterionAt record eventTypePath with
  | some (.exact type) => some type
  | _ => none

/-- The clause that conditions are read as. -/
def ofConditions (settings : Settings) (conditions : List Condition) : Clause :=
  let record := conditions.filter Condition.isOnRecord
  let declared := conditions.filter fun condition => !condition.isOnRecord
  let data := declared.map fun condition => (condition.fieldId settings, condition.criterion)
  ofCriteria (readEventType record) (readCriterion record) (if data.isEmpty then none else some data)

end Clause

theorem Criterion.criterion_of_condition? {criterion : Criterion} {path fuzziness : String} {condition : Condition}
    (h : criterion.condition? path fuzziness = some condition) : condition.criterion = criterion := by
  cases criterion with
  | raw value => cases h
  | _ => cases h; rfl

/-- A list in two parts is taken apart by a test that holds of the first part only. -/
theorem filter_append_parts {α : Type} {p : α → Bool} {xs ys : List α} (hxs : ∀ x ∈ xs, p x = true)
    (hys : ∀ y ∈ ys, p y = false) :
    (xs ++ ys).filter p = xs ∧ (xs ++ ys).filter (fun x => !p x) = ys := by
  have hxs' : ∀ x ∈ xs, ¬ (!p x) = true := fun x hx => by simp [hxs x hx]
  have hys' : ∀ y ∈ ys, ¬ p y = true := fun y hy => by simp [hys y hy]
  constructor
  · rw [List.filter_append, List.filter_eq_self.2 hxs, List.filter_eq_nil_iff.2 hys', List.append_nil]
  · rw [List.filter_append, List.filter_eq_nil_iff.2 hxs', List.nil_append]
    exact List.filter_eq_self.2 fun y hy => by simp [hys y hy]

/-! ### The record -/

namespace Clause

variable {compiler : Compiler} {clause : Clause} {field : RecordField}

theorem Declared.criterionAt_indexPath (h : clause.Declared) :
    criterionAt (clause.onRecord compiler) field.indexPath
      = (clause.honoured field).filter fun criterion => criterion.variant? ≠ some .within := by
  have hevent : clause.eventConditions.filter (fun condition => condition.path = field.indexPath) = [] := by
    rw [List.filter_eq_nil_iff]
    intro condition hcondition hpath
    rw [decide_eq_true_eq, (path_of_mem_eventConditions hcondition).1] at hpath
    exact field.indexPath_ne_eventTypePath hpath.symm
  have hrecord : (fun other => (clause.recordCondition? compiler other).filter
        fun condition => condition.path = field.indexPath)
      = fun other => if other = field then
          (clause.recordCondition? compiler field).filter fun condition => condition.path = field.indexPath
        else none :=
    funext h.filter_path_recordCondition
  rw [criterionAt, onRecord, List.filter_append, hevent, List.nil_append, List.filter_filterMap, hrecord,
    RecordField.filterMap_all_of_eq]
  unfold recordCondition?
  cases hhonoured : clause.honoured field with
  | none => rfl
  | some criterion =>
      rcases h.honoured_cases hhonoured with hdeclared | ⟨-, location, rfl⟩
      · simp only [Criterion.isOneOf_cons, Criterion.isOneOf_nil, or_false, Criterion.variant?_eq_exact,
          Criterion.variant?_eq_anyOf, Criterion.variant?_eq_range] at hdeclared
        rcases hdeclared with ⟨term, rfl⟩ | ⟨terms, rfl⟩ | ⟨gte, lte, rfl⟩
        · simp [Criterion.condition?, Condition.path, Condition.criterion, Criterion.variant?, Option.filter]
        · simp [Criterion.condition?, Condition.path, Condition.criterion, Criterion.variant?, Option.filter]
        · simp [Criterion.condition?, Condition.path, Condition.criterion, Criterion.variant?, Option.filter]
      · have hne := field.indexPath_ne_locationPath.symm
        simp [Criterion.condition?, Condition.path, Criterion.variant?, Option.filter, hne]

theorem Declared.readEventType_onRecord (h : clause.Declared) :
    readEventType (clause.onRecord compiler) = clause.eventType := by
  have hrecord : (RecordField.all.filterMap (clause.recordCondition? compiler)).filter
      (fun condition => condition.path = eventTypePath) = [] := by
    rw [List.filter_eq_nil_iff]
    intro condition hcondition hpath
    rw [decide_eq_true_eq] at hpath
    obtain ⟨field, -, hfield⟩ := List.mem_filterMap.1 hcondition
    rcases (h.recordCondition_cases hfield).2 with ⟨hother, -⟩ | ⟨-, location, rfl⟩
    · exact field.indexPath_ne_eventTypePath (hother.symm.trans hpath)
    · have hne : EngineQuery.locationPath ≠ eventTypePath := by decide
      exact hne hpath
  rw [readEventType, criterionAt, onRecord, List.filter_append, hrecord, List.append_nil, eventConditions]
  cases clause.eventType with
  | none => rfl
  | some type => rfl

theorem readCriterion_of_ne (hrole : field.role ≠ .place) (record : List Condition) :
    readCriterion record field = criterionAt record field.indexPath := by
  cases field with
  | createdAtLocation => exact absurd rfl hrole
  | updatedAtLocation => exact absurd rfl hrole
  | _ => rfl

theorem Declared.readCriterion_place (h : clause.Declared) (hrole : field.role = .place) :
    readCriterion (clause.onRecord compiler) field = clause.normalCriterion field := by
  have hcreated : criterionAt (clause.onRecord compiler) RecordField.createdAtLocation.indexPath
      = clause.createdAtLocation.filter fun criterion => criterion.variant? ≠ some .within :=
    h.criterionAt_indexPath
  have hupdated : criterionAt (clause.onRecord compiler) RecordField.updatedAtLocation.indexPath
      = clause.updatedAtLocation.filter fun criterion => criterion.variant? ≠ some .within :=
    h.criterionAt_indexPath
  have hlocations : (clause.onRecord compiler).filterMap Condition.location?
      = (clause.createdAtLocation.bind Criterion.location?).toList
        ++ (clause.updatedAtLocation.bind Criterion.location?).toList :=
    h.locations_onRecord
  have hcreatedCases : clause.createdAtLocation = none ∨ (∃ term, clause.createdAtLocation = some (.exact term))
      ∨ ∃ location, clause.createdAtLocation = some (.within location) :=
    h.place_cases .createdAtLocation rfl
  have hupdatedCases : clause.updatedAtLocation = none ∨ (∃ term, clause.updatedAtLocation = some (.exact term))
      ∨ ∃ location, clause.updatedAtLocation = some (.within location) :=
    h.place_cases .updatedAtLocation rfl
  -- Each place has no criterion, an exact one or a location, and in all nine cases both sides compute.
  rcases RecordField.eq_of_role_place hrole with rfl | rfl
  · simp only [readCriterion, normalCriterion, hcreated, hlocations]
    rcases hcreatedCases with hc | ⟨term, hc⟩ | ⟨location, hc⟩ <;>
      rcases hupdatedCases with hu | ⟨term', hu⟩ | ⟨location', hu⟩ <;> rw [hc, hu] <;> rfl
  · simp only [readCriterion, normalCriterion, hcreated, hupdated, hlocations]
    rcases hcreatedCases with hc | ⟨term, hc⟩ | ⟨location, hc⟩ <;>
      rcases hupdatedCases with hu | ⟨term', hu⟩ | ⟨location', hu⟩ <;> rw [hc, hu] <;> rfl

theorem Declared.readCriterion_onRecord (h : clause.Declared) (field : RecordField) :
    readCriterion (clause.onRecord compiler) field = clause.normalCriterion field := by
  by_cases hrole : field.role = .place
  · exact h.readCriterion_place hrole
  · rw [readCriterion_of_ne hrole, normalCriterion_of_ne hrole, h.criterionAt_indexPath]
    cases hhonoured : clause.honoured field with
    | none => rfl
    | some criterion => exact Option.filter_some_pos (decide_eq_true (h.honoured_ne_within hrole hhonoured))

end Clause

/-! ### The conditions on declaration fields -/

namespace Compiler

variable {compiler : Compiler} {names : List String}

/-- The path of a declaration field goes on after the namespace with the segment of its id, which ends there or at a dot. -/
theorem exists_toList_searchedPath (hencode : compiler.encodeId = FieldId.encode) (names : List String) (id : String)
    (criterion : Criterion) :
    ∃ rest, (compiler.searchedPath names id criterion).toList
        = compiler.settings.declarationNamespace.toList ++ '.' :: (FieldId.encodeChars id.toList ++ rest)
      ∧ rest.takeWhile (fun c => c ≠ '.') = [] := by
  by_cases hname : (∃ term, criterion = .fuzzy term) ∧ id ∈ names
  · refine ⟨'.' :: compiler.settings.fullnameSubfield.toList, ?_, rfl⟩
    rw [compiler.searchedPath_of_name names hname, fullnamePath, String.toList_append, String.toList_append,
      toList_fieldPath hencode, List.append_assoc, List.append_assoc]
    rfl
  · refine ⟨[], ?_, rfl⟩
    rw [compiler.searchedPath_of_not_name names hname, toList_fieldPath hencode, List.append_nil]

theorem fieldId_of_path (hencode : compiler.encodeId = FieldId.encode) {id : String} (hsafe : FieldId.Safe id)
    {criterion : Criterion} {condition : Condition}
    (hpath : condition.path = compiler.searchedPath names id criterion) :
    condition.fieldId compiler.settings = id := by
  obtain ⟨rest, hlist, hrest⟩ := exists_toList_searchedPath hencode names id criterion
  have hencoded : ∀ c ∈ FieldId.encodeChars id.toList, decide (c ≠ '.') = true := by
    intro c hc
    exact decide_eq_true (FieldId.ne_dot_of_mem_encodeChars hc)
  have hdrop : condition.path.toList.drop (compiler.settings.declarationNamespace.toList.length + 1)
      = FieldId.encodeChars id.toList ++ rest := by
    rw [hpath, hlist, List.drop_length_add_append]
    rfl
  rw [Condition.fieldId, hdrop, List.takeWhile_append_of_pos hencoded, hrest, List.append_nil]
  exact FieldId.decode_encode hsafe

/-- The condition on a declaration field is none on the record, and its entry can be read from it. -/
theorem entry_of_entryCondition (hencode : compiler.encodeId = FieldId.encode)
    (hns : compiler.settings.declarationNamespace ≠ "legalStatuses.REGISTERED") {entry : String × Criterion}
    (hsafe : FieldId.Safe entry.1) (hfield : entry.2.IsOneOf Variant.field) {condition : Condition}
    (hc : compiler.entryCondition? names entry = some condition) :
    condition.isOnRecord = false ∧ (condition.fieldId compiler.settings, condition.criterion) = entry := by
  have hid := fieldId_of_path hencode hsafe (entry.2.path_of_condition? hfield hc)
  have hcriterion := entry.2.criterion_of_condition? hc
  refine ⟨?_, Prod.ext hid hcriterion⟩
  have hpath : ¬ recordPaths.contains (compiler.fieldPath entry.1) = true := fun h =>
    fieldPath_notMem_recordPaths hencode hns entry.1 (List.contains_iff_mem.1 h)
  rw [Bool.not_eq_true] at hpath
  obtain ⟨id, criterion⟩ := entry
  rw [Criterion.isOneOf_field] at hfield
  rcases hfield with ⟨term, rfl⟩ | ⟨term, rfl⟩ | ⟨terms, rfl⟩ | ⟨gte, lte, rfl⟩
  · cases hc
    exact hpath
  · cases hc
    rfl
  · cases hc
    exact hpath
  · cases hc
    exact hpath

end Compiler

/-! ### Clauses -/

namespace Clause

variable {compiler : Compiler} {clause : Clause} {names : List String}

/-- Every id of a declaration field in the clause can be told from its segment. -/
def SafeIds (clause : Clause) : Prop :=
  ∀ entry ∈ clause.data.getD [], FieldId.Safe entry.1

instance (clause : Clause) : Decidable clause.SafeIds :=
  inferInstanceAs (Decidable (∀ entry ∈ clause.data.getD [], FieldId.Safe entry.1))

theorem Declared.isOneOf_of_mem (h : clause.Declared) {entry : String × Criterion}
    (hentry : entry ∈ clause.data.getD []) : entry.2.IsOneOf Variant.field := by
  cases hdata : clause.data with
  | none =>
      rw [hdata] at hentry
      exact absurd hentry List.not_mem_nil
  | some data =>
      rw [hdata] at hentry
      exact h.data data hdata entry hentry

theorem map_filterMap_eq_self {α β : Type} {f : α → Option β} {g : β → α} {xs : List α}
    (h : ∀ x ∈ xs, (f x).map g = some x) : (xs.filterMap f).map g = xs := by
  rw [List.map_filterMap, List.filterMap_congr h, List.filterMap_some]

theorem Declared.ofConditions_conditions (h : clause.Declared) (hsafe : clause.SafeIds)
    (hencode : compiler.encodeId = FieldId.encode)
    (hns : compiler.settings.declarationNamespace ≠ "legalStatuses.REGISTERED") :
    ofConditions compiler.settings (clause.conditions compiler names) = clause.normal := by
  have hdeclared : ∀ condition ∈ (clause.data.getD []).filterMap (compiler.entryCondition? names),
      condition.isOnRecord = false := by
    intro condition hcondition
    obtain ⟨entry, hmem, hc⟩ := List.mem_filterMap.1 hcondition
    exact (Compiler.entry_of_entryCondition hencode hns (hsafe entry hmem) (h.isOneOf_of_mem hmem) hc).1
  have hread : ((clause.data.getD []).filterMap (compiler.entryCondition? names)).map
      (fun condition => (condition.fieldId compiler.settings, condition.criterion)) = clause.data.getD [] := by
    apply map_filterMap_eq_self
    intro entry hmem
    have hfield := h.isOneOf_of_mem hmem
    obtain ⟨condition, -, hc⟩ := compiler.exists_entryCondition names hfield
    rw [hc, Option.map_some, (Compiler.entry_of_entryCondition hencode hns (hsafe entry hmem) hfield hc).2]
  have hrecord : ∀ condition ∈ clause.onRecord compiler, condition.isOnRecord = true :=
    fun condition hcondition => h.isOnRecord_of_mem hcondition
  obtain ⟨hfilter, hrest⟩ := filter_append_parts hrecord hdeclared
  have hcriteria : readCriterion (clause.onRecord compiler) = clause.normalCriterion :=
    funext h.readCriterion_onRecord
  have hdata : (if (clause.data.getD []).isEmpty then none else some (clause.data.getD []))
      = clause.data.filter fun entries => !entries.isEmpty := by
    cases clause.data with
    | none => rfl
    | some data => cases data <;> rfl
  rw [ofConditions, conditions, ← onRecord, hfilter, hrest, hread, hcriteria, h.readEventType_onRecord, hdata, normal]

theorem honoured_normal_of_ne {field : RecordField} (hrole : field.role ≠ .place) (clause : Clause) :
    clause.normal.honoured field = clause.honoured field := by
  have hcriterion : clause.normal.criterion field = clause.honoured field := by
    rw [normal, criterion_ofCriteria, normalCriterion_of_ne hrole]
  unfold honoured at hcriterion ⊢
  rw [hcriterion]
  cases hfield : field.role with
  | registrationPlace => simp [Option.filter_filter]
  | _ => rfl

/-- What the normal form changes leaves no trace in the conditions. -/
theorem conditions_normal (clause : Clause) :
    clause.normal.conditions compiler names = clause.conditions compiler names := by
  have hrecord : RecordField.all.filterMap (clause.normal.recordCondition? compiler)
      = RecordField.all.filterMap (clause.recordCondition? compiler) := by
    apply RecordField.filterMap_all_congr
    · intro field hrole
      rw [recordCondition?, honoured_normal_of_ne hrole]
      rfl
    · change ((clause.normalCriterion .createdAtLocation).bind _).toList
          ++ ((clause.normalCriterion .updatedAtLocation).bind _).toList
        = (clause.createdAtLocation.bind _).toList ++ (clause.updatedAtLocation.bind _).toList
      unfold normalCriterion
      cases clause.createdAtLocation with
      | some created => rfl
      | none =>
          cases clause.updatedAtLocation with
          | none => rfl
          | some updated => cases updated <;> rfl
  have hdata : clause.normal.data.getD [] = clause.data.getD [] := by
    change (clause.data.filter fun entries => !entries.isEmpty).getD [] = _
    cases clause.data with
    | none => rfl
    | some data => cases data <;> rfl
  rw [conditions, hrecord, hdata]
  rfl

/-- Two clauses have the same conditions exactly if they have the same normal form. -/
theorem Declared.conditions_eq_iff {first second : Clause} (hfirst : first.Declared) (hsecond : second.Declared)
    (hfirstIds : first.SafeIds) (hsecondIds : second.SafeIds) (hencode : compiler.encodeId = FieldId.encode)
    (hns : compiler.settings.declarationNamespace ≠ "legalStatuses.REGISTERED") :
    first.conditions compiler names = second.conditions compiler names ↔ first.normal = second.normal := by
  constructor
  · intro h
    calc first.normal
      _ = ofConditions compiler.settings (first.conditions compiler names) :=
          (hfirst.ofConditions_conditions hfirstIds hencode hns).symm
      _ = ofConditions compiler.settings (second.conditions compiler names) := by rw [h]
      _ = second.normal := hsecond.ofConditions_conditions hsecondIds hencode hns
  · intro h
    rw [← first.conditions_normal, h, second.conditions_normal]

end Clause

/-! ### Compiled clauses -/

theorem Condition.toJson_injective : Function.Injective Condition.toJson := by
  have htexts : Function.Injective (List.map Json.str) := List.map_injective_iff.2 fun _ _ h => Json.str.inj h
  intro first second h
  cases first <;> cases second <;>
    simp_all [toJson, EngineQuery.term, EngineQuery.terms, EngineQuery.fuzzyMatch, EngineQuery.inclusiveRange,
      EngineQuery.within, EngineQuery.single, htexts.eq_iff]

namespace Clause

theorem Declared.compileClause_result {clause : Clause} (h : clause.Declared) (compiler : Compiler) (catalog : Catalog)
    (earlier : List (List Event)) :
    ((compiler.compileClause catalog clause).run (Memo.asked compiler.lookup earlier)).result
      = .ok (clause.conditions compiler (nameFieldIds compiler.lookup catalog.events)) := by
  have hfaithful := Memo.faithful_asked compiler.lookup earlier
  rw [← h.directClause_eq compiler]
  exact (compiler.yields_compileClause catalog clause _ hfaithful).1

/-- Compiling loses no difference between two clauses but those that the normal form takes away, whatever the memo was asked before. -/
theorem compiles_alike_iff (settings : Settings) (lookup : FieldLookup) (catalog : Catalog)
    (earlier others : List (List Event)) (first second : Clause)
    (hns : settings.declarationNamespace ≠ "legalStatuses.REGISTERED")
    (hfirst : first.Declared) (hsecond : second.Declared) (hfirstIds : first.SafeIds) (hsecondIds : second.SafeIds) :
    ∃ conditions conditions',
      ((Compiler.compileClause { settings, lookup } catalog first).run (Memo.asked lookup earlier)).result
          = .ok conditions
        ∧ ((Compiler.compileClause { settings, lookup } catalog second).run (Memo.asked lookup others)).result
          = .ok conditions'
        ∧ (conditions.map Condition.toJson = conditions'.map Condition.toJson ↔ first.normal = second.normal) := by
  let compiler : Compiler := { settings, lookup }
  refine ⟨_, _, hfirst.compileClause_result compiler catalog earlier,
    hsecond.compileClause_result compiler catalog others, ?_⟩
  rw [(List.map_injective_iff.2 Condition.toJson_injective).eq_iff]
  exact hfirst.conditions_eq_iff hsecond hfirstIds hsecondIds rfl hns

/-- A clause with a place of the update only, a registration location that is not exact and a name. -/
def updatedNearby : Clause where
  registeredAtLocation := some (.range "a" "b")
  updatedAtLocation := some (.within "12.5,90.1")
  data := some [("child.name", .fuzzy "Ana"), ("child__dob", .anyOf ["2020-01-01"])]

/-- The same place as that of the creation. -/
def createdNearby : Clause :=
  { updatedNearby with
    registeredAtLocation := none
    createdAtLocation := some (.within "12.5,90.1")
    updatedAtLocation := none }

theorem compiles_alike_nearby :
    (updatedNearby.Declared ∧ createdNearby.Declared ∧ updatedNearby.SafeIds ∧ createdNearby.SafeIds)
      ∧ ∃ conditions conditions',
        ((Compiler.compileClause {} .empty updatedNearby).run (Memo.asked Event.uniqueFields [[]])).result = .ok conditions
          ∧ ((Compiler.compileClause {} .empty createdNearby).run (Memo.asked Event.uniqueFields [])).result
            = .ok conditions'
          ∧ conditions.map Condition.toJson = conditions'.map Condition.toJson := by
  have hdeclared : updatedNearby.Declared ∧ createdNearby.Declared := by decide
  have hsafe : updatedNearby.SafeIds ∧ createdNearby.SafeIds := by decide
  have hnormal : updatedNearby.normal = createdNearby.normal := by decide
  obtain ⟨conditions, conditions', hupdated, hcreated, hiff⟩ := compiles_alike_iff {} Event.uniqueFields .empty [[]] []
    updatedNearby createdNearby (by decide) hdeclared.1 hdeclared.2 hsafe.1 hsafe.2
  exact ⟨⟨hdeclared.1, hdeclared.2, hsafe.1, hsafe.2⟩, conditions, conditions', hupdated, hcreated, hiff.2 hnormal⟩

end Clause

end RegistrySearch
