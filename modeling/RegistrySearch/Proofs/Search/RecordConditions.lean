import RegistrySearch.Proofs.Document.FieldId
import RegistrySearch.Proofs.Search.Conditions

/-!
# Conditions on the record

The conditions of a clause are one list, in which those on the record stand before those on declaration fields. The paths tell the two apart: no declaration field has a path of the record, unless the namespace of the fields is the one part of the record that has dots in its paths (`Compiler.fieldPath_notMem_recordPaths`). An approximate condition always tests a declaration field, so the path of a full name may even be a path of the record.

Among the conditions on the record, each path tells its field. Only nearness has no path of its own; what is left of two places that are near is the order of their conditions (`Clause.Declared.locations_onRecord`).
-/

namespace RegistrySearch

/-- The paths that conditions on the record test. -/
def recordPaths : List String :=
  eventTypePath :: EngineQuery.locationPath :: RecordField.all.map RecordField.indexPath

namespace Condition

/-- The condition is one on the record, not on a declaration field. -/
def isOnRecord : Condition → Bool
  | resembles .. => false
  | condition => recordPaths.contains condition.path

/-- The location that a condition asks to be near to. -/
def location? : Condition → Option String
  | near location => some location
  | _ => none

end Condition

/-- The location that a criterion is near to. -/
def Criterion.location? : Criterion → Option String
  | within location => some location
  | _ => none

/-! ### Paths -/

namespace RecordField

theorem indexPath_injective : Function.Injective indexPath := by
  intro first second
  cases first <;> cases second <;> decide

theorem indexPath_ne_eventTypePath (field : RecordField) : field.indexPath ≠ eventTypePath := by
  cases field <;> decide

theorem indexPath_ne_locationPath (field : RecordField) : field.indexPath ≠ EngineQuery.locationPath := by
  cases field <;> decide

theorem eq_of_role_place {field : RecordField} (h : field.role = .place) :
    field = .createdAtLocation ∨ field = .updatedAtLocation := by
  cases field with
  | createdAtLocation => exact .inl rfl
  | updatedAtLocation => exact .inr rfl
  | _ => cases h

theorem indexPath_mem_recordPaths (field : RecordField) : field.indexPath ∈ recordPaths :=
  List.mem_cons_of_mem _ (List.mem_cons_of_mem _ (List.mem_map_of_mem field.mem_all))

end RecordField

namespace Condition

theorem isOnRecord_near (location : String) : (near location).isOnRecord = true := by
  change recordPaths.contains EngineQuery.locationPath = true
  decide

theorem isOnRecord_eventType (type : String) : (equals eventTypePath type).isOnRecord = true := by
  change recordPaths.contains eventTypePath = true
  decide

end Condition

/-- A path of the record has no dots, or all its parts but the last are the one namespace that the record has. -/
theorem namespace_of_mem_recordPaths :
    ∀ path ∈ recordPaths, '.' ∈ path.toList →
      path.toList.reverse.dropWhile (fun c => c ≠ '.') = '.' :: "legalStatuses.REGISTERED".toList.reverse := by
  decide

namespace Compiler

variable {compiler : Compiler}

theorem toList_fieldPath (hencode : compiler.encodeId = FieldId.encode) (id : String) :
    (compiler.fieldPath id).toList
      = compiler.settings.declarationNamespace.toList ++ '.' :: FieldId.encodeChars id.toList := by
  rw [fieldPath, hencode, String.toList_append, String.toList_append, FieldId.toList_encode, List.append_assoc]
  rfl

theorem fieldPath_notMem_recordPaths (hencode : compiler.encodeId = FieldId.encode)
    (hns : compiler.settings.declarationNamespace ≠ "legalStatuses.REGISTERED") (id : String) :
    compiler.fieldPath id ∉ recordPaths := by
  intro hmem
  have hpath := toList_fieldPath hencode id
  have hdot : '.' ∈ (compiler.fieldPath id).toList := by
    rw [hpath]
    exact List.mem_append_right _ List.mem_cons_self
  have hlast := namespace_of_mem_recordPaths _ hmem hdot
  have hencoded : ∀ c ∈ (FieldId.encodeChars id.toList).reverse, decide (c ≠ '.') = true := by
    intro c hc
    exact decide_eq_true (FieldId.ne_dot_of_mem_encodeChars (List.mem_reverse.1 hc))
  -- The segment of the id has no dots, so what stands before the last dot of the path is the namespace.
  rw [hpath, List.reverse_append, List.reverse_cons, List.append_assoc,
    List.dropWhile_append_of_pos hencoded] at hlast
  have hreverse := (List.cons.inj hlast).2
  exact hns (String.toList_inj.1 (List.reverse_injective hreverse))

end Compiler

/-! ### The conditions of record fields -/

namespace RecordField

theorem filterMap_all_of_eq {α : Type} (field : RecordField) (x : Option α) :
    all.filterMap (fun other => if other = field then x else none) = x.toList := by
  cases x with
  | none => cases field <;> rfl
  | some x => cases field <;> rfl

/-- The places are the last of the record fields. -/
theorem filterMap_all {α : Type} (x : RecordField → Option α) :
    all.filterMap x = (all.filter fun field => field.role ≠ .place).filterMap x
      ++ ((x .createdAtLocation).toList ++ (x .updatedAtLocation).toList) := by
  have hplaces : all = (all.filter fun field => field.role ≠ .place) ++ [createdAtLocation, updatedAtLocation] := by
    decide
  conv_lhs => rw [hplaces]
  rw [List.filterMap_append, List.filterMap_cons, List.filterMap_cons, List.filterMap_nil]
  cases x .createdAtLocation with
  | none => cases x .updatedAtLocation <;> rfl
  | some created => cases x .updatedAtLocation <;> rfl

theorem filterMap_all_of_place {α : Type} {x : RecordField → Option α}
    (hx : ∀ field, field.role ≠ .place → x field = none) :
    all.filterMap x = (x .createdAtLocation).toList ++ (x .updatedAtLocation).toList := by
  have hothers : (all.filter fun field => field.role ≠ .place).filterMap x = [] := by
    rw [List.filterMap_eq_nil_iff]
    intro field hfield
    exact hx field (of_decide_eq_true (List.mem_filter.1 hfield).2)
  rw [filterMap_all, hothers, List.nil_append]

theorem filterMap_all_congr {α : Type} {x y : RecordField → Option α}
    (hothers : ∀ field, field.role ≠ .place → x field = y field)
    (hplaces : (x .createdAtLocation).toList ++ (x .updatedAtLocation).toList
      = (y .createdAtLocation).toList ++ (y .updatedAtLocation).toList) :
    all.filterMap x = all.filterMap y := by
  rw [filterMap_all x, filterMap_all y, hplaces]
  congr 1
  exact List.filterMap_congr fun field hfield => hothers field (of_decide_eq_true (List.mem_filter.1 hfield).2)

end RecordField

namespace Clause

variable {compiler : Compiler} {clause : Clause} {field : RecordField}

/-- What is searched on at a record field is tested there, unless it is a place that is asked to be near. -/
theorem Declared.honoured_cases (h : clause.Declared) {criterion : Criterion}
    (hc : clause.honoured field = some criterion) :
    criterion.IsOneOf [.exact, .anyOf, .range] ∨ field.role = .place ∧ ∃ location, criterion = .within location := by
  unfold honoured at hc
  cases hrole : field.role with
  | registrationPlace =>
      simp only [hrole, Option.filter_eq_some_iff, decide_eq_true_eq] at hc
      exact .inl ⟨.exact, by decide, hc.2⟩
  | place =>
      simp only [hrole] at hc
      have hdeclared := h.record field criterion hc
      rw [hrole, Criterion.isOneOf_place] at hdeclared
      rcases hdeclared with ⟨term, rfl⟩ | hlocation
      · exact .inl ⟨.exact, by decide, rfl⟩
      · exact .inr ⟨rfl, hlocation⟩
  | _ =>
      simp only [hrole] at hc
      have hdeclared := h.record field criterion hc
      rw [hrole] at hdeclared
      exact .inl (hdeclared.mono (by decide))

theorem Declared.honoured_ne_within (h : clause.Declared) (hrole : field.role ≠ .place) {criterion : Criterion}
    (hc : clause.honoured field = some criterion) : criterion.variant? ≠ some .within := by
  intro hwithin
  rcases h.honoured_cases hc with ⟨variant, hmem, hvariant⟩ | ⟨hplace, -⟩
  · cases hvariant.symm.trans hwithin
    exact absurd hmem (by decide)
  · exact hrole hplace

/-- A condition on the record is at the path of its field, or it is one of being near. -/
theorem Declared.recordCondition_cases (h : clause.Declared) {condition : Condition}
    (hc : clause.recordCondition? compiler field = some condition) :
    condition.isOnRecord = true ∧ (condition.path = field.indexPath ∧ condition.location? = none
      ∨ field.role = .place ∧ ∃ location, condition = .near location) := by
  obtain ⟨criterion, hhonoured, hcondition⟩ := Option.bind_eq_some_iff.1 hc
  have hpath : recordPaths.contains field.indexPath = true :=
    List.contains_iff_mem.2 field.indexPath_mem_recordPaths
  rcases h.honoured_cases hhonoured with hdeclared | ⟨hrole, location, rfl⟩
  · simp only [Criterion.isOneOf_cons, Criterion.isOneOf_nil, or_false, Criterion.variant?_eq_exact,
      Criterion.variant?_eq_anyOf, Criterion.variant?_eq_range] at hdeclared
    rcases hdeclared with ⟨term, rfl⟩ | ⟨terms, rfl⟩ | ⟨gte, lte, rfl⟩
    · cases hcondition
      exact ⟨hpath, .inl ⟨rfl, rfl⟩⟩
    · cases hcondition
      exact ⟨hpath, .inl ⟨rfl, rfl⟩⟩
    · cases hcondition
      exact ⟨hpath, .inl ⟨rfl, rfl⟩⟩
  · cases hcondition
    exact ⟨Condition.isOnRecord_near location, .inr ⟨hrole, location, rfl⟩⟩

/-- The conditions on the event type and the record fields. -/
def onRecord (compiler : Compiler) (clause : Clause) : List Condition :=
  clause.eventConditions ++ RecordField.all.filterMap (clause.recordCondition? compiler)

theorem path_of_mem_eventConditions {condition : Condition} (h : condition ∈ clause.eventConditions) :
    condition.path = eventTypePath ∧ condition.isOnRecord = true ∧ condition.location? = none := by
  unfold eventConditions at h
  split at h
  · rw [List.mem_singleton] at h
    subst h
    exact ⟨rfl, Condition.isOnRecord_eventType _, rfl⟩
  · exact absurd h List.not_mem_nil

theorem Declared.isOnRecord_of_mem (h : clause.Declared) {condition : Condition}
    (hc : condition ∈ clause.onRecord compiler) : condition.isOnRecord = true := by
  rcases List.mem_append.1 hc with hevent | hrecord
  · exact (path_of_mem_eventConditions hevent).2.1
  · obtain ⟨field, -, hfield⟩ := List.mem_filterMap.1 hrecord
    exact (h.recordCondition_cases hfield).1

/-! ### One path, and nearness -/

theorem Declared.filter_path_recordCondition (h : clause.Declared) (other : RecordField) :
    (clause.recordCondition? compiler other).filter (fun condition => condition.path = field.indexPath)
      = if other = field then
          (clause.recordCondition? compiler field).filter fun condition => condition.path = field.indexPath
        else none := by
  split
  · rename_i heq
    rw [heq]
  · rename_i hne
    rw [Option.filter_eq_none_iff]
    intro condition hcondition hpath
    rw [decide_eq_true_eq] at hpath
    rcases (h.recordCondition_cases hcondition).2 with ⟨hother, -⟩ | ⟨-, location, rfl⟩
    · exact hne (RecordField.indexPath_injective (hother.symm.trans hpath))
    · exact field.indexPath_ne_locationPath hpath.symm

/-- The location that a record field is asked to be near to. -/
def nearby (clause : Clause) (field : RecordField) : Option String :=
  (clause.honoured field).bind Criterion.location?

theorem location_recordCondition (clause : Clause) (field : RecordField) :
    (clause.recordCondition? compiler field).bind Condition.location? = clause.nearby field := by
  unfold recordCondition? nearby
  cases clause.honoured field with
  | none => rfl
  | some criterion => cases criterion <;> rfl

theorem Declared.nearby_of_ne (h : clause.Declared) (hrole : field.role ≠ .place) : clause.nearby field = none := by
  unfold nearby
  rw [Option.bind_eq_none_iff]
  intro criterion hhonoured
  cases criterion with
  | within location => exact absurd rfl (h.honoured_ne_within hrole hhonoured)
  | _ => rfl

theorem Declared.locations_onRecord (h : clause.Declared) :
    (clause.onRecord compiler).filterMap Condition.location?
      = (clause.nearby .createdAtLocation).toList ++ (clause.nearby .updatedAtLocation).toList := by
  have hevent : clause.eventConditions.filterMap Condition.location? = [] :=
    List.filterMap_eq_nil_iff.2 fun condition hcondition => (path_of_mem_eventConditions hcondition).2.2
  have hrecord : (fun field => (clause.recordCondition? compiler field).bind Condition.location?) = clause.nearby :=
    funext clause.location_recordCondition
  rw [onRecord, List.filterMap_append, hevent, List.nil_append, List.filterMap_filterMap, hrecord]
  exact RecordField.filterMap_all_of_place fun field hrole => h.nearby_of_ne hrole

theorem Declared.place_cases (h : clause.Declared) (field : RecordField) (hrole : field.role = .place) :
    clause.criterion field = none ∨ (∃ term, clause.criterion field = some (.exact term))
      ∨ ∃ location, clause.criterion field = some (.within location) := by
  cases hc : clause.criterion field with
  | none => exact .inl rfl
  | some criterion =>
      have hdeclared := h.record field criterion hc
      rw [hrole, Criterion.isOneOf_place] at hdeclared
      rcases hdeclared with ⟨term, rfl⟩ | ⟨location, rfl⟩
      · exact .inr (.inl ⟨term, rfl⟩)
      · exact .inr (.inr ⟨location, rfl⟩)

end Clause

end RegistrySearch
