import RegistrySearch.Proofs.Catalog.NameFields
import RegistrySearch.Proofs.Search.RecordConditions

/-!
# The paths of declaration fields

Two declaration fields are searched at one path only if their segments are the same and both searches, or none of them, are for a full name. The segment ends before any dot, so that the path of a full name is never the path of a field of another id. What is left are ids that share a segment, which the encoding does not keep apart (`FieldId.Respelled`): an id with a separator of its own is searched where the id with dots in their places is.
-/

namespace RegistrySearch

namespace Compiler

variable {compiler : Compiler}

theorem fieldPath_eq_iff (hencode : compiler.encodeId = FieldId.encode) {id other : String} :
    compiler.fieldPath id = compiler.fieldPath other ↔ FieldId.encode id = FieldId.encode other := by
  rw [← String.toList_inj, ← String.toList_inj, toList_fieldPath hencode, toList_fieldPath hencode,
    FieldId.toList_encode, FieldId.toList_encode, List.append_right_inj, List.cons.injEq]
  exact and_iff_right rfl

theorem fullnamePath_eq_iff {id other : String} :
    compiler.fullnamePath id = compiler.fullnamePath other ↔ compiler.fieldPath id = compiler.fieldPath other := by
  simp only [fullnamePath, ← String.toList_inj, String.toList_append, List.append_left_inj]

theorem fieldPath_ne_fullnamePath_of_encode (hencode : compiler.encodeId = FieldId.encode) (id other : String) :
    compiler.fieldPath id ≠ compiler.fullnamePath other := by
  intro h
  rw [← String.toList_inj, fullnamePath, String.toList_append, String.toList_append, toList_fieldPath hencode,
    toList_fieldPath hencode, List.append_assoc, List.append_assoc, List.append_right_inj, List.cons_append,
    List.cons.injEq] at h
  have hdot : '.' ∈ FieldId.encodeChars id.toList := by
    rw [h.2]
    exact List.mem_append_right _ List.mem_cons_self
  exact FieldId.dot_not_mem_encodeChars _ hdot

/-- Two entries are searched at one path if their ids share a segment, and both or none of them ask for a full name. -/
theorem searchedPath_eq_iff (hencode : compiler.encodeId = FieldId.encode) (names : List String)
    (first second : String × Criterion) :
    compiler.searchedPath names first.1 first.2 = compiler.searchedPath names second.1 second.2
      ↔ FieldId.Respelled first.1 second.1
        ∧ (((∃ term, first.2 = .fuzzy term) ∧ first.1 ∈ names)
          ↔ (∃ term, second.2 = .fuzzy term) ∧ second.1 ∈ names) := by
  rw [← FieldId.encode_eq_iff, ← fieldPath_eq_iff hencode]
  by_cases hfirst : (∃ term, first.2 = .fuzzy term) ∧ first.1 ∈ names
  · by_cases hsecond : (∃ term, second.2 = .fuzzy term) ∧ second.1 ∈ names
    · rw [compiler.searchedPath_of_name names hfirst, compiler.searchedPath_of_name names hsecond, fullnamePath_eq_iff]
      exact (and_iff_left (iff_of_true hfirst hsecond)).symm
    · rw [compiler.searchedPath_of_name names hfirst, compiler.searchedPath_of_not_name names hsecond]
      exact iff_of_false (fieldPath_ne_fullnamePath_of_encode hencode _ _).symm fun h => hsecond (h.2.1 hfirst)
  · by_cases hsecond : (∃ term, second.2 = .fuzzy term) ∧ second.1 ∈ names
    · rw [compiler.searchedPath_of_not_name names hfirst, compiler.searchedPath_of_name names hsecond]
      exact iff_of_false (fieldPath_ne_fullnamePath_of_encode hencode _ _) fun h => hfirst (h.2.2 hsecond)
    · rw [compiler.searchedPath_of_not_name names hfirst, compiler.searchedPath_of_not_name names hsecond]
      exact (and_iff_left (iff_of_false hfirst hsecond)).symm

end Compiler

/-! ### Compiled entries -/

/-- The criterion is approximate, and the field is one of a name in some event of the catalog. -/
def Catalog.AsksFullname (catalog : Catalog) (lookup : FieldLookup) (entry : String × Criterion) : Prop :=
  (∃ term, entry.2 = .fuzzy term)
    ∧ ∃ event ∈ catalog.events, ∃ field ∈ lookup event, field.id = entry.1 ∧ field.kind.isName = true

/-- Entries are compiled to one condition for each, which tests the values of the criterion at the path where the entry is searched. -/
theorem Compiler.exists_compileData (compiler : Compiler) (catalog : Catalog) (earlier : List (List Event))
    {data : List (String × Criterion)} (h : ∀ entry ∈ data, entry.2.IsOneOf Variant.field) :
    ∃ conditions, ((compiler.compileData catalog data).run (Memo.asked compiler.lookup earlier)).result = .ok conditions
      ∧ List.Forall₂ (fun entry condition =>
          entry.2.condition? condition.path compiler.settings.fuzziness = some condition
            ∧ condition.path = compiler.searchedPath (nameFieldIds compiler.lookup catalog.events) entry.1 entry.2)
        data conditions := by
  let names := nameFieldIds compiler.lookup catalog.events
  have hentry : ∀ entry ∈ data, ∃ condition, compiler.directField names entry = .ok condition
      ∧ (entry.2.condition? condition.path compiler.settings.fuzziness = some condition
        ∧ condition.path = compiler.searchedPath names entry.1 entry.2) := by
    intro entry hmem
    obtain ⟨condition, hok, hcondition⟩ := compiler.exists_entryCondition names (h entry hmem)
    have hpath := entry.2.path_of_condition? (h entry hmem) hcondition
    exact ⟨condition, hok, hpath ▸ hcondition, hpath⟩
  obtain ⟨conditions, hok, hconditions⟩ := exists_mapM hentry
  have hyields := compiler.yields_compileDataMember catalog (some data) (Memo.asked compiler.lookup earlier)
    (Memo.faithful_asked compiler.lookup earlier)
  exact ⟨conditions, hyields.1.trans hok, hconditions⟩

/-- Declaration fields are searched at one path exactly if their ids are spellings of each other, and both or none of them are searched for a full name. So fields with different ids that have neither a separator nor an underscore right before a dot are never searched at one path. -/
theorem Compiler.paths_coincide_iff (settings : Settings) (lookup : FieldLookup) (catalog : Catalog)
    (earlier : List (List Event)) (data : List (String × Criterion))
    (h : ∀ entry ∈ data, entry.2.IsOneOf Variant.field) :
    (∃ conditions, ((Compiler.compileData { settings, lookup } catalog data).run (Memo.asked lookup earlier)).result
          = .ok conditions
        ∧ List.Forall₂ (fun entry condition => entry.2.condition? condition.path settings.fuzziness = some condition)
          data conditions
        ∧ ∀ first ∈ data.zip conditions, ∀ second ∈ data.zip conditions,
          (first.2.path = second.2.path
            ↔ FieldId.Respelled first.1.1 second.1.1
              ∧ (catalog.AsksFullname lookup first.1 ↔ catalog.AsksFullname lookup second.1))
          ∧ (first.1.1 ≠ second.1.1 → FieldId.Safe first.1.1 → FieldId.Safe second.1.1
            → first.2.path ≠ second.2.path))
      ∧ ∀ id other, (FieldId.encode id = FieldId.encode other ↔ FieldId.Respelled id other)
        ∧ (id ≠ other → FieldId.Safe id → FieldId.Safe other → FieldId.encode id ≠ FieldId.encode other) := by
  let compiler : Compiler := { settings, lookup }
  constructor
  · obtain ⟨conditions, hok, hconditions⟩ := compiler.exists_compileData catalog earlier h
    refine ⟨conditions, hok, hconditions.imp fun _ _ hcondition => hcondition.1, ?_⟩
    intro first hfirst second hsecond
    have hencode : compiler.encodeId = FieldId.encode := rfl
    have hpaths := searchedPath_eq_iff hencode (nameFieldIds lookup catalog.events) first.1 second.1
    rw [← (List.forall₂_zip hconditions hfirst).2, ← (List.forall₂_zip hconditions hsecond).2, mem_nameFieldIds,
      mem_nameFieldIds] at hpaths
    refine ⟨hpaths, fun hne hsafe hother heq => ?_⟩
    exact hne (FieldId.eq_of_respelled hsafe hother (hpaths.1 heq).1)
  · intro id other
    refine ⟨FieldId.encode_eq_iff, fun hne hsafe hother heq => ?_⟩
    exact hne (FieldId.eq_of_respelled hsafe hother (FieldId.encode_eq_iff.1 heq))

/-- A field whose id has a separator where that of another one has a dot, and two that have an underscore on either side of it. -/
def respelledEntries : List (String × Criterion) :=
  [("child.name", .exact "Ana"), ("child____name", .exact "Bo"), ("child_.dob", .fuzzy "2020"), ("child._dob", .fuzzy "2021")]

/-- The encoding does not keep all ids apart: both fields are searched at one path. -/
theorem Compiler.path_shared_by_different_ids :
    "child.name" ≠ "child____name" ∧ FieldId.encode "child.name" = FieldId.encode "child____name"
      ∧ "child_.dob" ≠ "child._dob" ∧ FieldId.encode "child_.dob" = FieldId.encode "child._dob"
      ∧ ((Compiler.compileData {} .empty respelledEntries).run Memo.empty).result = .ok [
        .equals "declaration.child____name" "Ana", .equals "declaration.child____name" "Bo",
        .resembles "declaration.child_____dob" "2020" "AUTO", .resembles "declaration.child_____dob" "2021" "AUTO"] := by
  decide +kernel

theorem Compiler.paths_coincide_respelledEntries :
    (∀ entry ∈ respelledEntries, entry.2.IsOneOf Variant.field)
      ∧ ∃ conditions, ((Compiler.compileData {} .empty respelledEntries).run
            (Memo.asked Event.uniqueFields [[]])).result = .ok conditions
        ∧ ∀ first ∈ respelledEntries.zip conditions, ∀ second ∈ respelledEntries.zip conditions,
          (first.2.path = second.2.path
            ↔ FieldId.Respelled first.1.1 second.1.1
              ∧ (Catalog.empty.AsksFullname Event.uniqueFields first.1
                ↔ Catalog.empty.AsksFullname Event.uniqueFields second.1)) := by
  have h : ∀ entry ∈ respelledEntries, entry.2.IsOneOf Variant.field := by decide
  obtain ⟨⟨conditions, hok, -, hpaths⟩, -⟩ := paths_coincide_iff {} Event.uniqueFields .empty [[]] respelledEntries h
  exact ⟨h, conditions, hok, fun first hfirst second hsecond => (hpaths first hfirst second hsecond).1⟩

end RegistrySearch
