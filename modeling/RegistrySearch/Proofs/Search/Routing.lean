import RegistrySearch.Proofs.Catalog.NameFields
import RegistrySearch.Proofs.Search.Conditions

/-!
# Where declaration fields are searched

A declaration field is indexed at a path of its own, and a field of a name at a second one for the full name. An approximate criterion has to go to the second one exactly for the fields of names, and all other criteria to the first.

The ids are told apart by the list of name fields that the memo answers with, so what is routed depends on the memo, on the union over the events of a catalog and on the rule that the first declaration in an event counts. The main statement says where every entry goes in terms of the declarations alone (`Compiler.routes_entries`).
-/

namespace RegistrySearch

namespace Compiler

variable (compiler : Compiler)

theorem fieldPath_ne_fullnamePath (id : String) : compiler.fieldPath id ≠ compiler.fullnamePath id := by
  intro h
  have hlength := congrArg String.length h
  simp only [fullnamePath, String.length_append] at hlength
  have hdot : ".".length = 1 := rfl
  omega

end Compiler

/-- The condition tests the values of the criterion, at the path of the full name if the criterion is approximate and the first declaration of the field in some event is that of a name, and at the path of the field itself in all other cases. -/
structure Routed (settings : Settings) (encodeId : String → String) (catalog : Catalog) (entry : String × Criterion)
    (condition : Condition) : Prop where
  values : entry.2.condition? condition.path settings.fuzziness = some condition
  fullname : condition.path
      = settings.declarationNamespace ++ "." ++ encodeId entry.1 ++ "." ++ settings.fullnameSubfield
    ↔ (∃ term, entry.2 = .fuzzy term) ∧ catalog.FirstDeclaresName entry.1
  field : condition.path = settings.declarationNamespace ++ "." ++ encodeId entry.1
    ↔ ¬ ((∃ term, entry.2 = .fuzzy term) ∧ catalog.FirstDeclaresName entry.1)

theorem exists_routed (settings : Settings) (encodeId : String → String) (catalog : Catalog)
    {entry : String × Criterion} (h : entry.2.IsOneOf Variant.field) :
    ∃ condition, Compiler.directField { settings, encodeId } (nameFieldIds Event.uniqueFields catalog.events) entry
        = .ok condition
      ∧ Routed settings encodeId catalog entry condition := by
  let compiler : Compiler := { settings, encodeId }
  obtain ⟨condition, hok, hcondition⟩ :=
    compiler.exists_entryCondition (nameFieldIds Event.uniqueFields catalog.events) h
  have hpath := entry.2.path_of_condition? h hcondition
  have hne := compiler.fieldPath_ne_fullnamePath entry.1
  refine ⟨condition, hok, ?_⟩
  by_cases hname : (∃ term, entry.2 = .fuzzy term) ∧ catalog.FirstDeclaresName entry.1
  · have hfull : condition.path = compiler.fullnamePath entry.1 :=
      hpath.trans (compiler.searchedPath_of_name _ (hname.imp_right mem_nameFieldIds_uniqueFields.2))
    exact {
      values := hpath ▸ hcondition
      fullname := iff_of_true hfull hname
      field := iff_of_false (fun hfield => hne (hfield.symm.trans hfull)) fun hnot => hnot hname }
  · have hfield : condition.path = compiler.fieldPath entry.1 :=
      hpath.trans (compiler.searchedPath_of_not_name _ fun h => hname (h.imp_right mem_nameFieldIds_uniqueFields.1))
    exact {
      values := hpath ▸ hcondition
      fullname := iff_of_false (fun hfull => hne (hfield.symm.trans hfull)) hname
      field := iff_of_true hfield hname }

/-- Declaration fields are compiled to one condition for each, in their order, and each goes where it belongs, whatever the memo was asked before. -/
theorem Compiler.routes_entries (settings : Settings) (encodeId : String → String) (catalog : Catalog)
    (earlier : List (List Event)) (data : List (String × Criterion))
    (h : ∀ entry ∈ data, entry.2.IsOneOf Variant.field) :
    ∃ conditions, ((Compiler.compileData { settings, encodeId } catalog data).run
          (Memo.asked Event.uniqueFields earlier)).result = .ok conditions
      ∧ List.Forall₂ (Routed settings encodeId catalog) data conditions := by
  let compiler : Compiler := { settings, encodeId }
  obtain ⟨conditions, hok, hrouted⟩ := exists_mapM fun entry hentry =>
    exists_routed settings encodeId catalog (h entry hentry)
  have hyields := compiler.yields_compileDataMember catalog (some data) (Memo.asked Event.uniqueFields earlier)
    (Memo.faithful_asked Event.uniqueFields earlier)
  exact ⟨conditions, hyields.1.trans hok, hrouted⟩

/-- A catalog that declares one id with different types, in one event and in different events. -/
def Catalog.redeclaring : Catalog where
  events := [
    { id := "birth"
      pages := [
        { id := "child", fields := [⟨"child.name", .known .text, none, true⟩, ⟨"child.name", .known .name, none, true⟩] }]
      actions := [{ type := "REGISTER", fields := [⟨"informant.name", .named "NAME", none, false⟩] }] },
    { id := "death"
      pages := [{ id := "deceased", fields := [⟨"informant.name", .known .text, none, false⟩] }] }]

/-- Approximate criteria for an id that is a name only later, one that is a name in one of the events and one that is not declared. -/
def redeclaredEntries : List (String × Criterion) :=
  [("child.name", .fuzzy "Ana"), ("informant.name", .fuzzy "Bo"), ("mother.name", .fuzzy "Eve"), ("child.dob", .anyOf [])]

theorem Compiler.routes_entries_redeclaring :
    (∀ entry ∈ redeclaredEntries, entry.2.IsOneOf Variant.field)
      ∧ ∃ conditions, ((Compiler.compileData { settings := {}, encodeId := fun id => "[" ++ id ++ "]" }
            Catalog.redeclaring redeclaredEntries).run
            (Memo.asked Event.uniqueFields [[], Catalog.redeclaring.events])).result = .ok conditions
        ∧ List.Forall₂ (Routed {} (fun id => "[" ++ id ++ "]") Catalog.redeclaring) redeclaredEntries conditions := by
  have h : ∀ entry ∈ redeclaredEntries, entry.2.IsOneOf Variant.field := by decide
  exact ⟨h, routes_entries {} _ Catalog.redeclaring [[], Catalog.redeclaring.events] redeclaredEntries h⟩

end RegistrySearch
