import RegistrySearch.Proofs.Json.Draft
import RegistrySearch.Proofs.Query.Faults
import RegistrySearch.Proofs.Query.Reading

/-!
# The first fault decides

Reading stops at the first fault of a payload and reports it with what it needs to be found, the place of a clause or the id of a declaration field (`Query.reports_first_fault`).

For each level of a payload there are two lemmas. What is read has no fault, and what is not read has one that comes before all others and is the one that is reported. That all elements before a faulty one have been read is how the lemmas of one level are put together from those of the level below.
-/

namespace RegistrySearch

/-! ### Criteria -/

theorem ValueKind.tagName_ne (kind : ValueKind) :
    ∀ word ∈ ["exact", "fuzzy", "anyOf", "range"], kind.tagName ≠ word := by
  cases kind <;> decide

/-- A failure to read a criterion tells that its tag is unsupported or that it lacks something else, whichever it is. -/
theorem Criterion.parse_raw_eq_error {v : Json} {field : String} {failure : QueryFailure}
    (h : (raw v).parse field = .error failure) :
    (∃ tag, (CriterionFault.unsupported tag).IsOf v
        ∧ failure = .unsupported (.of field tag UnsupportedCriterion.supportedTags))
      ∨ (∃ variant ∈ Variant.field, v.HasTag (.str variant.tag)) ∧ ∃ cause, failure = .criterion field cause := by
  cases v with
  | obj members =>
      unfold parse at h
      simp only [tag] at h
      split at h
      · rename_i tag htag
        split at h
        · rename_i variant hvariant
          obtain ⟨hmem, rfl⟩ := Variant.ofTag?_eq_some_iff.1 hvariant
          obtain ⟨cause, -, rfl⟩ := mapError_eq_error.1 h
          exact .inr ⟨⟨variant, hmem, Json.hasTag_iff.2 htag⟩, cause, rfl⟩
        · rename_i hnone
          cases h
          refine .inl ⟨_, ⟨Json.hasTag_iff.2 rfl, fun word hword heq => ?_⟩, rfl⟩
          obtain ⟨variant, hvariant, rfl⟩ : ∃ variant ∈ Variant.field, variant.tag = word := List.mem_map.1 hword
          rw [htag] at heq
          cases heq
          cases (Variant.ofTag?_eq_some_iff.2 ⟨hvariant, rfl⟩).symm.trans hnone
      · rename_i tag hother
        cases h
        exact .inl ⟨_, ⟨Json.hasTag_iff.2 rfl, fun word _ => hother word⟩, rfl⟩
  | _ =>
      cases h
      refine .inl ⟨_, ⟨Json.hasTag_iff.2 rfl, fun word hword heq => ?_⟩, rfl⟩
      exact ValueKind.tagName_ne _ word hword (Json.str.inj heq)

theorem Clause.parseFields_eq_mapM (entries : List (String × Json)) :
    parseFields entries
      = entries.mapM fun entry => Prod.mk entry.1 <$> (Criterion.raw entry.2).parse entry.1 := by
  induction entries with
  | nil => rfl
  | cons entry entries ih =>
      obtain ⟨field, v⟩ := entry
      rw [List.mapM_cons, parseFields, ih]
      cases (Criterion.raw v).parse field <;> rfl

namespace CriterionFault

variable {v : Json}

theorem not_isOf_of_accepts (h : Form.field.Accepts v) (fault : CriterionFault) : ¬ fault.IsOf v := by
  intro hfault
  cases fault with
  | unsupported tag =>
      obtain ⟨htag, hnot⟩ := hfault
      obtain ⟨members, variant, rfl, ⟨hvariant, htype⟩, -⟩ := h
      rw [Json.hasTag_iff, Criterion.rawTag, htype, Option.getD_some] at htag
      exact hnot variant.tag (List.mem_map_of_mem (f := Variant.tag) hvariant) htag.symm
  | malformed => exact hfault h

theorem exists_first (hd : v.DistinctKeys) {field : String} {failure : QueryFailure}
    (h : (Criterion.raw v).parse field = .error failure) :
    ∃ fault, IsFirst rank (fun other => other.IsOf v) fault ∧ fault.ReportedBy field failure := by
  rcases Criterion.parse_raw_eq_error h with ⟨tag, hfault, rfl⟩ | ⟨⟨variant, hvariant, htag⟩, cause, rfl⟩
  · refine ⟨.unsupported tag, ⟨hfault, fun other hother => ?_⟩, _, rfl, rfl, rfl⟩
    cases other with
    | unsupported other =>
        have heq : other = tag := (Json.hasTag_iff.1 hother.1).symm.trans (Json.hasTag_iff.1 hfault.1)
        exact .inl (congrArg unsupported heq)
    | malformed => exact .inr (rank_lt_of_head (by decide))
  · have hmalformed : ¬ Form.field.Accepts v := by
      intro haccepts
      obtain ⟨criterion, hspells⟩ := Form.accepts_iff.1 haccepts
      cases (Criterion.parse_raw_eq_ok hd hspells).symm.trans h
    refine ⟨.malformed, ⟨hmalformed, fun other hother => ?_⟩, cause, rfl⟩
    cases other with
    | unsupported other =>
        have heq : Json.str variant.tag = other := (Json.hasTag_iff.1 htag).symm.trans (Json.hasTag_iff.1 hother.1)
        exact absurd heq.symm (hother.2 variant.tag (List.mem_map_of_mem (f := Variant.tag) hvariant))
    | malformed => exact .inl rfl

/-- Where declaration fields are not read, it is because of a first entry that has a fault. -/
theorem exists_first_entry {entries : List (String × Json)} (hd : (Json.obj entries).DistinctKeys)
    {failure : QueryFailure} (h : Clause.parseFields entries = .error failure) :
    ∃ (i : Nat) (field : String) (given : Json) (fault : CriterionFault),
      entries[i]? = some (field, given) ∧ IsFirst rank (fun other => other.IsOf given) fault
        ∧ fault.ReportedBy field failure
        ∧ ∀ j < i, ∀ entry, entries[j]? = some entry → ∀ other : CriterionFault, ¬ other.IsOf entry.2 := by
  rw [Clause.parseFields_eq_mapM] at h
  obtain ⟨i, ⟨field, given⟩, hentry, hfailure, hbefore⟩ := mapM_eq_error h
  rw [map_eq_error] at hfailure
  have hgiven : given.DistinctKeys := (Json.distinctKeys_obj.1 hd).2 _ (List.mem_of_getElem? hentry)
  obtain ⟨fault, hfirst, hreported⟩ := exists_first hgiven hfailure
  refine ⟨i, field, given, fault, hentry, hfirst, hreported, fun j hj entry hentry => ?_⟩
  obtain ⟨read, hread⟩ := hbefore j hj entry hentry
  obtain ⟨criterion, hcriterion, -⟩ := map_eq_ok.1 hread
  have haccepts : Form.field.Accepts entry.2 :=
    Form.accepts_iff.2 ⟨criterion, Criterion.parse_raw_spells hcriterion⟩
  exact not_isOf_of_accepts haccepts

end CriterionFault

/-! ### Clauses -/

namespace Clause

variable {members : List (String × Json)}

theorem not_hasWrongMember_iff :
    ¬ HasWrongMember members
      ↔ (∀ v, Json.get? members "eventType" = some v → v = .null ∨ ∃ s, v = .str s)
        ∧ ∀ field : RecordField, ∀ v, Json.get? members field.written.1 = some v →
          v = .null ∨ field.written.2.Accepts v := by
  unfold HasWrongMember
  rw [not_or]
  simp only [not_exists, not_and, not_forall, not_not, ne_eq, or_iff_not_imp_left]

/-- The members other than the declaration fields are read if none of them is wrong. -/
theorem hasWrongMember_of_error (hd : (Json.obj members).DistinctKeys) {cause : Fault}
    (h : ofMembers members = .error cause) : HasWrongMember members := by
  by_contra hnot
  -- Then every member spells something, and what is spelled is read.
  obtain ⟨htype, hrecord⟩ := not_hasWrongMember_iff.1 hnot
  obtain ⟨eventType, heventType⟩ := Slot.exists_iff.2 htype
  have hslots : ∀ field : RecordField, ∃ criterion,
      Slot field.written.2.Spells (Json.get? members field.wireName) criterion := by
    intro field
    apply Slot.exists_iff.2
    intro v hv
    rw [← RecordField.written_fst] at hv
    rw [← Form.accepts_iff]
    exact hrecord field v hv
  choose criterion hcriterion using hslots
  have hread : ofMembers members = .ok (ofCriteria eventType criterion none) := by
    refine ofMembers_eq_ok hd heventType (fun field => ?_) rfl
    rw [criterion_ofCriteria]
    exact hcriterion field
  cases hread.symm.trans h

theorem not_hasWrongMember_of_ok {clause : Clause} (h : ofMembers members = .ok clause) :
    ¬ HasWrongMember members := by
  obtain ⟨htype, hrecord⟩ := ofMembers_spells h
  refine not_hasWrongMember_iff.2 ⟨Slot.exists_iff.1 ⟨_, htype⟩, fun field v hv => ?_⟩
  rw [RecordField.written_fst] at hv
  rw [Form.accepts_iff]
  exact Slot.exists_iff.1 ⟨_, hrecord field⟩ v hv

end Clause

theorem Clause.parseFrom_eq_mapM (start : Nat) (values : List Json) :
    parseFrom start values = (values.zipIdx start).mapM fun value => parse value.2 value.1 := by
  induction values generalizing start with
  | nil => rfl
  | cons v values ih => rw [List.zipIdx_cons, List.mapM_cons, parseFrom, ih]

namespace ClauseFault

variable {v : Json} {members : List (String × Json)} {failure : QueryFailure}

theorem not_isOf_of_wellFormed (h : Clause.WellFormed v) (fault : ClauseFault) : ¬ fault.IsOf v := by
  obtain ⟨members, rfl, h⟩ := h
  intro hfault
  cases fault with
  | notAnObject => exact hfault members rfl
  | member =>
      obtain ⟨_, hobj, hwrong⟩ := hfault
      cases hobj
      exact Clause.not_hasWrongMember_iff.2 ⟨h.eventType, h.record⟩ hwrong
  | dataNotAnObject =>
      obtain ⟨_, data, hobj, hget, hnull, hentries⟩ := hfault
      cases hobj
      rcases h.data data hget with rfl | ⟨entries, rfl, -⟩
      · exact hnull rfl
      · exact hentries entries rfl
  | criterion position field fault =>
      obtain ⟨_, entries, given, hobj, hget, hentry, hfault⟩ := hfault
      cases hobj
      rcases h.data _ hget with hnull | ⟨_, hentries, haccepts⟩
      · cases hnull
      · cases hentries
        exact fault.not_isOf_of_accepts (haccepts _ (List.mem_of_getElem? hentry)) hfault

/-- Of a clause whose other members are in order, the first fault is that of its declaration fields. -/
theorem exists_first_data (hd : (Json.obj members).DistinctKeys) (hmember : ¬ Clause.HasWrongMember members)
    (index : Nat) (h : Clause.parseDataMember members = .error failure) :
    ∃ fault, IsFirst rank (fun other => other.IsOf (.obj members)) fault ∧ fault.ReportedBy index failure := by
  unfold Clause.parseDataMember at h
  split at h
  · cases h
  · cases h
  · rename_i data hnull hget
    rw [map_eq_error] at h
    unfold Clause.parseData at h
    split at h
    · rename_i entries
      obtain ⟨i, field, given, fault, hentry, hfirst, hreported, hnone⟩ :=
        CriterionFault.exists_first_entry (hd.get? hget) h
      refine ⟨.criterion i field fault, ⟨⟨members, entries, given, rfl, hget, hentry, hfirst.isThere⟩, ?_⟩, hreported⟩
      intro other hother
      cases other with
      | notAnObject => exact absurd rfl (hother members)
      | member =>
          obtain ⟨_, hobj, hwrong⟩ := hother
          cases hobj
          exact absurd hwrong hmember
      | dataNotAnObject =>
          obtain ⟨_, _, hobj, hdata, -, hentries⟩ := hother
          cases hobj
          cases hget.symm.trans hdata
          exact absurd rfl (hentries entries)
      | criterion position otherField other =>
          obtain ⟨_, _, otherGiven, hobj, hdata, hotherEntry, hother⟩ := hother
          cases hobj
          cases hget.symm.trans hdata
          rcases hfirst.eq_or_before (fun (fault : CriterionFault) (entry : String × Json) => fault.IsOf entry.2)
            hentry hnone hotherEntry hother with ⟨rfl, heq, rfl⟩ | hlt
          · cases heq
            exact .inl rfl
          · exact .inr (List.cons_lt_cons_iff.2 (.inr ⟨rfl, hlt⟩))
    · rename_i hentries
      cases h
      refine ⟨.dataNotAnObject, ⟨⟨members, data, rfl, hget, hnull, hentries⟩, fun other hother => ?_⟩, rfl⟩
      cases other with
      | notAnObject => exact absurd rfl (hother members)
      | member =>
          obtain ⟨_, hobj, hwrong⟩ := hother
          cases hobj
          exact absurd hwrong hmember
      | dataNotAnObject => exact .inl rfl
      | criterion position field other => exact .inr (rank_lt_of_head (by decide))

theorem exists_first (hd : v.DistinctKeys) {index : Nat} (h : Clause.parse index v = .error failure) :
    ∃ fault, IsFirst rank (fun other => other.IsOf v) fault ∧ fault.ReportedBy index failure := by
  cases v with
  | obj members =>
      rw [Clause.parse, bind_eq_error] at h
      rcases h with hmembers | ⟨clause, hclause, hrest⟩
      · obtain ⟨cause, hcause, rfl⟩ := mapError_eq_error.1 hmembers
        have hwrong := Clause.hasWrongMember_of_error hd hcause
        refine ⟨.member, ⟨⟨members, rfl, hwrong⟩, fun other hother => ?_⟩, cause, rfl⟩
        cases other with
        | notAnObject => exact absurd rfl (hother members)
        | member => exact .inl rfl
        | dataNotAnObject => exact .inr (rank_lt_of_head (by decide))
        | criterion position field other => exact .inr (rank_lt_of_head (by decide))
      · -- The declaration fields are looked at only after all other members have been read.
        have hmember := Clause.not_hasWrongMember_of_ok (mapError_eq_ok.1 hclause)
        rcases bind_eq_error.1 hrest with hdata | ⟨_, -, hpure⟩
        · exact exists_first_data hd hmember index hdata
        · cases hpure
  | _ =>
      cases h
      refine ⟨.notAnObject, ⟨fun members hobj => ?_, fun other hother => ?_⟩, rfl⟩
      · cases hobj
      · cases other with
        | notAnObject => exact .inl rfl
        | _ => exact .inr (rank_lt_of_head (by decide))

/-- Where clauses are not read, it is because of a first one that has a fault. -/
theorem exists_first_value {values : List Json} (hd : ∀ v ∈ values, v.DistinctKeys)
    (h : Clause.parseFrom 0 values = .error failure) :
    ∃ (i : Nat) (given : Json) (fault : ClauseFault),
      values[i]? = some given ∧ IsFirst rank (fun other => other.IsOf given) fault ∧ fault.ReportedBy i failure
        ∧ ∀ j < i, ∀ v, values[j]? = some v → ∀ other : ClauseFault, ¬ other.IsOf v := by
  rw [Clause.parseFrom_eq_mapM] at h
  obtain ⟨i, ⟨given, index⟩, hplace, hfailure, hbefore⟩ := mapM_eq_error h
  have hplaces : ∀ j : Nat, (values.zipIdx 0)[j]? = values[j]?.map fun v => (v, j) := by
    intro j
    rw [List.getElem?_zipIdx, Nat.zero_add]
  rw [hplaces] at hplace
  obtain ⟨v, hvalue, heq⟩ := Option.map_eq_some_iff.1 hplace
  cases heq
  obtain ⟨fault, hfirst, hreported⟩ := exists_first (hd _ (List.mem_of_getElem? hvalue)) hfailure
  refine ⟨i, given, fault, hvalue, hfirst, hreported, fun j hj v hv => ?_⟩
  obtain ⟨clause, hread⟩ := hbefore j hj (v, j) (by rw [hplaces, hv]; rfl)
  have hwell : Clause.WellFormed v := Clause.wellFormed_iff.2 ⟨clause, Clause.parse_spells hread⟩
  exact not_isOf_of_wellFormed hwell

end ClauseFault

/-! ### Payloads -/

theorem Query.clauseValues_eq_error {members : List (String × Json)} {failure : QueryFailure}
    (h : clauseValues members = .error failure) :
    failure = .clausesNotAnArray
      ∧ ∃ clauses, Json.get? members "clauses" = some clauses ∧ ∀ values, clauses ≠ .arr values := by
  unfold clauseValues at h
  split at h
  · cases h
  · cases h
  · rename_i clauses hother hget
    cases h
    exact ⟨rfl, clauses, hget, hother⟩

namespace PayloadFault

variable {v : Json} {members : List (String × Json)} {failure : QueryFailure}

/-- Of a payload whose operator is in order, the first fault is that of its clauses. -/
theorem exists_first_clause {values : List Json} (hd : (Json.obj members).DistinctKeys)
    (hvalues : Query.HasClauses members values) {operator : String}
    (hoperator : Json.get? members "type" = some (.str operator)) (h : Clause.parseFrom 0 values = .error failure) :
    ∃ fault, IsFirst rank (fun other => other.IsOf (.obj members)) fault ∧ fault.ReportedBy failure := by
  obtain ⟨i, given, fault, hvalue, hfirst, hreported, hnone⟩ :=
    ClauseFault.exists_first_value (hvalues.distinctKeys hd) h
  have hget : Json.get? members "clauses" = some (.arr values) := by
    rcases hvalues with hsome | ⟨-, rfl⟩
    · exact hsome
    · cases hvalue
  refine ⟨.clause i fault, ⟨⟨members, values, given, rfl, hget, hvalue, hfirst.isThere⟩, ?_⟩, hreported⟩
  intro other hother
  cases other with
  | notAnObject => exact absurd rfl (hother members)
  | clausesNotAnArray =>
      obtain ⟨_, clauses, hobj, hclauses, hvalues⟩ := hother
      cases hobj
      cases hget.symm.trans hclauses
      exact absurd rfl (hvalues values)
  | operatorNotText =>
      obtain ⟨_, hobj, hnot⟩ := hother
      cases hobj
      exact absurd hoperator (hnot operator)
  | clause index other =>
      obtain ⟨_, _, otherGiven, hobj, hclauses, hotherValue, hother⟩ := hother
      cases hobj
      cases hget.symm.trans hclauses
      rcases hfirst.eq_or_before ClauseFault.IsOf hvalue hnone hotherValue hother with ⟨rfl, rfl, rfl⟩ | hlt
      · exact .inl rfl
      · exact .inr (List.cons_lt_cons_iff.2 (.inr ⟨rfl, hlt⟩))

theorem exists_first (hd : v.DistinctKeys) (h : Query.ofJson v = .error failure) :
    ∃ fault, IsFirst rank (fun other => other.IsOf v) fault ∧ fault.ReportedBy failure := by
  cases v with
  | obj members =>
      rw [Query.ofJson, bind_eq_error] at h
      rcases h with hclauses | ⟨values, hvalues, hrest⟩
      · obtain ⟨rfl, clauses, hget, hnot⟩ := Query.clauseValues_eq_error hclauses
        refine ⟨.clausesNotAnArray, ⟨⟨members, clauses, rfl, hget, hnot⟩, fun other hother => ?_⟩, rfl⟩
        cases other with
        | notAnObject => exact absurd rfl (hother members)
        | clausesNotAnArray => exact .inl rfl
        | operatorNotText => exact .inr (rank_lt_of_head (by decide))
        | clause index other => exact .inr (rank_lt_of_head (by decide))
      · rw [Query.clauseValues_eq_ok_iff] at hvalues
        rcases bind_eq_error.1 hrest with hoperator | ⟨operator, hoperator, hrest⟩
        · obtain ⟨cause, hcause, rfl⟩ := mapError_eq_error.1 hoperator
          have hnot : ∀ operator, Json.get? members "type" ≠ some (.str operator) := by
            intro operator hget
            cases (Query.operator_eq_ok_iff.2 hget).symm.trans hcause
          refine ⟨.operatorNotText, ⟨⟨members, rfl, hnot⟩, fun other hother => ?_⟩, cause, rfl⟩
          cases other with
          | notAnObject => exact absurd rfl (hother members)
          | clausesNotAnArray =>
              obtain ⟨_, clauses, hobj, hclauses, hnot⟩ := hother
              cases hobj
              rcases hvalues with hsome | ⟨hnone, -⟩
              · cases hsome.symm.trans hclauses
                exact absurd rfl (hnot values)
              · cases hnone.symm.trans hclauses
          | operatorNotText => exact .inl rfl
          | clause index other => exact .inr (rank_lt_of_head (by decide))
        · rw [mapError_eq_ok, Query.operator_eq_ok_iff] at hoperator
          rcases bind_eq_error.1 hrest with hclauses | ⟨_, -, hpure⟩
          · exact exists_first_clause hd hvalues hoperator hclauses
          · cases hpure
  | _ =>
      cases h
      refine ⟨.notAnObject, ⟨fun members hobj => ?_, fun other hother => ?_⟩, rfl⟩
      · cases hobj
      · cases other with
        | notAnObject => exact .inl rfl
        | _ => exact .inr (rank_lt_of_head (by decide))

end PayloadFault

/-! ### The report -/

namespace Query

/-- A payload that is not read fails with the report of its first fault. The report is that of an unsupported criterion, with its field and its tag, exactly if the first fault is one, and it always begins by saying where the fault is. -/
theorem reports_first_fault (payload : Payload) (hd : payload.DistinctKeys) {v : Json} (hv : payload.decoded = .ok v)
    {failure : QueryFailure} (h : parse payload = .error failure) :
    ∃ fault : PayloadFault, IsFirst PayloadFault.rank (fun other => other.IsOf v) fault ∧ fault.ReportedBy failure
      ∧ ((∃ u, failure = .unsupported u)
        ↔ ∃ index position field tag, fault = .clause index (.criterion position field (.unsupported tag)))
      ∧ ∃ rest, failure.message = fault.heading ++ rest := by
  have hread : ofJson v = .error failure := by
    rw [parse, hv] at h
    exact h
  obtain ⟨fault, hfirst, hreported⟩ := PayloadFault.exists_first (payload.distinctKeys_of_decoded hd hv) hread
  exact ⟨fault, hfirst, hreported, PayloadFault.unsupported_iff hreported, PayloadFault.exists_message_eq hreported⟩

/-- A payload with wrong declaration fields in the first clause, and two more clauses that are wrong. -/
def faultyPayload : Json :=
  .obj [("type", .str "and"), ("clauses", .arr [
    .obj [
      ("data", .obj [
        ("child.name", .obj [("type", .str "fuzzy"), ("term", .str "Ana")]),
        ("child.dob", .obj [("term", .int 7), ("type", .str "exct")]),
        ("child.sex", .obj [("type", .str "range")])]),
      ("status", .null)],
    .str "birth",
    .obj [("eventType", .int 1)]])]

theorem reports_first_fault_faultyPayload :
    ((Payload.value faultyPayload).DistinctKeys ∧ (Payload.value faultyPayload).decoded = .ok faultyPayload
      ∧ parse (.value faultyPayload)
        = .error (.unsupported (.of "child.dob" (.str "exct") UnsupportedCriterion.supportedTags)))
      ∧ ∃ fault : PayloadFault, IsFirst PayloadFault.rank (fun other => other.IsOf faultyPayload) fault
        ∧ ∃ index position, fault = .clause index (.criterion position "child.dob" (.unsupported (.str "exct"))) := by
  have hd : (Payload.value faultyPayload).DistinctKeys := by
    simp [Payload.DistinctKeys, faultyPayload, Json.DistinctKeys, Json.DistinctKeysItems, Json.DistinctKeysMembers]
  have hread : parse (.value faultyPayload)
      = .error (.unsupported (.of "child.dob" (.str "exct") UnsupportedCriterion.supportedTags)) := by rfl
  obtain ⟨fault, hfirst, hreported, hiff, -⟩ := reports_first_fault (.value faultyPayload) hd rfl hread
  obtain ⟨index, position, field, tag, rfl⟩ := hiff.1 ⟨_, rfl⟩
  obtain ⟨u, hu, rfl, rfl⟩ := hreported
  cases hu
  exact ⟨⟨hd, rfl, hread⟩, _, hfirst, index, position, rfl⟩

end Query

end RegistrySearch
