import RegistrySearch.Proofs.Query.CriterionReading

/-!
# Reading is the grammar

Reading a decoded payload gives a query exactly if the payload spells it (`Query.ofJson_eq_ok_iff`). The two directions are put together from those of the criteria; only the one from the grammar to the reader asks for values without repeated keys.
-/

namespace RegistrySearch

/-! ### Clauses -/

namespace Clause

variable {members : List (String × Json)} {clause : Clause}

theorem ofChecked_eq_ok_iff :
    ofChecked members = .ok clause
      ↔ Members.optional Json.asTextOrNull members "eventType" = .ok clause.eventType
        ∧ (∀ field : RecordField,
          Members.optional field.criterion members field.wireName = .ok (clause.criterion field))
        ∧ clause.data = none := by
  unfold ofChecked
  simp only [bind_eq_ok, pure_eq_ok]
  constructor
  · intro h
    obtain ⟨type, htype, status, hstatus, trackingId, htrackingId, registeredAt, hregisteredAt,
      registeredAtLocation, hregisteredAtLocation, registrationNumber, hregistrationNumber, createdAt, hcreatedAt,
      updatedAt, hupdatedAt, createdAtLocation, hcreatedAtLocation, updatedAtLocation, hupdatedAtLocation, rfl⟩ := h
    refine ⟨htype, fun field => ?_, rfl⟩
    cases field with
    | status => exact hstatus
    | trackingId => exact htrackingId
    | registeredAt => exact hregisteredAt
    | registeredAtLocation => exact hregisteredAtLocation
    | registrationNumber => exact hregistrationNumber
    | createdAt => exact hcreatedAt
    | updatedAt => exact hupdatedAt
    | createdAtLocation => exact hcreatedAtLocation
    | updatedAtLocation => exact hupdatedAtLocation
  · intro h
    obtain ⟨htype, hfields, hdata⟩ := h
    refine ⟨_, htype, _, hfields .status, _, hfields .trackingId, _, hfields .registeredAt, _,
      hfields .registeredAtLocation, _, hfields .registrationNumber, _, hfields .createdAt, _, hfields .updatedAt, _,
      hfields .createdAtLocation, _, hfields .updatedAtLocation, ?_⟩
    rw [← ofCriteria_criterion clause, hdata]
    rfl

theorem ofMembers_spells (h : ofMembers members = .ok clause) :
    Slot (fun v type => v = .str type) (Json.get? members "eventType") clause.eventType
      ∧ ∀ field : RecordField,
        Slot field.written.2.Spells (Json.get? members field.wireName) (clause.criterion field) := by
  unfold ofMembers at h
  rw [Members.check_bind_eq_ok_iff, ofChecked_eq_ok_iff] at h
  obtain ⟨-, htype, hfields, -⟩ := h
  refine ⟨Members.optional_spells (fun v => Json.asTextOrNull_eq_ok_iff.1) htype, fun field => ?_⟩
  exact Members.optional_spells (fun v => RecordField.criterion_spells) (hfields field)

/-- What stands in the places of a clause passes the check of the members. -/
theorem checkMember_eq_ok (hd : (Json.obj members).DistinctKeys) {key : String} {value : Json}
    (hget : Json.get? members key = some value)
    (htype : Slot (fun v type => v = .str type) (Json.get? members "eventType") clause.eventType)
    (hfields : ∀ field : RecordField,
      Slot field.written.2.Spells (Json.get? members field.wireName) (clause.criterion field)) :
    checkMember key value = .ok () := by
  unfold checkMember
  split
  · rename_i hkey
    rw [hkey] at hget
    rw [hget] at htype
    exact seqRight_eq_ok.2 ⟨⟨_, Json.asTextOrNull_eq_ok_iff.2 htype⟩, rfl⟩
  · split
    · rename_i field hfield
      have hslot := hfields field
      rw [RecordField.wireName_of_ofWireName? hfield, hget] at hslot
      exact seqRight_eq_ok.2 ⟨⟨_, RecordField.criterion_eq_ok (hd.get? hget) hslot⟩, rfl⟩
    · rfl

theorem ofMembers_eq_ok (hd : (Json.obj members).DistinctKeys)
    (htype : Slot (fun v type => v = .str type) (Json.get? members "eventType") clause.eventType)
    (hfields : ∀ field : RecordField,
      Slot field.written.2.Spells (Json.get? members field.wireName) (clause.criterion field))
    (hdata : clause.data = none) : ofMembers members = .ok clause := by
  unfold ofMembers
  rw [Members.check_bind_eq_ok_iff, ofChecked_eq_ok_iff]
  refine ⟨?_, ?_, fun field => ?_, hdata⟩
  · intro member hmember
    obtain ⟨key, value⟩ := member
    exact checkMember_eq_ok hd (Json.get?_of_mem (Json.distinctKeys_obj.1 hd).1 hmember) htype hfields
  · exact Members.optional_eq_ok (fun v _ => Json.asTextOrNull_eq_ok_iff.2) htype
  · exact Members.optional_eq_ok (fun v hget => RecordField.criterion_eq_ok (hd.get? hget)) (hfields field)

theorem parseFields_eq_ok_iff {data : List (String × Criterion)} :
    parseFields members = .ok data
      ↔ List.Forall₂ (fun member entry => entry.1 = member.1 ∧ (Criterion.raw member.2).parse member.1 = .ok entry.2)
        members data := by
  induction members generalizing data with
  | nil =>
      rw [List.forall₂_nil_left_iff]
      exact ⟨fun h => by cases h; rfl, fun h => by cases h; rfl⟩
  | cons member members ih =>
      obtain ⟨id, v⟩ := member
      rw [parseFields, List.forall₂_cons_left_iff, bind_eq_ok]
      constructor
      · intro h
        obtain ⟨criterion, hcriterion, hrest⟩ := h
        obtain ⟨others, hothers, hdata⟩ := bind_eq_ok.1 hrest
        cases hdata
        exact ⟨(id, criterion), others, ⟨rfl, hcriterion⟩, ih.1 hothers, rfl⟩
      · intro h
        obtain ⟨⟨_, criterion⟩, others, ⟨rfl, hcriterion⟩, hothers, rfl⟩ := h
        exact ⟨criterion, hcriterion, bind_eq_ok.2 ⟨others, ih.2 hothers, rfl⟩⟩

theorem parseData_spells {v : Json} {data : List (String × Criterion)} (h : parseData v = .ok data) :
    SpellsData v data := by
  cases v with
  | obj members =>
      refine ⟨members, rfl, (parseFields_eq_ok_iff.1 h).imp fun member entry hentry => ?_⟩
      exact ⟨hentry.1, Criterion.parse_raw_spells hentry.2⟩
  | _ => cases h

theorem parseData_eq_ok {v : Json} (hd : v.DistinctKeys) {data : List (String × Criterion)}
    (h : SpellsData v data) : parseData v = .ok data := by
  obtain ⟨members, rfl, hspells⟩ := h
  have hboth := (List.forall₂_and_left _ _).2 ⟨(Json.distinctKeys_obj.1 hd).2, hspells⟩
  refine parseFields_eq_ok_iff.2 (hboth.imp fun member entry hentry => ?_)
  exact ⟨hentry.2.1, Criterion.parse_raw_eq_ok hentry.1 hentry.2.2⟩

theorem parseDataMember_spells {data : Option (List (String × Criterion))}
    (h : parseDataMember members = .ok data) : Slot SpellsData (Json.get? members "data") data := by
  unfold parseDataMember at h
  split at h
  · rename_i hget
    cases h
    rw [hget]
    exact .absent
  · rename_i hget
    cases h
    rw [hget]
    exact .null
  · rename_i v _ hget
    obtain ⟨entries, hentries, rfl⟩ := map_eq_ok.1 h
    rw [hget]
    exact .given (parseData_spells hentries)

theorem parseDataMember_eq_ok (hd : (Json.obj members).DistinctKeys) {data : Option (List (String × Criterion))}
    (h : Slot SpellsData (Json.get? members "data") data) : parseDataMember members = .ok data := by
  unfold parseDataMember
  cases hget : Json.get? members "data" with
  | none =>
      rw [hget] at h
      cases h
      rfl
  | some v =>
      rw [hget] at h
      cases h with
      | null => rfl
      | given h =>
          have hobj := h
          obtain ⟨entries, rfl, -⟩ := hobj
          exact map_eq_ok.2 ⟨_, parseData_eq_ok (hd.get? hget) h, rfl⟩

/-- The place of a clause in its query decides only how a failure is reported. -/
theorem parse_eq_ok_iff {v : Json} {index : Int} :
    parse index v = .ok clause
      ↔ ∃ members, v = .obj members ∧ ofMembers members = .ok { clause with data := none }
        ∧ parseDataMember members = .ok clause.data := by
  cases v with
  | obj members =>
      rw [parse, bind_eq_ok]
      constructor
      · intro h
        obtain ⟨read, hread, hrest⟩ := h
        obtain ⟨data, hdata, hclause⟩ := bind_eq_ok.1 hrest
        cases hclause
        have hmembers := mapError_eq_ok.1 hread
        have hnone : read.data = none := (ofChecked_eq_ok_iff.1 (Members.check_bind_eq_ok_iff.1 hmembers).2).2.2
        refine ⟨members, rfl, ?_, hdata⟩
        rw [hmembers, ← hnone]
      · intro h
        obtain ⟨_, hobj, hmembers, hdata⟩ := h
        cases hobj
        exact ⟨{ clause with data := none }, mapError_eq_ok.2 hmembers, bind_eq_ok.2 ⟨clause.data, hdata, rfl⟩⟩
  | _ =>
      apply iff_of_false
      · intro h
        cases h
      · intro h
        obtain ⟨_, hobj, -⟩ := h
        cases hobj

theorem parse_spells {v : Json} {index : Int} (h : parse index v = .ok clause) : clause.SpelledBy v := by
  obtain ⟨members, rfl, hmembers, hdata⟩ := parse_eq_ok_iff.1 h
  obtain ⟨htype, hfields⟩ := ofMembers_spells hmembers
  refine ⟨members, rfl, htype, fun field => ?_, parseDataMember_spells hdata⟩
  have hfield := hfields field
  rw [criterion_with_data] at hfield
  rw [RecordField.written_fst]
  exact hfield

theorem parse_eq_ok {v : Json} (hd : v.DistinctKeys) {index : Int} (h : clause.SpelledBy v) :
    parse index v = .ok clause := by
  obtain ⟨members, rfl, htype, hfields, hdata⟩ := h
  have hread : ofMembers members = .ok { clause with data := none } := by
    refine ofMembers_eq_ok hd htype (fun field => ?_) rfl
    rw [criterion_with_data, ← RecordField.written_fst]
    exact hfields field
  exact parse_eq_ok_iff.2 ⟨members, rfl, hread, parseDataMember_eq_ok hd hdata⟩

theorem parseFrom_eq_ok_iff {values : List Json} {index : Nat} {clauses : List Clause} :
    parseFrom index values = .ok clauses
      ↔ List.Forall₂ (fun v clause => ∀ place, parse place v = .ok clause) values clauses := by
  induction values generalizing index clauses with
  | nil =>
      rw [List.forall₂_nil_left_iff]
      exact ⟨fun h => by cases h; rfl, fun h => by cases h; rfl⟩
  | cons v values ih =>
      rw [parseFrom, List.forall₂_cons_left_iff, bind_eq_ok]
      constructor
      · intro h
        obtain ⟨clause, hclause, hrest⟩ := h
        obtain ⟨others, hothers, hclauses⟩ := bind_eq_ok.1 hrest
        cases hclauses
        rw [parse_eq_ok_iff] at hclause
        exact ⟨clause, others, fun place => parse_eq_ok_iff.2 hclause, ih.1 hothers, rfl⟩
      · intro h
        obtain ⟨clause, others, hclause, hothers, rfl⟩ := h
        exact ⟨clause, hclause index, bind_eq_ok.2 ⟨others, ih.2 hothers, rfl⟩⟩

end Clause

/-! ### Queries -/

namespace Query

variable {members : List (String × Json)}

theorem clauseValues_eq_ok_iff {values : List Json} :
    clauseValues members = .ok values ↔ HasClauses members values := by
  unfold clauseValues HasClauses
  split
  · rename_i hget
    simp [hget, eq_comm]
  · rename_i clauses hget
    simp [hget]
  · rename_i v hother hget
    apply iff_of_false
    · intro h
      cases h
    · intro h
      rw [hget] at h
      rcases h with hsome | ⟨hnone, -⟩
      · exact hother values (Option.some.inj hsome)
      · cases hnone

theorem operator_eq_ok_iff {operator : String} :
    ((Json.get? members "type").getD .null).asText = .ok operator
      ↔ Json.get? members "type" = some (.str operator) := by
  rw [Json.asText_eq_ok_iff]
  cases Json.get? members "type" <;> simp

/-- What is read is spelled by the value, also if it repeats keys. -/
theorem ofJson_spells {v : Json} {query : Query} (h : ofJson v = .ok query) : query.SpelledBy v := by
  cases v with
  | obj members =>
      obtain ⟨values, hvalues, hrest⟩ := bind_eq_ok.1 h
      obtain ⟨operator, hoperator, hrest⟩ := bind_eq_ok.1 hrest
      obtain ⟨clauses, hclauses, hquery⟩ := bind_eq_ok.1 hrest
      cases hquery
      rw [mapError_eq_ok, operator_eq_ok_iff] at hoperator
      refine ⟨members, values, rfl, hoperator, clauseValues_eq_ok_iff.1 hvalues, ?_⟩
      exact (Clause.parseFrom_eq_ok_iff.1 hclauses).imp fun value clause hclause => Clause.parse_spells (hclause 0)
  | _ => cases h

theorem HasClauses.distinctKeys {values : List Json} (h : HasClauses members values)
    (hd : (Json.obj members).DistinctKeys) : ∀ v ∈ values, v.DistinctKeys := by
  rcases h with hsome | ⟨-, rfl⟩
  · exact Json.distinctKeys_arr.1 (hd.get? hsome)
  · exact fun v hv => absurd hv List.not_mem_nil

theorem ofJson_eq_ok {v : Json} (hd : v.DistinctKeys) {query : Query} (h : query.SpelledBy v) :
    ofJson v = .ok query := by
  obtain ⟨members, values, rfl, hoperator, hvalues, hclauses⟩ := h
  have hboth := (List.forall₂_and_left _ _).2 ⟨hvalues.distinctKeys hd, hclauses⟩
  refine bind_eq_ok.2 ⟨values, clauseValues_eq_ok_iff.2 hvalues, bind_eq_ok.2 ⟨query.operator, ?_, ?_⟩⟩
  · rw [mapError_eq_ok, operator_eq_ok_iff]
    exact hoperator
  · refine bind_eq_ok.2 ⟨query.clauses, Clause.parseFrom_eq_ok_iff.2 (hboth.imp fun value clause hclause => ?_), rfl⟩
    exact fun place => Clause.parse_eq_ok hclause.1 hclause.2

/-- Reading gives exactly the query that a value spells. -/
theorem ofJson_eq_ok_iff {v : Json} (hd : v.DistinctKeys) {query : Query} :
    ofJson v = .ok query ↔ query.SpelledBy v :=
  ⟨ofJson_spells, ofJson_eq_ok hd⟩

theorem exists_decoded_of_parse {payload : Payload} {query : Query} (h : parse payload = .ok query) :
    ∃ v, payload.decoded = .ok v ∧ ofJson v = .ok query := by
  obtain ⟨v, hv, hquery⟩ := bind_eq_ok.1 h
  exact ⟨v, mapError_eq_ok.1 hv, hquery⟩

theorem declared_of_parse {payload : Payload} {query : Query} (h : parse payload = .ok query) : query.Declared := by
  obtain ⟨v, -, hread⟩ := exists_decoded_of_parse h
  exact (ofJson_spells hread).declared

/-- A decoded value is taken as it is, unless it is a string, which is text to be decoded. -/
theorem parse_value {v : Json} (hv : ∀ s, v ≠ .str s) : parse (.value v) = ofJson v := by
  cases v with
  | str s => exact absurd rfl (hv s)
  | _ => rfl

/-- A decoded value is read as a query exactly if the grammar takes it, and then as the query that it spells. -/
theorem parse_value_iff (v : Json) (hv : ∀ s, v ≠ .str s) (hd : v.DistinctKeys) :
    ((∃ query, parse (.value v) = .ok query) ↔ WellFormed v)
      ∧ ∀ query, parse (.value v) = .ok query ↔ query.SpelledBy v := by
  simp only [parse_value hv, ofJson_eq_ok_iff hd, wellFormed_iff, implies_true, and_self]

/-- A payload with null and unknown members, an identifier without a tag, and one clause whose declaration fields are none. -/
def fullPayload : Json :=
  .obj [("version", .int 2), ("type", .str "nand"), ("clauses", .arr [
    .obj [("eventType", .null), ("status", .obj [("terms", .arr []), ("type", .str "anyOf")]),
      ("trackingId", .obj [("term", .str "B-1")]), ("unknown", .bool true),
      ("createAtLocation", .obj [("type", .str "within"), ("location", .str "12.5,90.1")]),
      ("data", .obj [
        ("child.dob", .obj [("type", .str "range"), ("lte", .str "2020-12-31"), ("gte", .str "2020-01-01")]),
        ("child.name", .obj [("type", .str "fuzzy"), ("term", .str "Ana")])])],
    .obj [("data", .obj [])]])]

def fullQuery : Query :=
  ⟨"nand", [
    { status := some (.anyOf [])
      trackingId := some (.exact "B-1")
      createdAtLocation := some (.within "12.5,90.1")
      data := some [("child.dob", .range "2020-01-01" "2020-12-31"), ("child.name", .fuzzy "Ana")] },
    { data := some [] }]⟩

theorem parse_value_fullPayload :
    (∀ s, fullPayload ≠ .str s) ∧ fullPayload.DistinctKeys ∧ WellFormed fullPayload
      ∧ fullQuery.SpelledBy fullPayload := by
  have hv : ∀ s, fullPayload ≠ .str s := nofun
  have hd : fullPayload.DistinctKeys := by
    simp [fullPayload, Json.DistinctKeys, Json.DistinctKeysItems, Json.DistinctKeysMembers]
  have hread : parse (.value fullPayload) = .ok fullQuery := by rfl
  obtain ⟨hwell, hspelled⟩ := parse_value_iff fullPayload hv hd
  exact ⟨hv, hd, hwell.1 ⟨fullQuery, hread⟩, (hspelled fullQuery).1 hread⟩

end Query

end RegistrySearch
