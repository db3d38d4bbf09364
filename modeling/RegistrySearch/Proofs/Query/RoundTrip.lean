import RegistrySearch.Proofs.Json.RoundTrip
import RegistrySearch.Proofs.Query.Reading

/-!
# Written queries read back

The wire form of a query of declared variants is read as that query, handed over as a value, as text or as octets (`Query.Declared.readsBack`). The two sides meet at the grammar: what is written spells the query (`Query.Declared.spelledBy_toJson`), it repeats no key and has no numbers, and what spells a query is read as that query.
-/

namespace RegistrySearch

/-! ### Criteria -/

/-- A criterion is written as one of its place if its variant is one of the place. -/
theorem Form.spells_toJson {form : Form} {criterion : Criterion} (h : criterion.IsOneOf form.variants) :
    form.Spells criterion.toJson criterion := by
  obtain ⟨variant, hvariant, hcriterion⟩ := h
  have hallows : ∀ members, Json.get? members "type" = some (.str variant.tag) → form.Allows members variant := by
    intro members htype
    cases form with
    | tagged variants => exact ⟨hvariant, htype⟩
    | single only =>
        have honly := List.mem_singleton.1 hvariant
        refine ⟨honly, fun tag htag => ?_⟩
        rw [htype] at htag
        rw [← honly, Option.some.inj htag]
  cases criterion with
  | exact term =>
      cases hcriterion
      exact ⟨_, _, rfl, hallows _ rfl, rfl, rfl⟩
  | fuzzy term =>
      cases hcriterion
      exact ⟨_, _, rfl, hallows _ rfl, rfl, rfl⟩
  | anyOf terms =>
      cases hcriterion
      exact ⟨_, _, rfl, hallows _ rfl, rfl, rfl⟩
  | range gte lte =>
      cases hcriterion
      exact ⟨_, _, rfl, hallows _ rfl, rfl, rfl, rfl⟩
  | within location =>
      cases hcriterion
      exact ⟨_, _, rfl, hallows _ rfl, rfl, rfl⟩
  | raw value => cases hcriterion

theorem Criterion.writable_toJson {criterion : Criterion} {variants : List Variant} (h : criterion.IsOneOf variants) :
    criterion.toJson.Writable := by
  obtain ⟨variant, -, hcriterion⟩ := h
  cases criterion with
  | anyOf terms => exact Json.writable_obj (by simp) (by simp [Json.writable_str, Json.writable_strings])
  | raw value => cases hcriterion
  | _ => exact Json.writable_obj (by simp) (by simp [Json.writable_str])

/-! ### Clauses -/

namespace Clause

/-- The places of a clause in its wire form, with what is written there. -/
def places (clause : Clause) : List (String × Option Json) :=
  ("eventType", clause.eventType.map .str)
    :: (RecordField.all.map fun field => (field.wireName, (clause.criterion field).map Criterion.toJson))
    ++ [("data", clause.data.map dataToJson)]

theorem toJson_eq (clause : Clause) : clause.toJson = .obj (clause.places.filterMap Json.member?) := by
  have hrecord : (RecordField.all.map fun field =>
      (field.wireName, (clause.criterion field).map Criterion.toJson)).filterMap Json.member?
        = RecordField.all.filterMap fun field =>
          (clause.criterion field).map fun criterion => (field.wireName, criterion.toJson) := by
    rw [List.filterMap_map]
    apply List.filterMap_congr
    intro field _
    rw [Function.comp, Json.member?, Option.map_map]
    rfl
  rw [toJson, places, List.filterMap_append, List.filterMap_cons, hrecord]
  cases clause.eventType <;> cases clause.data <;> rfl

theorem nodup_places (clause : Clause) : (clause.places.map (·.1)).Nodup := by
  change ["eventType", "status", "trackingId", "legalStatus.REGISTERED.createdAt",
    "legalStatus.REGISTERED.createdAtLocation", "registrationNumber", "createdAt", "updatedAt", "createAtLocation",
    "updatedAtLocation", "data"].Nodup
  decide

theorem get?_of_mem_places {clause : Clause} {key : String} {value : Option Json}
    (h : (key, value) ∈ clause.places) : Json.get? (clause.places.filterMap Json.member?) key = value :=
  Json.get?_filterMap_member? clause.nodup_places h

theorem spellsData_dataToJson {data : List (String × Criterion)}
    (h : ∀ entry ∈ data, entry.2.IsOneOf Variant.field) : SpellsData (dataToJson data) data := by
  refine ⟨_, rfl, ?_⟩
  rw [List.forall₂_map_left_iff, List.forall₂_same]
  intro entry hentry
  exact ⟨rfl, Form.spells_toJson (h entry hentry)⟩

/-- A slot that is filled by writing what it holds. -/
theorem slot_map {α : Type} {spells : Json → α → Prop} {write : α → Json} {x : Option α}
    (h : ∀ y, x = some y → spells (write y) y) : Slot spells (x.map write) x := by
  cases x with
  | none => exact .absent
  | some y => exact .given (h y rfl)

theorem Declared.spelledBy_toJson {clause : Clause} (h : clause.Declared) : clause.SpelledBy clause.toJson := by
  refine ⟨_, clause.toJson_eq, ?_, fun field => ?_, ?_⟩
  · rw [get?_of_mem_places (List.mem_append_left _ List.mem_cons_self)]
    exact slot_map fun type _ => rfl
  · have hplace : (field.wireName, (clause.criterion field).map Criterion.toJson) ∈ clause.places := by
      refine List.mem_append_left _ (List.mem_cons_of_mem _ ?_)
      exact List.mem_map.2 ⟨field, field.mem_all, rfl⟩
    rw [RecordField.written_fst, get?_of_mem_places hplace]
    apply slot_map
    intro criterion hc
    apply Form.spells_toJson
    rw [field.variants_written]
    exact h.record field criterion hc
  · rw [get?_of_mem_places (List.mem_append_right _ List.mem_cons_self)]
    exact slot_map fun data hdata => spellsData_dataToJson (h.data data hdata)

/-- No declaration field is given two criteria. -/
def DistinctFields (clause : Clause) : Prop :=
  ∀ data, clause.data = some data → (data.map (·.1)).Nodup

theorem writable_dataToJson {data : List (String × Criterion)} (hnodup : (data.map (·.1)).Nodup)
    (h : ∀ entry ∈ data, entry.2.IsOneOf Variant.field) : (dataToJson data).Writable := by
  apply Json.writable_obj
  · rw [List.map_map]
    exact hnodup
  · intro member hmember
    obtain ⟨entry, hentry, rfl⟩ := List.mem_map.1 hmember
    exact Criterion.writable_toJson (h entry hentry)

theorem Declared.writable_toJson {clause : Clause} (h : clause.Declared) (hd : clause.DistinctFields) :
    clause.toJson.Writable := by
  rw [toJson_eq]
  apply Json.writable_obj (Json.nodup_filterMap_member? clause.nodup_places)
  intro member hmember
  have hplace := Json.mem_filterMap_member?.1 hmember
  rw [places, List.mem_append, List.mem_cons, List.mem_singleton, List.mem_map] at hplace
  rcases hplace with (htype | ⟨field, -, hfield⟩) | hdata
  · obtain ⟨type, -, hvalue⟩ := Option.map_eq_some_iff.1 (Prod.mk.inj htype).2.symm
    rw [← hvalue]
    exact Json.writable_str type
  · obtain ⟨criterion, hc, hvalue⟩ := Option.map_eq_some_iff.1 (Prod.mk.inj hfield).2
    rw [← hvalue]
    exact Criterion.writable_toJson (h.record field criterion hc)
  · obtain ⟨data, hc, hvalue⟩ := Option.map_eq_some_iff.1 (Prod.mk.inj hdata).2.symm
    rw [← hvalue]
    exact writable_dataToJson (hd data hc) (h.data data hc)

end Clause

/-! ### Queries -/

/-- The criteria of declaration fields are keyed by different ids when a value without repeated keys spells them. -/
theorem SpellsData.nodup {v : Json} {data : List (String × Criterion)} (h : SpellsData v data)
    (hd : v.DistinctKeys) : (data.map (·.1)).Nodup := by
  obtain ⟨members, rfl, hspells⟩ := h
  have hkeys : data.map (·.1) = members.map (·.1) := by
    rw [← List.forall₂_eq_eq_eq, List.forall₂_map_left_iff, List.forall₂_map_right_iff]
    exact hspells.flip.imp fun entry member hentry => hentry.1
  rw [hkeys]
  exact (Json.distinctKeys_obj.1 hd).1

theorem Clause.SpelledBy.distinctFields {v : Json} {clause : Clause} (h : clause.SpelledBy v)
    (hd : v.DistinctKeys) : clause.DistinctFields := by
  obtain ⟨members, rfl, -, -, hdata⟩ := h
  intro data hc
  rw [hc] at hdata
  obtain ⟨member, hget, hspells⟩ := Slot.eq_some_iff.1 hdata
  exact hspells.nodup (hd.get? hget)

namespace Query

def DistinctFields (query : Query) : Prop :=
  ∀ clause ∈ query.clauses, clause.DistinctFields

theorem SpelledBy.distinctFields {v : Json} {query : Query} (h : query.SpelledBy v) (hd : v.DistinctKeys) :
    query.DistinctFields := by
  obtain ⟨members, values, rfl, -, hvalues, hclauses⟩ := h
  intro clause hclause
  have hboth := (List.forall₂_and_left _ _).2 ⟨hvalues.distinctKeys hd, hclauses⟩
  obtain ⟨value, hdistinct, hspelled⟩ := exists_forall₂_iff.1 ⟨values, hboth.flip⟩ clause hclause
  exact Clause.SpelledBy.distinctFields hspelled hdistinct

theorem Declared.spelledBy_toJson {query : Query} (h : query.Declared) : query.SpelledBy query.toJson := by
  refine ⟨_, query.clauses.map Clause.toJson, rfl, rfl, .inl rfl, ?_⟩
  rw [List.forall₂_map_left_iff, List.forall₂_same]
  exact fun clause hclause => (h clause hclause).spelledBy_toJson

theorem Declared.writable_toJson {query : Query} (h : query.Declared) (hd : query.DistinctFields) :
    query.toJson.Writable := by
  have hclauses : (Json.arr (query.clauses.map Clause.toJson)).Writable :=
    Json.writable_map fun clause hclause => (h clause hclause).writable_toJson (hd clause hclause)
  exact Json.writable_obj (by simp) (by simp [Json.writable_str, hclauses])

/-- The query is read from its wire form, handed over as a value, as text or as octets. -/
structure ReadsBack (query : Query) : Prop where
  value : parse (.value query.toJson) = .ok query
  text : parse (.text query.toJson.text) = .ok query
  octets : parse (.octets (Utf8.encode query.toJson.text.toList)) = .ok query

theorem Declared.readsBack {query : Query} (h : query.Declared) (hd : query.DistinctFields) : query.ReadsBack := by
  have hwritable := h.writable_toJson hd
  have hread := ofJson_eq_ok hwritable.distinctKeys h.spelledBy_toJson
  constructor
  · exact hread
  · rw [parse, Payload.decoded, hwritable.ofText]
    exact hread
  · rw [parse, Payload.decoded, hwritable.ofOctets]
    exact hread

/-- Every query of declared variants is read back from what it is written as, and so is every query that was read from a payload. -/
theorem reads_back_written :
    (∀ query : Query, query.Declared → query.DistinctFields → query.ReadsBack)
      ∧ ∀ (payload : Payload) (query : Query), payload.DistinctKeys → parse payload = .ok query →
        query.ReadsBack := by
  constructor
  · exact fun query hdeclared hdistinct => hdeclared.readsBack hdistinct
  · intro payload query hd hparse
    obtain ⟨v, hv, hread⟩ := exists_decoded_of_parse hparse
    have hspelled := ofJson_spells hread
    exact hspelled.declared.readsBack (hspelled.distinctFields (Payload.distinctKeys_of_decoded hd hv))

/-- A query with characters that are escaped, an empty list of terms and a clause whose declaration fields are none. -/
def escapedQuery : Query :=
  ⟨"n\"or\x01", [
    { createdAtLocation := some (.within "12.5,90.1")
      registeredAtLocation := some (.range "\\" "\n\u00e9\u20ac")
      data := some [("child.name", .fuzzy "Ana\t\x1f"), ("", .anyOf [])] },
    { registrationNumber := some (.exact ""), data := some [] }]⟩

/-- The text of a search for anything, with an escaped letter and a key that comes twice. -/
def repeatedKeyText : String :=
  "\x7b\"clauses\":[\x7b\x7d],\"type\":\"and\",\"type\":\"\\u006fr\"\x7d"

theorem reads_back_written_escapedQuery :
    (escapedQuery.Declared ∧ escapedQuery.DistinctFields ∧ escapedQuery.ReadsBack)
      ∧ (Payload.text repeatedKeyText).DistinctKeys ∧ parse (.text repeatedKeyText) = .ok (anyOf [{}])
        ∧ (anyOf [{}]).ReadsBack := by
  obtain ⟨hwritten, hread⟩ := reads_back_written
  have hdeclared : escapedQuery.Declared := by decide
  have hfields : escapedQuery.DistinctFields := by simp [DistinctFields, Clause.DistinctFields, escapedQuery]
  have hkeys : (Payload.text repeatedKeyText).DistinctKeys := trivial
  have hparse : parse (.text repeatedKeyText) = .ok (anyOf [{}]) := by decide +kernel
  exact ⟨⟨hdeclared, hfields, hwritten escapedQuery hdeclared hfields⟩, hkeys, hparse, hread _ _ hkeys hparse⟩

end Query

end RegistrySearch
