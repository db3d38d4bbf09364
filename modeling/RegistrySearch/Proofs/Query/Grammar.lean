import RegistrySearch.Proofs.Except
import RegistrySearch.Proofs.Query.Declared

/-!
# The grammar of search payloads

What a payload has to look like, and which query it spells, without a reader. A criterion is an object with the members of its variant, and its tag says which variant that is. Every record field has a `Form`: the key that it is written under and the criteria that it takes. Members of a clause can be absent or null, keys that the grammar does not know are passed over, and the criteria of declaration fields keep their order.

`Query.WellFormed` is the grammar and `Query.SpelledBy` the query that a payload spells. A value is well formed exactly if it spells a query (`Query.wellFormed_iff`).
-/

namespace RegistrySearch

/-! ### Criteria -/

/-- The object has the members of the variant, each of the right kind. -/
def Variant.HasMembers (members : List (String × Json)) : Variant → Prop
  | .exact | .fuzzy => ∃ term, Json.get? members "term" = some (.str term)
  | .anyOf => ∃ terms, Json.get? members "terms" = some (Json.strings terms)
  | .range => (∃ gte, Json.get? members "gte" = some (.str gte)) ∧ ∃ lte, Json.get? members "lte" = some (.str lte)
  | .within => ∃ location, Json.get? members "location" = some (.str location)

/-- The members of the object are those of the criterion. -/
def Criterion.SpelledBy (members : List (String × Json)) : Criterion → Prop
  | .exact term | .fuzzy term => Json.get? members "term" = some (.str term)
  | .anyOf terms => Json.get? members "terms" = some (Json.strings terms)
  | .range gte lte => Json.get? members "gte" = some (.str gte) ∧ Json.get? members "lte" = some (.str lte)
  | .within location => Json.get? members "location" = some (.str location)
  | .raw _ => False

theorem Variant.hasMembers_iff {variant : Variant} {members : List (String × Json)} :
    variant.HasMembers members
      ↔ ∃ criterion : Criterion, criterion.variant? = some variant ∧ criterion.SpelledBy members := by
  constructor
  · intro h
    cases variant with
    | exact => obtain ⟨term, hterm⟩ := h; exact ⟨.exact term, rfl, hterm⟩
    | fuzzy => obtain ⟨term, hterm⟩ := h; exact ⟨.fuzzy term, rfl, hterm⟩
    | anyOf => obtain ⟨terms, hterms⟩ := h; exact ⟨.anyOf terms, rfl, hterms⟩
    | range => obtain ⟨⟨gte, hgte⟩, lte, hlte⟩ := h; exact ⟨.range gte lte, rfl, hgte, hlte⟩
    | within => obtain ⟨location, hlocation⟩ := h; exact ⟨.within location, rfl, hlocation⟩
  · intro h
    obtain ⟨criterion, hvariant, h⟩ := h
    cases criterion with
    | exact term => cases hvariant; exact ⟨term, h⟩
    | fuzzy term => cases hvariant; exact ⟨term, h⟩
    | anyOf terms => cases hvariant; exact ⟨terms, h⟩
    | range gte lte => cases hvariant; exact ⟨⟨gte, h.1⟩, lte, h.2⟩
    | within location => cases hvariant; exact ⟨location, h⟩
    | raw value => exact h.elim

/-- How a place of a clause takes criteria. -/
inductive Form where
  /-- An object whose tag names one of the variants. -/
  | tagged (variants : List Variant)
  /-- An object of the one variant, whose tag can be left out. -/
  | single (variant : Variant)

namespace Form

/-- The variant of an object with the members, as far as its tag decides it. -/
def Allows (members : List (String × Json)) (variant : Variant) : Form → Prop
  | tagged variants => variant ∈ variants ∧ Json.get? members "type" = some (.str variant.tag)
  | single only => variant = only ∧ ∀ tag, Json.get? members "type" = some tag → tag = .str only.tag

def Accepts (form : Form) (v : Json) : Prop :=
  ∃ members variant, v = .obj members ∧ form.Allows members variant ∧ variant.HasMembers members

def Spells (form : Form) (v : Json) (criterion : Criterion) : Prop :=
  ∃ members variant, v = .obj members ∧ form.Allows members variant
    ∧ criterion.variant? = some variant ∧ criterion.SpelledBy members

theorem accepts_iff {form : Form} {v : Json} : form.Accepts v ↔ ∃ criterion, form.Spells v criterion := by
  simp only [Accepts, Spells, Variant.hasMembers_iff]
  constructor
  · intro h
    obtain ⟨members, variant, hv, hallows, criterion, hcriterion⟩ := h
    exact ⟨criterion, members, variant, hv, hallows, hcriterion⟩
  · intro h
    obtain ⟨criterion, members, variant, hv, hallows, hcriterion⟩ := h
    exact ⟨members, variant, hv, hallows, criterion, hcriterion⟩

/-- The criteria of declaration fields. -/
def field : Form := .tagged [.exact, .fuzzy, .anyOf, .range]

end Form

/-- The key that a record field is written under, and the criteria that it takes. -/
def RecordField.written : RecordField → String × Form
  | .status => ("status", .tagged [.exact, .anyOf])
  | .trackingId => ("trackingId", .single .exact)
  | .registeredAt => ("legalStatus.REGISTERED.createdAt", .tagged [.exact, .range])
  | .registeredAtLocation => ("legalStatus.REGISTERED.createdAtLocation", .tagged [.exact, .within, .range])
  | .registrationNumber => ("registrationNumber", .single .exact)
  | .createdAt => ("createdAt", .tagged [.exact, .range])
  | .updatedAt => ("updatedAt", .tagged [.exact, .range])
  | .createdAtLocation => ("createAtLocation", .tagged [.exact, .within])
  | .updatedAtLocation => ("updatedAtLocation", .tagged [.exact, .within])

namespace RecordField

theorem written_eq (field : RecordField) :
    field.written = (field.wireName, match field.role with
      | .identifier => Form.single .exact
      | role => Form.tagged role.variants) := by
  cases field <;> rfl

theorem written_fst (field : RecordField) : field.written.1 = field.wireName := by
  rw [written_eq]

end RecordField

/-! ### Clauses -/

/-- A member of a clause that spells something, or is absent or null and spells nothing. -/
inductive Slot {α : Type} (spells : Json → α → Prop) : Option Json → Option α → Prop
  | absent : Slot spells none none
  | null : Slot spells (some .null) none
  | given {v : Json} {x : α} (h : spells v x) : Slot spells (some v) (some x)

theorem Slot.none_iff {α : Type} {spells : Json → α → Prop} {x : Option α} : Slot spells none x ↔ x = none := by
  constructor
  · intro h
    cases h
    rfl
  · rintro rfl
    exact .absent

theorem Slot.some_iff {α : Type} {spells : Json → α → Prop} {v : Json} {x : Option α} :
    Slot spells (some v) x ↔ (v = .null ∧ x = none) ∨ ∃ y, spells v y ∧ some y = x := by
  constructor
  · intro h
    cases h with
    | null => exact .inl ⟨rfl, rfl⟩
    | given h => exact .inr ⟨_, h, rfl⟩
  · intro h
    rcases h with ⟨rfl, rfl⟩ | ⟨y, h, rfl⟩
    · exact .null
    · exact .given h

theorem Slot.eq_some_iff {α : Type} {spells : Json → α → Prop} {member : Option Json} {x : α} :
    Slot spells member (some x) ↔ ∃ v, member = some v ∧ spells v x := by
  cases member with
  | none => simp [none_iff]
  | some v => simp [some_iff]

theorem Slot.exists_iff {α : Type} {spells : Json → α → Prop} {member : Option Json} :
    (∃ x, Slot spells member x) ↔ ∀ v, member = some v → v = .null ∨ ∃ x, spells v x := by
  cases member with
  | none => exact iff_of_true ⟨none, .absent⟩ fun v hv => by cases hv
  | some v =>
      simp only [Slot.some_iff, Option.some.injEq, forall_eq']
      constructor
      · intro h
        rcases h with ⟨x, ⟨hv, -⟩ | ⟨y, hy, -⟩⟩
        · exact .inl hv
        · exact .inr ⟨y, hy⟩
      · intro h
        rcases h with hv | ⟨y, hy⟩
        · exact ⟨none, .inl ⟨hv, rfl⟩⟩
        · exact ⟨some y, .inr ⟨y, hy, rfl⟩⟩

/-- The declaration fields of a clause, each with its criterion and in their order. -/
def SpellsData (v : Json) (data : List (String × Criterion)) : Prop :=
  ∃ members, v = .obj members
    ∧ List.Forall₂ (fun member entry => entry.1 = member.1 ∧ Form.field.Spells member.2 entry.2) members data

theorem exists_spellsData_iff {v : Json} :
    (∃ data, SpellsData v data) ↔ ∃ entries, v = .obj entries ∧ ∀ entry ∈ entries, Form.field.Accepts entry.2 := by
  have hentry : ∀ entry : String × Json, Form.field.Accepts entry.2
      ↔ ∃ read : String × Criterion, read.1 = entry.1 ∧ Form.field.Spells entry.2 read.2 := by
    intro entry
    rw [Form.accepts_iff]
    exact ⟨fun ⟨criterion, h⟩ => ⟨(entry.1, criterion), rfl, h⟩, fun ⟨read, _, h⟩ => ⟨read.2, h⟩⟩
  simp only [hentry, ← exists_forall₂_iff]
  constructor
  · intro h
    obtain ⟨data, members, hv, h⟩ := h
    exact ⟨members, hv, data, h⟩
  · intro h
    obtain ⟨members, hv, data, h⟩ := h
    exact ⟨data, members, hv, h⟩

namespace Clause

/-- Each member that the grammar knows is absent, null or as its place takes it. -/
structure MembersWellFormed (members : List (String × Json)) : Prop where
  eventType : ∀ v, Json.get? members "eventType" = some v → v = .null ∨ ∃ type, v = .str type
  record : ∀ field : RecordField, ∀ v, Json.get? members field.written.1 = some v →
    v = .null ∨ field.written.2.Accepts v
  data : ∀ v, Json.get? members "data" = some v →
    v = .null ∨ ∃ entries, v = .obj entries ∧ ∀ entry ∈ entries, Form.field.Accepts entry.2

def WellFormed (v : Json) : Prop :=
  ∃ members, v = .obj members ∧ MembersWellFormed members

/-- Each member of the clause is what stands in its place. -/
structure MembersSpelledBy (members : List (String × Json)) (clause : Clause) : Prop where
  eventType : Slot (fun v type => v = .str type) (Json.get? members "eventType") clause.eventType
  record : ∀ field : RecordField,
    Slot field.written.2.Spells (Json.get? members field.written.1) (clause.criterion field)
  data : Slot SpellsData (Json.get? members "data") clause.data

def SpelledBy (v : Json) (clause : Clause) : Prop :=
  ∃ members, v = .obj members ∧ clause.MembersSpelledBy members

theorem membersWellFormed_iff {members : List (String × Json)} :
    MembersWellFormed members ↔ ∃ clause : Clause, clause.MembersSpelledBy members := by
  constructor
  · intro h
    obtain ⟨eventType, heventType⟩ := Slot.exists_iff.2 h.eventType
    have hrecord : ∀ field : RecordField, ∃ criterion,
        Slot field.written.2.Spells (Json.get? members field.written.1) criterion := by
      intro field
      apply Slot.exists_iff.2
      intro v hv
      rw [← Form.accepts_iff]
      exact h.record field v hv
    choose criterion hcriterion using hrecord
    obtain ⟨data, hdata⟩ : ∃ data, Slot SpellsData (Json.get? members "data") data := by
      apply Slot.exists_iff.2
      intro v hv
      rw [exists_spellsData_iff]
      exact h.data v hv
    refine ⟨ofCriteria eventType criterion data, heventType, ?_, hdata⟩
    rw [criterion_ofCriteria]
    exact hcriterion
  · intro h
    obtain ⟨clause, heventType, hrecord, hdata⟩ := h
    refine ⟨Slot.exists_iff.1 ⟨_, heventType⟩, fun field v hv => ?_, fun v hv => ?_⟩
    · rw [Form.accepts_iff]
      exact Slot.exists_iff.1 ⟨_, hrecord field⟩ v hv
    · rw [← exists_spellsData_iff]
      exact Slot.exists_iff.1 ⟨_, hdata⟩ v hv

theorem wellFormed_iff {v : Json} : WellFormed v ↔ ∃ clause, SpelledBy v clause := by
  simp only [WellFormed, SpelledBy, membersWellFormed_iff]
  constructor
  · intro h
    obtain ⟨members, hv, clause, h⟩ := h
    exact ⟨clause, members, hv, h⟩
  · intro h
    obtain ⟨clause, members, hv, h⟩ := h
    exact ⟨members, hv, clause, h⟩

end Clause

/-! ### Queries -/

namespace Query

/-- The clauses of a payload, none if it has no such member. -/
def HasClauses (members : List (String × Json)) (values : List Json) : Prop :=
  Json.get? members "clauses" = some (.arr values) ∨ Json.get? members "clauses" = none ∧ values = []

def WellFormed (v : Json) : Prop :=
  ∃ members, v = .obj members ∧ (∃ operator, Json.get? members "type" = some (.str operator))
    ∧ (Json.get? members "clauses" = none ∨ ∃ values, Json.get? members "clauses" = some (.arr values)
      ∧ ∀ value ∈ values, Clause.WellFormed value)

/-- The operator is the one that is given, and the clauses are those that the elements of the array spell, in their order. -/
def SpelledBy (v : Json) (query : Query) : Prop :=
  ∃ members values, v = .obj members ∧ Json.get? members "type" = some (.str query.operator)
    ∧ HasClauses members values ∧ List.Forall₂ Clause.SpelledBy values query.clauses

theorem wellFormed_iff {v : Json} : WellFormed v ↔ ∃ query, SpelledBy v query := by
  constructor
  · intro h
    obtain ⟨members, hv, ⟨operator, hoperator⟩, hclauses⟩ := h
    obtain ⟨values, hvalues, hwell⟩ : ∃ values, HasClauses members values
        ∧ ∀ value ∈ values, Clause.WellFormed value := by
      rcases hclauses with hnone | ⟨values, hsome, hwell⟩
      · exact ⟨[], .inr ⟨hnone, rfl⟩, fun value hvalue => absurd hvalue List.not_mem_nil⟩
      · exact ⟨values, .inl hsome, hwell⟩
    obtain ⟨clauses, hspelled⟩ := exists_forall₂_iff.2 fun value hvalue =>
      Clause.wellFormed_iff.1 (hwell value hvalue)
    exact ⟨⟨operator, clauses⟩, members, values, hv, hoperator, hvalues, hspelled⟩
  · intro h
    obtain ⟨query, members, values, hv, hoperator, hvalues, hspelled⟩ := h
    refine ⟨members, hv, ⟨query.operator, hoperator⟩, ?_⟩
    have hwell : ∀ value ∈ values, Clause.WellFormed value := fun value hvalue =>
      Clause.wellFormed_iff.2 (exists_forall₂_iff.1 ⟨_, hspelled⟩ value hvalue)
    rcases hvalues with hsome | ⟨hnone, -⟩
    · exact .inr ⟨values, hsome, hwell⟩
    · exact .inl hnone

end Query

/-! ### What is spelled is declared -/

/-- The variants that a place takes. -/
def Form.variants : Form → List Variant
  | tagged variants => variants
  | single variant => [variant]

theorem Form.Spells.isOneOf {form : Form} {v : Json} {criterion : Criterion} (h : form.Spells v criterion) :
    criterion.IsOneOf form.variants := by
  obtain ⟨members, variant, -, hallows, hvariant, -⟩ := h
  cases form with
  | tagged variants => exact ⟨variant, hallows.1, hvariant⟩
  | single only => exact ⟨variant, List.mem_singleton.2 hallows.1, hvariant⟩

theorem RecordField.variants_written (field : RecordField) : field.written.2.variants = field.role.variants := by
  cases field <;> rfl

theorem SpellsData.isOneOf {v : Json} {data : List (String × Criterion)} (h : SpellsData v data) :
    ∀ entry ∈ data, entry.2.IsOneOf Variant.field := by
  obtain ⟨members, -, hspells⟩ := h
  intro entry hentry
  obtain ⟨member, -, hmember⟩ := exists_forall₂_iff.1 ⟨members, hspells.flip⟩ entry hentry
  exact hmember.isOneOf

theorem Clause.SpelledBy.declared {v : Json} {clause : Clause} (h : clause.SpelledBy v) : clause.Declared := by
  obtain ⟨members, -, -, hrecord, hdata⟩ := h
  constructor
  · intro field criterion hc
    have hslot := hrecord field
    rw [hc] at hslot
    obtain ⟨member, -, hspells⟩ := Slot.eq_some_iff.1 hslot
    rw [← field.variants_written]
    exact hspells.isOneOf
  · intro data hc
    rw [hc] at hdata
    obtain ⟨member, -, hspells⟩ := Slot.eq_some_iff.1 hdata
    exact hspells.isOneOf

theorem Query.SpelledBy.declared {v : Json} {query : Query} (h : query.SpelledBy v) : query.Declared := by
  obtain ⟨members, values, -, -, -, hclauses⟩ := h
  intro clause hclause
  obtain ⟨value, hspelled⟩ := exists_forall₂_iff.1 ⟨values, hclauses.flip⟩ clause hclause
  exact Clause.SpelledBy.declared hspelled

end RegistrySearch
