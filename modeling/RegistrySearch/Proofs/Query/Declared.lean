import RegistrySearch.Query.Clause

/-!
# Queries of declared variants

Every place of a clause is declared to take some variants of a criterion. A query is declared if all its criteria are of variants that their places take. Nothing else keeps a program from building other queries, for which compiling may fail; reading a payload gives declared queries only.
-/

namespace RegistrySearch

namespace Criterion

/-- The variant of a criterion. A value that has not been read has none. -/
def variant? : Criterion → Option Variant
  | exact _ => some .exact
  | fuzzy _ => some .fuzzy
  | anyOf _ => some .anyOf
  | range .. => some .range
  | within _ => some .within
  | raw _ => none

/-- The criterion is of one of the variants. -/
def IsOneOf (variants : List Variant) (criterion : Criterion) : Prop :=
  ∃ variant ∈ variants, criterion.variant? = some variant

theorem isOneOf_nil (criterion : Criterion) : ¬ criterion.IsOneOf [] := by
  intro h
  obtain ⟨variant, hvariant, -⟩ := h
  exact absurd hvariant List.not_mem_nil

theorem isOneOf_cons (criterion : Criterion) (variant : Variant) (variants : List Variant) :
    criterion.IsOneOf (variant :: variants) ↔ criterion.variant? = some variant ∨ criterion.IsOneOf variants := by
  simp [IsOneOf]

theorem IsOneOf.mono {criterion : Criterion} {variants others : List Variant} (h : criterion.IsOneOf variants)
    (hsub : ∀ variant ∈ variants, variant ∈ others) : criterion.IsOneOf others := by
  obtain ⟨variant, hvariant, hcriterion⟩ := h
  exact ⟨variant, hsub variant hvariant, hcriterion⟩

theorem variant?_eq_exact {criterion : Criterion} :
    criterion.variant? = some .exact ↔ ∃ term, criterion = .exact term := by
  cases criterion <;> simp [variant?]

theorem variant?_eq_fuzzy {criterion : Criterion} :
    criterion.variant? = some .fuzzy ↔ ∃ term, criterion = .fuzzy term := by
  cases criterion <;> simp [variant?]

theorem variant?_eq_anyOf {criterion : Criterion} :
    criterion.variant? = some .anyOf ↔ ∃ terms, criterion = .anyOf terms := by
  cases criterion <;> simp [variant?]

theorem variant?_eq_range {criterion : Criterion} :
    criterion.variant? = some .range ↔ ∃ gte lte, criterion = .range gte lte := by
  cases criterion <;> simp [variant?]

theorem variant?_eq_within {criterion : Criterion} :
    criterion.variant? = some .within ↔ ∃ location, criterion = .within location := by
  cases criterion <;> simp [variant?]

/-! ### The criteria of each role -/

theorem isOneOf_status {criterion : Criterion} :
    criterion.IsOneOf RecordField.Role.status.variants
      ↔ (∃ term, criterion = .exact term) ∨ ∃ terms, criterion = .anyOf terms := by
  simp [RecordField.Role.variants, isOneOf_cons, isOneOf_nil, variant?_eq_exact, variant?_eq_anyOf]

theorem isOneOf_identifier {criterion : Criterion} :
    criterion.IsOneOf RecordField.Role.identifier.variants ↔ ∃ term, criterion = .exact term := by
  simp [RecordField.Role.variants, isOneOf_cons, isOneOf_nil, variant?_eq_exact]

theorem isOneOf_time {criterion : Criterion} :
    criterion.IsOneOf RecordField.Role.time.variants
      ↔ (∃ term, criterion = .exact term) ∨ ∃ gte lte, criterion = .range gte lte := by
  simp [RecordField.Role.variants, isOneOf_cons, isOneOf_nil, variant?_eq_exact, variant?_eq_range]

theorem isOneOf_place {criterion : Criterion} :
    criterion.IsOneOf RecordField.Role.place.variants
      ↔ (∃ term, criterion = .exact term) ∨ ∃ location, criterion = .within location := by
  simp [RecordField.Role.variants, isOneOf_cons, isOneOf_nil, variant?_eq_exact, variant?_eq_within]

theorem isOneOf_registrationPlace {criterion : Criterion} :
    criterion.IsOneOf RecordField.Role.registrationPlace.variants
      ↔ (∃ term, criterion = .exact term) ∨ (∃ location, criterion = .within location)
        ∨ ∃ gte lte, criterion = .range gte lte := by
  simp [RecordField.Role.variants, isOneOf_cons, isOneOf_nil, variant?_eq_exact, variant?_eq_within,
    variant?_eq_range]

theorem isOneOf_field {criterion : Criterion} :
    criterion.IsOneOf Variant.field
      ↔ (∃ term, criterion = .exact term) ∨ (∃ term, criterion = .fuzzy term)
        ∨ (∃ terms, criterion = .anyOf terms) ∨ ∃ gte lte, criterion = .range gte lte := by
  simp [Variant.field, isOneOf_cons, isOneOf_nil, variant?_eq_exact, variant?_eq_fuzzy, variant?_eq_anyOf,
    variant?_eq_range]

end Criterion

/-- Every criterion of the clause is of a variant that its place takes. -/
structure Clause.Declared (clause : Clause) : Prop where
  record : ∀ field criterion, clause.criterion field = some criterion → criterion.IsOneOf field.role.variants
  data : ∀ data, clause.data = some data → ∀ entry ∈ data, entry.2.IsOneOf Variant.field

def Query.Declared (query : Query) : Prop :=
  ∀ clause ∈ query.clauses, clause.Declared

/-! ### Deciding it -/

theorem Clause.declared_iff {clause : Clause} :
    clause.Declared
      ↔ (∀ field ∈ RecordField.all, ∀ criterion ∈ clause.criterion field, criterion.IsOneOf field.role.variants)
        ∧ ∀ data ∈ clause.data, ∀ entry ∈ data, entry.2.IsOneOf Variant.field := by
  constructor
  · intro h
    exact ⟨fun field _ criterion hc => h.record field criterion hc, h.data⟩
  · intro h
    obtain ⟨hrecord, hdata⟩ := h
    exact ⟨fun field criterion hc => hrecord field field.mem_all criterion hc, hdata⟩

instance (variants : List Variant) (criterion : Criterion) : Decidable (criterion.IsOneOf variants) :=
  inferInstanceAs (Decidable (∃ variant ∈ variants, criterion.variant? = some variant))

instance (clause : Clause) : Decidable clause.Declared :=
  decidable_of_iff _ Clause.declared_iff.symm

instance (query : Query) : Decidable query.Declared :=
  inferInstanceAs (Decidable (∀ clause ∈ query.clauses, clause.Declared))

end RegistrySearch
