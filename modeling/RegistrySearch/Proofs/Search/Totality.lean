import RegistrySearch.Proofs.Query.Reading
import RegistrySearch.Proofs.Search.Meaning

/-!
# What is read compiles

Reading and compiling are apart: a reader knows which variants a place takes, and the compiler has a branch for each of them and a failure for all others. What is read is spelled by its payload, hence of declared variants only (`Query.SpelledBy.declared`), and for those no step of the compiler fails. So of a query that was read from a payload there is always a document, and of a criterion that was read for a declaration field a condition.
-/

namespace RegistrySearch

/-! ### Queries -/

theorem Search.exists_document {search : Search} (h : search.query.Declared) (earlier : List Search) :
    ∃ document, (search.compiled.run (sharedAfter earlier)).result = .ok document := by
  obtain ⟨document, hdocument, -⟩ := h.exists_direct search.compiler search.catalog
  exact ⟨document, (search.compiled_result earlier).trans hdocument⟩

/-! ### Single criteria -/

/-- A criterion that is taken for a declaration field is of a variant for those, read from a value or built by a program. -/
theorem Criterion.isOneOf_of_parse {given parsed : Criterion} {id : String} (h : given.parse id = .ok parsed) :
    parsed.IsOneOf Variant.field := by
  cases given with
  | raw v => exact (parse_raw_spells h).isOneOf
  | exact term => cases h; exact isOneOf_field.2 (.inl ⟨term, rfl⟩)
  | fuzzy term => cases h; exact isOneOf_field.2 (.inr (.inl ⟨term, rfl⟩))
  | anyOf terms => cases h; exact isOneOf_field.2 (.inr (.inr (.inl ⟨terms, rfl⟩)))
  | range gte lte => cases h; exact isOneOf_field.2 (.inr (.inr (.inr ⟨gte, lte, rfl⟩)))
  | within location => cases h

theorem Compiler.exists_condition (compiler : Compiler) (id : String) {criterion : Criterion}
    (h : criterion.IsOneOf Variant.field) (isName : Bool) (memo : Memo) :
    ∃ condition, ((compiler.compileField id criterion isName).run memo).result = .ok condition := by
  rw [Criterion.isOneOf_field] at h
  rcases h with ⟨term, rfl⟩ | ⟨term, rfl⟩ | ⟨terms, rfl⟩ | ⟨gte, lte, rfl⟩
  · exact ⟨_, rfl⟩
  · exact ⟨_, rfl⟩
  · exact ⟨_, rfl⟩
  · exact ⟨_, rfl⟩

/-- Whatever is read compiles: a query against every catalog with all choices and after any searches, and a criterion of a declaration field for every field. -/
theorem Search.compiles_of_parse :
    (∀ (payload : Payload) (search : Search), Query.parse payload = .ok search.query →
      ∀ earlier, ∃ document, (search.compiled.run (sharedAfter earlier)).result = .ok document)
    ∧ ∀ (id : String) (given parsed : Criterion), given.parse id = .ok parsed →
      ∀ (compiler : Compiler) (field : String) (isName : Bool) (memo : Memo), ∃ condition,
        ((compiler.compileField field parsed isName).run memo).result = .ok condition := by
  constructor
  · intro payload search hread earlier
    exact exists_document (Query.declared_of_parse hread) earlier
  · intro id given parsed hread compiler field isName memo
    exact compiler.exists_condition field (Criterion.isOneOf_of_parse hread) isName memo

/-- The text of a search for a place or for nothing. -/
def nearPlaceText : String :=
  "\x7b\"type\":\"or\",\"clauses\":[\x7b\"createAtLocation\":\x7b\"type\":\"within\",\"location\":\"1,9\"\x7d\x7d,\x7b\x7d]\x7d"

def nearPlace : Search where
  query := .anyOf [{ createdAtLocation := some (.within "1,9") }, {}]
  catalog := .empty
  encodeId := some fun id => "_" ++ id

/-- Bounds that are not in their usual order. -/
def birthBounds : Criterion :=
  .raw (.obj [("lte", .str "2020-12-31"), ("type", .str "range"), ("gte", .str "2020-01-01")])

theorem Search.compiles_of_parse_nearPlace :
    (Query.parse (.text nearPlaceText) = .ok nearPlace.query
      ∧ ∃ document, (nearPlace.compiled.run (sharedAfter [nearPlace])).result = .ok document)
    ∧ birthBounds.parse "child.dob" = .ok (.range "2020-01-01" "2020-12-31")
      ∧ ∃ condition, ((nearPlace.compiler.compileField "child.dob" (.range "2020-01-01" "2020-12-31") true).run
        Memo.empty).result = .ok condition := by
  have hquery : Query.parse (.text nearPlaceText) = .ok nearPlace.query := by decide +kernel
  have hcriterion : birthBounds.parse "child.dob" = .ok (.range "2020-01-01" "2020-12-31") := by rfl
  obtain ⟨hqueries, hcriteria⟩ := compiles_of_parse
  refine ⟨⟨hquery, hqueries _ nearPlace hquery [nearPlace]⟩, hcriterion, ?_⟩
  exact hcriteria "child.dob" birthBounds _ hcriterion nearPlace.compiler "child.dob" true Memo.empty

end RegistrySearch
