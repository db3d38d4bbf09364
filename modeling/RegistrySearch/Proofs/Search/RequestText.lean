import RegistrySearch.Proofs.Json.Grammar
import RegistrySearch.Proofs.Search.Totality

/-!
# The text of a request

What a search is compiled to is sent as text, and user input gets into its keys as well as into its values. None of it can get out of its string: every document is a value that its text reads back to (`Document.writable_toJson`), so the text of a search is JSON and the reader of payloads finds in it the document that was meant, from characters and from octets (`Search.text_reads_back`).
-/

namespace RegistrySearch

open Json

/-! ### Objects of the engine -/

namespace EngineQuery

variable {value gte lte : Json}

theorem writable_single (key : String) (h : value.Writable) : (single key value).Writable := by
  have hkeys : ([(key, value)].map (·.1)).Nodup := List.nodup_singleton key
  apply writable_obj hkeys
  rw [List.forall_mem_singleton]
  exact h

/-- An object with two members. -/
theorem writable_pair {first second : String} {left right : Json} (hne : first ≠ second) (hleft : left.Writable)
    (hright : right.Writable) : (obj [(first, left), (second, right)]).Writable := by
  apply writable_obj (by simp [hne])
  rw [List.forall_mem_cons, List.forall_mem_singleton]
  exact ⟨hleft, hright⟩

theorem writable_term (path : String) (h : value.Writable) : (term path value).Writable :=
  writable_single _ (writable_single path h)

theorem writable_terms (path : String) {values : List Json} (h : ∀ value ∈ values, value.Writable) :
    (terms path values).Writable :=
  writable_single _ (writable_single path (writable_arr h))

theorem writable_fuzzyMatch (path : String) {fuzziness : Json} (hvalue : value.Writable)
    (hfuzziness : fuzziness.Writable) : (fuzzyMatch path value fuzziness).Writable :=
  writable_single _ (writable_single path (writable_pair (by decide) hvalue hfuzziness))

theorem writable_inclusiveRange (path : String) (hgte : gte.Writable) (hlte : lte.Writable) :
    (inclusiveRange path gte lte).Writable :=
  writable_single _ (writable_single path (writable_pair (by decide) hgte hlte))

theorem writable_within (h : value.Writable) : (within value).Writable :=
  writable_single _ (writable_pair (by decide) (writable_str _) h)

theorem writable_allOf {queries : List Json} (h : ∀ query ∈ queries, query.Writable) : (allOf queries).Writable :=
  writable_single _ (writable_single _ (writable_arr h))

theorem writable_anyOf {queries : List Json} (h : ∀ query ∈ queries, query.Writable) : (anyOf queries).Writable :=
  writable_single _ (writable_single _ (writable_arr h))

theorem writable_matchNone : matchNone.Writable := by
  have hempty : (obj []).Writable := writable_obj List.nodup_nil fun member hmember => absurd hmember List.not_mem_nil
  exact writable_single _ (writable_single _ (writable_single _ hempty))

end EngineQuery

/-! ### Documents -/

open EngineQuery

theorem Condition.writable_toJson (condition : Condition) : condition.toJson.Writable := by
  cases condition with
  | equals path value => exact writable_term path (writable_str value)
  | oneOf path values =>
      apply writable_terms path
      rw [List.forall_mem_map]
      exact fun value _ => writable_str value
  | resembles path value fuzziness => exact writable_fuzzyMatch path (writable_str value) (writable_str fuzziness)
  | between path gte lte => exact writable_inclusiveRange path (writable_str gte) (writable_str lte)
  | near location => exact writable_within (writable_str location)

namespace Document

theorem writable_allToJson (conditions : List Condition) : (allToJson conditions).Writable := by
  apply writable_allOf
  rw [List.forall_mem_map]
  exact fun condition _ => condition.writable_toJson

theorem writable_toJson (document : Document) : document.toJson.Writable := by
  cases document with
  | all conditions => exact writable_allToJson conditions
  | any groups =>
      apply writable_anyOf
      rw [List.forall_mem_map]
      exact fun group _ => writable_allToJson group
  | none => exact writable_matchNone

theorem isJson_text (document : Document) : IsJson document.text.toList := by
  rw [text, Json.text, String.toList_ofList]
  exact document.writable_toJson.numberFree.isJson_write

end Document

/-! ### Searches -/

/-- Every search of declared variants has a document, and its text is JSON that the reader of payloads takes for exactly this document. -/
theorem Search.text_reads_back (search : Search) (h : search.query.Declared) (earlier : List Search) :
    ∃ document, (search.compiled.run (sharedAfter earlier)).result = .ok document
      ∧ IsJson document.text.toList
      ∧ (Payload.text document.text).decoded = .ok document.toJson
      ∧ (Payload.octets (Utf8.encode document.text.toList)).decoded = .ok document.toJson := by
  obtain ⟨document, hdocument⟩ := exists_document h earlier
  have hwritable := document.writable_toJson
  exact ⟨document, hdocument, document.isJson_text, hwritable.ofText, hwritable.ofOctets⟩

/-- A search whose namespace, encoding and terms all try to end their string. -/
def breakingOut : Search where
  query := .anyOf [
    { eventType := some "\"]\x7d]\x7d", updatedAtLocation := some (.within "\\\",\x00\x1f\x7f") },
    { data := some [("a\\.\"b", .fuzzy "\t\n\\u0022é😀"), ("", .anyOf ["\x08\x0c\r", "/\u2028"])] }]
  catalog := .empty
  settings := some { declarationNamespace := "\":1,\"", fuzziness := "\\" }
  encodeId := some fun id => "\"" ++ id

theorem Search.text_reads_back_breakingOut :
    breakingOut.query.Declared ∧ ∃ document, (breakingOut.compiled.run (sharedAfter [breakingOut])).result = .ok document
      ∧ IsJson document.text.toList
      ∧ (Payload.text document.text).decoded = .ok document.toJson
      ∧ (Payload.octets (Utf8.encode document.text.toList)).decoded = .ok document.toJson := by
  have hdeclared : breakingOut.query.Declared := by decide
  exact ⟨hdeclared, text_reads_back breakingOut hdeclared [breakingOut]⟩

end RegistrySearch
