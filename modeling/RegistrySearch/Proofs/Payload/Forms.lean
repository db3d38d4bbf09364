import RegistrySearch.Proofs.Catalog.Routes
import RegistrySearch.Proofs.Query.Reading

/-!
# Forms of a payload

A text can be handed over as it is or as octets. The octets that it is encoded to are cut into the same characters again, and no mark of a stray octet comes in between, wherever the text ends and whether or not it is JSON. So both forms have one reading (`Payload.reading?_octets`), on which the outcome depends alone: `Query.parse_of_reading`, and `Catalog.parse_of_reading` for catalogs. A query can be handed over as the value that its text has as well, unless this is a string, which would be taken for the text of another payload.
-/

namespace RegistrySearch

/-- The octets of a text are read as the text is, be it JSON or not. -/
theorem Payload.reading?_octets (s : String) : reading? (.octets s.toUTF8.data.toList) = reading? (.text s) := by
  rw [reading?, reading?, ← Utf8.encode_toList, Utf8.pieces_encode, Json.symbols]

theorem Query.parse_of_reading {payload : Payload} {r : Json.Reading} (h : payload.reading? = some r) :
    parse payload = r.value.mapError QueryFailure.unreadable >>= ofJson := by
  rw [parse, Payload.decoded_of_reading h]

namespace Payload

/-- A text and its octets have the same outcome, as a query and as a catalog. So has the value that the text decodes to, as a query and unless it is a string. -/
theorem forms_agree (s : String) :
    Query.parse (.octets s.toUTF8.data.toList) = Query.parse (.text s)
      ∧ Catalog.parse (.octets s.toUTF8.data.toList) = Catalog.parse (.text s)
      ∧ ∀ v, Json.ofText s = .ok v → (∀ t, v ≠ .str t) → Query.parse (.value v) = Query.parse (.text s) := by
  have htext : reading? (.text s) = some (Json.reading (Json.symbols s)) := rfl
  have hoctets := (reading?_octets s).trans htext
  refine ⟨?_, ?_, fun v hdecoded hv => ?_⟩
  · rw [Query.parse_of_reading hoctets, Query.parse_of_reading htext]
  · rw [Catalog.parse_of_reading hoctets, Catalog.parse_of_reading htext]
  · rw [Query.parse_value hv, Query.parse, decoded, hdecoded]
    rfl

/-- A search whose operator has letters of one to four octets, and one as an escape. -/
def lettersText : String :=
  "\x7b\"type\":\"n\u00e9\u20ac\\u00e9𝄞\"\x7d"

def lettersValue : Json :=
  .obj [("type", .str "n\u00e9\u20ac\u00e9𝄞")]

/-- A list with a letter inside a string and one in the place of an item, where the text ends. -/
def brokenText : String :=
  "[\"\u00e9\",\u20ac"

theorem forms_agree_letters :
    (Json.ofText lettersText = .ok lettersValue ∧ (∀ t, lettersValue ≠ .str t)
        ∧ Query.parse (.value lettersValue) = Query.parse (.text lettersText)
        ∧ Query.parse (.octets lettersText.toUTF8.data.toList) = .ok ⟨"n\u00e9\u20ac\u00e9𝄞", []⟩)
      ∧ Query.parse (.octets brokenText.toUTF8.data.toList) = .error (.unreadable .notJson)
      ∧ Catalog.parse (.octets brokenText.toUTF8.data.toList) = Catalog.parse (.text brokenText) := by
  have hdecoded : Json.ofText lettersText = .ok lettersValue := by decide +kernel
  have hread : Query.parse (.text lettersText) = .ok ⟨"n\u00e9\u20ac\u00e9𝄞", []⟩ := by decide +kernel
  have hfails : Query.parse (.text brokenText) = .error (.unreadable .notJson) := by decide +kernel
  have hstring : ∀ t, lettersValue ≠ .str t := fun t h => by cases h
  obtain ⟨hoctets, -, hvalue⟩ := forms_agree lettersText
  obtain ⟨hbroken, hcatalog, -⟩ := forms_agree brokenText
  exact ⟨⟨hdecoded, hstring, hvalue lettersValue hdecoded hstring, hoctets.trans hread⟩, hbroken.trans hfails, hcatalog⟩

end Payload

end RegistrySearch
