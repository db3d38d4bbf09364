import RegistrySearch.Proofs.Json.TextFaults
import RegistrySearch.Proofs.Query.FirstFault

/-!
# Payloads that no query failure reports

A caller expects a payload to be read or to be rejected with a failure of the query. The checks of a value only ever fail in this way, and so does text that breaks the grammar of JSON. Octets that are not UTF-8 are noticed in a string only, and then the decoder's own failure comes out instead; nothing else does.
-/

namespace RegistrySearch

namespace QueryFailure

/-- The failures that are told as one of the query. -/
def IsExpected : QueryFailure → Prop
  | unreadable .notUtf8 => False
  | _ => True

theorem not_isExpected_iff {failure : QueryFailure} : ¬ failure.IsExpected ↔ failure = .unreadable .notUtf8 := by
  unfold IsExpected
  split
  · exact iff_of_true id rfl
  · rename_i hne
    exact iff_of_false (fun h => h trivial) hne

end QueryFailure

theorem Criterion.failsOnly_parse (field : String) (criterion : Criterion) :
    FailsOnly QueryFailure.IsExpected (criterion.parse field) := by
  unfold parse
  split
  · split
    · split
      · exact failsOnly_mapError fun _ => trivial
      · exact failsOnly_error trivial
    · exact failsOnly_error trivial
  · exact failsOnly_ok _
  · exact failsOnly_ok _
  · exact failsOnly_ok _
  · exact failsOnly_ok _
  · exact failsOnly_error trivial
  · exact failsOnly_error trivial

namespace Clause

theorem failsOnly_parseData (v : Json) : FailsOnly QueryFailure.IsExpected (parseData v) := by
  cases v with
  | obj entries =>
      rw [parseData, parseFields_eq_mapM]
      exact .mapM (fun entry => (Criterion.failsOnly_parse entry.1 (.raw entry.2)).map _) entries
  | _ => exact failsOnly_error trivial

theorem failsOnly_parse (index : Int) (v : Json) : FailsOnly QueryFailure.IsExpected (parse index v) := by
  cases v with
  | obj members =>
      refine (failsOnly_mapError fun _ => trivial).bind fun clause => ?_
      refine FailsOnly.bind ?_ fun data => failsOnly_ok _
      unfold parseDataMember
      split
      · exact failsOnly_ok _
      · exact failsOnly_ok _
      · exact (failsOnly_parseData _).map some
  | _ => exact failsOnly_error trivial

end Clause

namespace Query

theorem failsOnly_ofJson (v : Json) : FailsOnly QueryFailure.IsExpected (ofJson v) := by
  cases v with
  | obj members =>
      refine FailsOnly.bind ?_ fun values => ?_
      · unfold clauseValues
        split
        · exact failsOnly_ok _
        · exact failsOnly_ok _
        · exact failsOnly_error trivial
      · refine (failsOnly_mapError fun _ => trivial).bind fun operator => ?_
        rw [Clause.parseFrom_eq_mapM]
        exact (FailsOnly.mapM (fun entry => Clause.failsOnly_parse _ _) _).bind fun clauses => failsOnly_ok _
  | _ => exact failsOnly_error trivial

theorem parse_eq_notUtf8_iff {payload : Payload} :
    parse payload = .error (.unreadable .notUtf8) ↔ payload.decoded = .error .notUtf8 := by
  unfold parse
  rw [bind_eq_error, mapError_eq_error]
  constructor
  · intro h
    rcases h with ⟨fault, hdecoded, hfault⟩ | ⟨v, -, hv⟩
    · cases hfault
      exact hdecoded
    · exact absurd hv fun hv => failsOnly_ofJson v _ hv
  · intro h
    exact .inl ⟨.notUtf8, h, rfl⟩

/-- A payload is read or rejected as a query, unless it is octets whose first fault, in the order of the text, is a string that is not UTF-8. Octets that a text is encoded to have no such string. -/
theorem parse_fails_as_expected_iff (payload : Payload) :
    ((∃ query, parse payload = .ok query) ∨ ∃ failure, parse payload = .error failure ∧ failure.IsExpected)
      ↔ ¬ ∃ octets, payload = .octets octets ∧ (∀ text, octets ≠ Utf8.encode text)
        ∧ (Json.reading (Utf8.pieces octets)).faults.head? = some .notUtf8 := by
  rw [← Payload.decoded_eq_notUtf8_iff, ← parse_eq_notUtf8_iff]
  cases hparse : parse payload with
  | ok query => simp
  | error failure =>
      rw [Except.error.injEq, ← QueryFailure.not_isExpected_iff, not_not]
      simp

/-- The octets of a payload whose search term is written in an encoding of one octet per character. -/
def latinPayload : List UInt8 :=
  Utf8.encode "\x7b\"type\":\"and\",\"clauses\":[\x7b\"data\":\x7b\"child.name\":\x7b\"type\":\"exact\",\"term\":\"Ren".toList
    ++ 0xE9 :: Utf8.encode "\"\x7d\x7d\x7d]\x7d".toList

theorem parse_latinPayload :
    parse (.octets latinPayload) = .error (.unreadable .notUtf8) ∧ ¬ (QueryFailure.unreadable .notUtf8).IsExpected := by
  refine ⟨?_, id⟩
  decide +kernel

end Query

end RegistrySearch
