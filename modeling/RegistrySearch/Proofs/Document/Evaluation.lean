import RegistrySearch.Document.Basic

/-!
# What the search engine makes of a document

The engine takes a query object and answers, for a record, whether it matches. How it tests one field is its own business, so the answers to the tests are given by an `Assignment`, and `EngineQuery.answer?` is what the engine makes of them: "must" asks for every part, "should" for one of them unless there are none, "must_not" for the opposite, "match_all" for nothing. An object that is not a query has no answer.

The main statement is that the object of a document always has an answer, and which (`Document.answer?_toJson`).
-/

namespace RegistrySearch

/-- The answers to the tests of a record. -/
structure Assignment where
  equality : (path value : String) → Bool
  membership : (path : String) → (values : List String) → Bool
  range : (path gte lte : String) → Bool
  fuzzy : (path value fuzziness : String) → Bool
  /-- The record's place is at most ten kilometres away from the location. -/
  nearby : (location : String) → Bool

/-! ### Query objects -/

namespace EngineQuery

/-- The strings of a list that holds nothing else. -/
def texts? : List Json → Option (List String)
  | [] => some []
  | .str s :: rest => (texts? rest).map (s :: ·)
  | _ => none

/-- The answer to a test, from the key and the body of its object. -/
def testAnswer? (a : Assignment) : String → Json → Option Bool
  | "term", .obj [(path, .str value)] => some (a.equality path value)
  | "terms", .obj [(path, .arr values)] => (texts? values).map (a.membership path)
  | "match", .obj [(path, .obj [("query", .str value), ("fuzziness", .str fuzziness)])] =>
    some (a.fuzzy path value fuzziness)
  | "range", .obj [(path, .obj [("gte", .str gte), ("lte", .str lte)])] => some (a.range path gte lte)
  | "geo_distance", .obj [("distance", .str "10km"), ("location", .str location)] => some (a.nearby location)
  | "match_all", .obj [] => some true
  | _, _ => none

mutual

/-- The answer to a query object. -/
def answer? (a : Assignment) : Json → Option Bool
  | .obj [("bool", .obj [("must", .arr queries)])] => (answers? a queries).map fun answers => answers.all id
  | .obj [("bool", .obj [("should", .arr queries)])] =>
    (answers? a queries).map fun answers => answers.isEmpty || answers.any id
  | .obj [("bool", .obj [("must_not", query)])] => (answer? a query).map not
  | .obj [(key, body)] => testAnswer? a key body
  | _ => none

def answers? (a : Assignment) : List Json → Option (List Bool)
  | [] => some []
  | query :: rest => do
    let first ← answer? a query
    let others ← answers? a rest
    return first :: others

end

variable {a : Assignment}

theorem texts?_map_str (values : List String) : texts? (values.map .str) = some values := by
  induction values with
  | nil => rfl
  | cons value values ih => rw [List.map_cons, texts?, ih, Option.map_some]

theorem answers?_map {α : Type} {toJson : α → Json} {answer : α → Bool} {xs : List α}
    (h : ∀ x, answer? a (toJson x) = some (answer x)) :
    answers? a (xs.map toJson) = some (xs.map answer) := by
  induction xs with
  | nil => rfl
  | cons x xs ih =>
      rw [List.map_cons, answers?, h x, ih]
      rfl

theorem answer?_allOf (queries : List Json) :
    answer? a (allOf queries) = (answers? a queries).map fun answers => answers.all id := rfl

theorem answer?_anyOf (queries : List Json) :
    answer? a (anyOf queries) = (answers? a queries).map fun answers => answers.isEmpty || answers.any id := rfl

theorem answer?_matchNone : answer? a matchNone = some false := rfl

end EngineQuery

/-! ### Conditions and documents -/

open EngineQuery

/-- The answer to the test that a condition is. -/
def Condition.answer (a : Assignment) : Condition → Bool
  | .equals path value => a.equality path value
  | .oneOf path values => a.membership path values
  | .resembles path value fuzziness => a.fuzzy path value fuzziness
  | .between path gte lte => a.range path gte lte
  | .near location => a.nearby location

theorem Condition.answer?_toJson (a : Assignment) (condition : Condition) :
    answer? a condition.toJson = some (condition.answer a) := by
  cases condition with
  | oneOf path values =>
      change (texts? (values.map Json.str)).map (a.membership path) = _
      rw [texts?_map_str]
      rfl
  | _ => rfl

namespace Document

/-- What the engine makes of a document. An alternative of no groups matches every record. -/
def answer (a : Assignment) : Document → Bool
  | all conditions => conditions.all (Condition.answer a)
  | any groups => groups.isEmpty || groups.any fun conditions => conditions.all (Condition.answer a)
  | none => false

theorem answer?_allToJson (a : Assignment) (conditions : List Condition) :
    answer? a (allToJson conditions) = some (conditions.all (Condition.answer a)) := by
  rw [allToJson, answer?_allOf, answers?_map (Condition.answer?_toJson a), Option.map_some, List.all_map]
  rfl

theorem answer?_toJson (a : Assignment) (document : Document) :
    answer? a document.toJson = some (document.answer a) := by
  cases document with
  | all conditions => exact answer?_allToJson a conditions
  | any groups =>
      rw [toJson, answer?_anyOf, answers?_map (answer?_allToJson a), Option.map_some, List.any_map,
        List.isEmpty_map]
      rfl
  | none => exact answer?_matchNone

end Document

end RegistrySearch
