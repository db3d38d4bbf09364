import RegistrySearch.Document.EngineQuery
import RegistrySearch.Json.Writer

/-!
# Query documents

What a search is compiled to. A `Condition` tests one field of an indexed record, or the distance of the record's place; a `Document` combines conditions. Both are sent to the search engine as JSON objects.
-/

namespace RegistrySearch

inductive Condition where
  | equals (path value : String)
  | oneOf (path : String) (values : List String)
  /-- The field at the path has the value, up to a tolerance. -/
  | resembles (path value fuzziness : String)
  | between (path gte lte : String)
  | near (location : String)
deriving DecidableEq, Repr, Inhabited

namespace Condition

/-- The path that a condition tests; nearness is tested on the record's place. -/
def path : Condition → String
  | equals path _ => path
  | oneOf path _ => path
  | resembles path .. => path
  | between path .. => path
  | near _ => EngineQuery.locationPath

def toJson : Condition → Json
  | equals path value => EngineQuery.term path (.str value)
  | oneOf path values => EngineQuery.terms path (values.map .str)
  | resembles path value fuzziness => EngineQuery.fuzzyMatch path (.str value) (.str fuzziness)
  | between path gte lte => EngineQuery.inclusiveRange path (.str gte) (.str lte)
  | near location => EngineQuery.within (.str location)

end Condition

inductive Document where
  | all (conditions : List Condition)
  /-- Some group has only conditions that hold. -/
  | any (groups : List (List Condition))
  | none
deriving DecidableEq, Repr, Inhabited

namespace Document

def allToJson (conditions : List Condition) : Json :=
  EngineQuery.allOf (conditions.map Condition.toJson)

def toJson : Document → Json
  | all conditions => allToJson conditions
  | any groups => EngineQuery.anyOf (groups.map allToJson)
  | none => EngineQuery.matchNone

def text (document : Document) : String :=
  document.toJson.text

end Document

end RegistrySearch
