import RegistrySearch.Json.Basic

/-!
# The search engine's query clauses

The objects that the search engine takes as queries: tests of one field, and boolean combinations of queries. Their parts are any JSON values here; `RegistrySearch.Document.Basic` says which of them a compiled search consists of.
-/

namespace RegistrySearch

namespace EngineQuery

/-- The tolerance that lets the engine choose how many edits to allow. -/
def autoFuzziness : Json := .str "AUTO"

/-- The radius of a search around a place. -/
def proximityDistance : String := "10km"

def locationPath : String := "location"

def single (key : String) (value : Json) : Json := .obj [(key, value)]

def term (path : String) (value : Json) : Json :=
  single "term" (single path value)

def terms (path : String) (values : List Json) : Json :=
  single "terms" (single path (.arr values))

def fuzzyMatch (path : String) (value : Json) (fuzziness : Json) : Json :=
  single "match" (single path (.obj [("query", value), ("fuzziness", fuzziness)]))

def inclusiveRange (path : String) (gte lte : Json) : Json :=
  single "range" (single path (.obj [("gte", gte), ("lte", lte)]))

def within (location : Json) : Json :=
  single "geo_distance" (.obj [("distance", .str proximityDistance), (locationPath, location)])

def allOf (queries : List Json) : Json :=
  single "bool" (single "must" (.arr queries))

def anyOf (queries : List Json) : Json :=
  single "bool" (single "should" (.arr queries))

def matchNone : Json :=
  single "bool" (single "must_not" (single "match_all" (.obj [])))

end EngineQuery

end RegistrySearch
