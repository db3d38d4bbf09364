import RegistrySearch.Json.Basic
import RegistrySearch.Text.Quoted

/-!
# Criteria

A criterion says what one field of a record is searched for. On the wire it is an object whose `type` member, the tag, names the variant. A value that has not been checked yet can stand in the place of a criterion, as `Criterion.raw`; compiling it is an error, and its tag says what it was meant to be.
-/

namespace RegistrySearch

inductive Variant where
  | exact
  | fuzzy
  | anyOf
  | range
  | within
deriving DecidableEq, Repr

namespace Variant

def tag : Variant → String
  | exact => "exact"
  | fuzzy => "fuzzy"
  | anyOf => "anyOf"
  | range => "range"
  | within => "within"

def ofTag? (allowed : List Variant) (tag : String) : Option Variant :=
  allowed.find? fun variant => variant.tag == tag

def field : List Variant := [exact, fuzzy, anyOf, range]

end Variant

inductive Criterion where
  | exact (term : String)
  /-- The field equals the term up to a few edits. -/
  | fuzzy (term : String)
  | anyOf (terms : List String)
  | range (gte lte : String)
  | within (location : String)
  /-- A value that has not been read as a criterion: a JSON value. Objects of other classes, whose tag is the name of their class, are left out. -/
  | raw (value : Json)
deriving DecidableEq, Inhabited

namespace Criterion

/-- The tag of a value in the place of a criterion: its `type` member, null if it has none, or the name of its kind if it is not an object. -/
def rawTag : Json → Json
  | .obj members => (Json.get? members "type").getD .null
  | value => .str value.kind.tagName

def tag : Criterion → Json
  | raw value => rawTag value
  | exact _ => .str Variant.exact.tag
  | fuzzy _ => .str Variant.fuzzy.tag
  | anyOf _ => .str Variant.anyOf.tag
  | range .. => .str Variant.range.tag
  | within _ => .str Variant.within.tag

/-- The name of what stands in the place of a criterion, for the message that it lacks a member. -/
def typeName : Criterion → String
  | exact _ => "Exact"
  | fuzzy _ => "Fuzzy"
  | anyOf _ => "AnyOf"
  | range .. => "Range"
  | within _ => "Proximity"
  | raw value => value.kind.tagName

def display : Criterion → String
  | exact term => "Exact(term=" ++ Quoted.text term ++ ")"
  | fuzzy term => "Fuzzy(term=" ++ Quoted.text term ++ ")"
  | anyOf terms => "AnyOf(terms=" ++ Quoted.texts terms ++ ")"
  | range gte lte => "Range(gte=" ++ Quoted.text gte ++ ", lte=" ++ Quoted.text lte ++ ")"
  | within location => "Proximity(location=" ++ Quoted.text location ++ ")"
  | raw value => Quoted.value value

def toJson : Criterion → Json
  | exact term => .obj [("type", .str Variant.exact.tag), ("term", .str term)]
  | fuzzy term => .obj [("type", .str Variant.fuzzy.tag), ("term", .str term)]
  | anyOf terms => .obj [("type", .str Variant.anyOf.tag), ("terms", Json.strings terms)]
  | range gte lte => .obj [("type", .str Variant.range.tag), ("gte", .str gte), ("lte", .str lte)]
  | within location => .obj [("type", .str Variant.within.tag), ("location", .str location)]
  | raw value => value

end Criterion

end RegistrySearch
