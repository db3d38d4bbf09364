import RegistrySearch.Json.Draft
import RegistrySearch.Payload.Fault
import RegistrySearch.Query.Criterion
import RegistrySearch.Text.Similarity

/-!
# What can be wrong with a query

The causes for which a search payload is rejected and for which a query cannot be compiled, each with the sentence that reports it. A criterion of an unknown type is reported with the field it was given for and, if a supported tag is similar enough, with a suggestion.
-/

namespace RegistrySearch

/-- The supported tag that a tag was probably meant to be. -/
def suggestTag (tag : Json) (supported : List String) : Option String :=
  match tag with
  | .str word => Similarity.closest? word supported
  | _ => none

/-- A declaration field was given a criterion of a type that is not supported. -/
structure UnsupportedCriterion where
  field : String
  tag : Json
  suggestion : Option String
deriving DecidableEq

namespace UnsupportedCriterion

def of (field : String) (tag : Json) (supported : List String) : UnsupportedCriterion :=
  ⟨field, tag, suggestTag tag supported⟩

def supportedTags : List String :=
  Variant.field.map Variant.tag

/-- The hint at what a tag was probably meant to be. An empty suggestion is none. -/
def hint (suggestion : Option String) : String :=
  match suggestion with
  | some word => if word.isEmpty then "" else " (did you mean " ++ Quoted.text word ++ "?)"
  | none => ""

def message (u : UnsupportedCriterion) : String :=
  "Unsupported query type: " ++ Quoted.value u.tag ++ " for field " ++ Quoted.text u.field ++ hint u.suggestion

end UnsupportedCriterion

inductive QueryFailure where
  | unreadable (fault : TextFault)
  | notAnObject
  | clausesNotAnArray
  | operator (fault : Fault)
  | clauseNotAnObject (index : Int)
  | clause (index : Int) (fault : Fault)
  | dataNotAnObject
  | unsupported (criterion : UnsupportedCriterion)
  | criterion (field : String) (fault : Fault)
deriving DecidableEq

namespace QueryFailure

def fault? : QueryFailure → Option Fault
  | operator fault => some fault
  | clause _ fault => some fault
  | criterion _ fault => some fault
  | _ => none

def message : QueryFailure → String
  | unreadable _ => "Invalid JSON in search payload"
  | notAnObject => "Search payload must be an object"
  | clausesNotAnArray => "Search payload 'clauses' must be an array"
  | operator fault => "Invalid search operator: " ++ fault.message
  | clauseNotAnObject index => "Clause " ++ toString index ++ " must be an object"
  | clause index fault => "Invalid clause " ++ toString index ++ ": " ++ fault.message
  | dataNotAnObject => "Clause 'data' must be an object"
  | unsupported u => u.message
  | criterion field fault => "Invalid criterion for field " ++ Quoted.text field ++ ": " ++ fault.message

end QueryFailure

end RegistrySearch
