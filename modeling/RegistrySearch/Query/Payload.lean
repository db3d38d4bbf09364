import RegistrySearch.Payload.Basic
import RegistrySearch.Query.Clause
import RegistrySearch.Query.Failure
import RegistrySearch.Search.Log

/-!
# Search payloads

Reading queries. The checks go from the outside to the inside and stop at the first fault: the payload, its operator, then one clause after the other, and in a clause first everything but the declaration fields. The members of an object are checked in its order, keys that the model does not know are passed over, and only then a missing member is reported. Since the check of a member does not depend on the others, a model is read in two steps: check every member in order, then look the wanted ones up.
-/

namespace RegistrySearch

/-! ### Members of an object -/

namespace Members

def check (step : String → Json → Except Fault Unit) : List (String × Json) → Except Fault Unit
  | [] => .ok ()
  | (key, value) :: rest => do
    Fault.under (.member key) (step key value)
    check step rest

def required {α : Type} (step : Json → Except Fault α) (members : List (String × Json)) (key : String) :
    Except Fault α :=
  match Json.get? members key with
  | none => .error (Fault.here (.missing key))
  | some value => Fault.under (.member key) (step value)

/-- The value of a member that may be absent or null. -/
def optional {α : Type} (step : Json → Except Fault (Option α)) (members : List (String × Json)) (key : String) :
    Except Fault (Option α) :=
  match Json.get? members key with
  | none => .ok none
  | some value => Fault.under (.member key) (step value)

end Members

namespace Json

def asText : Json → Except Fault String
  | str s => .ok s
  | v => .error (Fault.here (.unexpected .text v.kind))

def asTextOrNull : Json → Except Fault (Option String)
  | str s => .ok (some s)
  | null => .ok none
  | v => .error (Fault.here (.unexpected .textOrNull v.kind))

def textsFrom (index : Nat) : List Json → Except Fault (List String)
  | [] => .ok []
  | item :: rest => do
    let s ← Fault.under (.item index) item.asText
    let others ← textsFrom (index + 1) rest
    return s :: others

def asTexts : Json → Except Fault (List String)
  | arr items => textsFrom 0 items
  | v => .error (Fault.here (.unexpected .list v.kind))

end Json

/-! ### Criteria -/

namespace Criterion

/-- Checks a member of a criterion's object. The tag was used to choose the variant, unless only one variant was possible; it then counts as a member like the others. -/
def checkMember (variant : Variant) (chosenByTag : Bool) (key : String) (value : Json) : Except Fault Unit :=
  if key = "type" then
    if chosenByTag then .ok ()
    else match value with
      | .str tag => if tag = variant.tag then .ok () else .error (Fault.here (.tagNotAllowed tag))
      | v => .error (Fault.here (.tagNotText v.kind))
  else
    match variant, key with
    | .exact, "term" => value.asText *> .ok ()
    | .fuzzy, "term" => value.asText *> .ok ()
    | .anyOf, "terms" => value.asTexts *> .ok ()
    | .range, "gte" => value.asText *> .ok ()
    | .range, "lte" => value.asText *> .ok ()
    | .within, "location" => value.asText *> .ok ()
    | _, _ => .ok ()

def ofChecked (variant : Variant) (members : List (String × Json)) : Except Fault Criterion := do
  match variant with
  | .exact => return exact (← Members.required Json.asText members "term")
  | .fuzzy => return fuzzy (← Members.required Json.asText members "term")
  | .anyOf => return anyOf (← Members.required Json.asTexts members "terms")
  | .range =>
    return range (← Members.required Json.asText members "gte") (← Members.required Json.asText members "lte")
  | .within => return within (← Members.required Json.asText members "location")

def ofMembers (variant : Variant) (chosenByTag : Bool) (members : List (String × Json)) :
    Except Fault Criterion := do
  Members.check (checkMember variant chosenByTag) members
  ofChecked variant members

def ofTagged (allowed : List Variant) (members : List (String × Json)) : Except Fault Criterion :=
  match Json.get? members "type" with
  | none => .error (Fault.here (.missing "type"))
  | some (.str tag) =>
    match Variant.ofTag? allowed tag with
    | some variant => ofMembers variant true members
    | none => Fault.under (.member "type") (.error (Fault.here (.tagNotAllowed tag)))
  | some v => Fault.under (.member "type") (.error (Fault.here (.tagNotText v.kind)))

end Criterion

def RecordField.criterion (field : RecordField) : Json → Except Fault (Option Criterion)
  | .null => .ok none
  | .obj members =>
    match field.role with
    | .identifier => some <$> Criterion.ofMembers .exact false members
    | role => some <$> Criterion.ofTagged role.variants members
  | v => .error (Fault.here (.unexpected .mapOrNull v.kind))

/-! ### Declaration fields -/

/-- The criterion of a declaration field. A value of another kind than an object is reported as a criterion of an unsupported type. A criterion that was built as such is taken as it is. -/
def Criterion.parse (field : String) (criterion : Criterion) : Except QueryFailure Criterion :=
  match criterion with
  | .raw (.obj members) =>
    match criterion.tag with
    | .str tag =>
      match Variant.ofTag? Variant.field tag with
      | some variant => (Criterion.ofMembers variant true members).mapError (QueryFailure.criterion field)
      | none => .error (.unsupported (.of field criterion.tag UnsupportedCriterion.supportedTags))
    | tag => .error (.unsupported (.of field tag UnsupportedCriterion.supportedTags))
  | .exact _ | .fuzzy _ | .anyOf _ | .range .. => .ok criterion
  | .within _ | .raw _ => .error (.unsupported (.of field criterion.tag UnsupportedCriterion.supportedTags))

namespace Clause

def parseFields : List (String × Json) → Except QueryFailure (List (String × Criterion))
  | [] => .ok []
  | (field, value) :: rest => do
    let criterion ← (Criterion.raw value).parse field
    let others ← parseFields rest
    return (field, criterion) :: others

def parseData : Json → Except QueryFailure (List (String × Criterion))
  | .obj members => parseFields members
  | _ => .error .dataNotAnObject

/-! ### Clauses -/

def checkMember (key : String) (value : Json) : Except Fault Unit :=
  if key = "eventType" then value.asTextOrNull *> .ok ()
  else match RecordField.ofWireName? key with
    | some field => field.criterion value *> .ok ()
    | none => .ok ()

/-- A clause from the members of its object, which have been checked, without its declaration fields. -/
def ofChecked (members : List (String × Json)) : Except Fault Clause := do
  let criterion (field : RecordField) := Members.optional field.criterion members field.wireName
  return {
    eventType := ← Members.optional Json.asTextOrNull members "eventType"
    status := ← criterion .status
    trackingId := ← criterion .trackingId
    registeredAt := ← criterion .registeredAt
    registeredAtLocation := ← criterion .registeredAtLocation
    registrationNumber := ← criterion .registrationNumber
    createdAt := ← criterion .createdAt
    updatedAt := ← criterion .updatedAt
    createdAtLocation := ← criterion .createdAtLocation
    updatedAtLocation := ← criterion .updatedAtLocation }

def ofMembers (members : List (String × Json)) : Except Fault Clause := do
  Members.check checkMember members
  ofChecked members

/-- The declaration fields of a clause; null is the same as none. -/
def parseDataMember (members : List (String × Json)) :
    Except QueryFailure (Option (List (String × Criterion))) :=
  match Json.get? members "data" with
  | none => .ok none
  | some .null => .ok none
  | some value => some <$> parseData value

def parse (index : Int) : Json → Except QueryFailure Clause
  | .obj members => do
    let clause ← (ofMembers members).mapError (QueryFailure.clause index)
    let data ← parseDataMember members
    return { clause with data }
  | _ => .error (.clauseNotAnObject index)

def parseFrom (index : Nat) : List Json → Except QueryFailure (List Clause)
  | [] => .ok []
  | value :: rest => do
    let clause ← parse index value
    let others ← parseFrom (index + 1) rest
    return clause :: others

end Clause

/-! ### Queries -/

namespace Query

/-- The clauses of a payload before they are read; a payload without any has none. -/
def clauseValues (members : List (String × Json)) : Except QueryFailure (List Json) :=
  match Json.get? members "clauses" with
  | none => .ok []
  | some (.arr clauses) => .ok clauses
  | some _ => .error .clausesNotAnArray

def ofJson : Json → Except QueryFailure Query
  | .obj members => do
    let values ← clauseValues members
    let operator ← ((Json.get? members "type").getD .null).asText.mapError QueryFailure.operator
    let clauses ← Clause.parseFrom 0 values
    return ⟨operator, clauses⟩
  | _ => .error .notAnObject

def parse (payload : Payload) : Except QueryFailure Query := do
  let value ← payload.decoded.mapError QueryFailure.unreadable
  ofJson value

/-- The query of a payload, with what reading it leaves in the log: an entry if it succeeds. -/
def parseLogged (payload : Payload) : Except QueryFailure Query × List LogEntry :=
  match parse payload with
  | .ok query => (.ok query, [.parsed query.operator query.clauses.length])
  | .error failure => (.error failure, [])

end Query

end RegistrySearch
