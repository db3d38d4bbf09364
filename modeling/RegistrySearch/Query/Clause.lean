import RegistrySearch.Query.Criterion

/-!
# Queries and their clauses

A query is an operator over a list of clauses. A clause searches on members of the record, the `RecordField`s, on the type of the event, and on fields of the declaration form, which are addressed by their ids. A missing member is not searched on; all present ones have to hold.

The operator is any string: an unknown one matches nothing, which is decided when the query is compiled.
-/

namespace RegistrySearch

/-- The members of a record that a criterion can be given for, in the order in which their conditions are listed. -/
inductive RecordField where
  | status
  | trackingId
  | registeredAt
  | registeredAtLocation
  | registrationNumber
  | createdAt
  | updatedAt
  | createdAtLocation
  | updatedAtLocation
deriving DecidableEq, Repr

/-- What a record field holds, which decides the variants that it is searched with. -/
inductive RecordField.Role where
  | status
  | identifier
  | time
  | registrationPlace
  | place
deriving DecidableEq, Repr

namespace RecordField

def all : List RecordField :=
  [status, trackingId, registeredAt, registeredAtLocation, registrationNumber, createdAt, updatedAt,
    createdAtLocation, updatedAtLocation]

@[simp] theorem mem_all (field : RecordField) : field ∈ all := by
  cases field <;> decide

def role : RecordField → Role
  | status => .status
  | trackingId => .identifier
  | registeredAt => .time
  | registeredAtLocation => .registrationPlace
  | registrationNumber => .identifier
  | createdAt => .time
  | updatedAt => .time
  | createdAtLocation => .place
  | updatedAtLocation => .place

def wireName : RecordField → String
  | status => "status"
  | trackingId => "trackingId"
  | registeredAt => "legalStatus.REGISTERED.createdAt"
  | registeredAtLocation => "legalStatus.REGISTERED.createdAtLocation"
  | registrationNumber => "registrationNumber"
  | createdAt => "createdAt"
  | updatedAt => "updatedAt"
  | createdAtLocation => "createAtLocation"
  | updatedAtLocation => "updatedAtLocation"

def indexPath : RecordField → String
  | status => "status"
  | trackingId => "trackingId"
  | registeredAt => "legalStatuses.REGISTERED.createdAt"
  | registeredAtLocation => "legalStatuses.REGISTERED.createdAtLocation"
  | registrationNumber => "legalStatuses.REGISTERED.registrationNumber"
  | createdAt => "createdAt"
  | updatedAt => "updatedAt"
  | createdAtLocation => "createdAtLocation"
  | updatedAtLocation => "updatedAtLocation"

def ofWireName? (key : String) : Option RecordField :=
  all.find? fun field => field.wireName == key

end RecordField

def RecordField.Role.variants : RecordField.Role → List Variant
  | .status => [.exact, .anyOf]
  | .identifier => [.exact]
  | .time => [.exact, .range]
  | .registrationPlace => [.exact, .within, .range]
  | .place => [.exact, .within]

/-- One search clause. `data` lists criteria for fields of the declaration form by their ids, in the order in which their conditions are listed. -/
structure Clause where
  eventType : Option String := none
  status : Option Criterion := none
  trackingId : Option Criterion := none
  registeredAt : Option Criterion := none
  registeredAtLocation : Option Criterion := none
  registrationNumber : Option Criterion := none
  createdAt : Option Criterion := none
  updatedAt : Option Criterion := none
  createdAtLocation : Option Criterion := none
  updatedAtLocation : Option Criterion := none
  data : Option (List (String × Criterion)) := none
deriving DecidableEq, Inhabited

namespace Clause

def criterion (clause : Clause) : RecordField → Option Criterion
  | .status => clause.status
  | .trackingId => clause.trackingId
  | .registeredAt => clause.registeredAt
  | .registeredAtLocation => clause.registeredAtLocation
  | .registrationNumber => clause.registrationNumber
  | .createdAt => clause.createdAt
  | .updatedAt => clause.updatedAt
  | .createdAtLocation => clause.createdAtLocation
  | .updatedAtLocation => clause.updatedAtLocation

def ofCriteria (eventType : Option String) (criterion : RecordField → Option Criterion)
    (data : Option (List (String × Criterion))) : Clause where
  eventType := eventType
  status := criterion .status
  trackingId := criterion .trackingId
  registeredAt := criterion .registeredAt
  registeredAtLocation := criterion .registeredAtLocation
  registrationNumber := criterion .registrationNumber
  createdAt := criterion .createdAt
  updatedAt := criterion .updatedAt
  createdAtLocation := criterion .createdAtLocation
  updatedAtLocation := criterion .updatedAtLocation
  data := data

@[simp] theorem criterion_ofCriteria (eventType : Option String) (criterion : RecordField → Option Criterion)
    (data : Option (List (String × Criterion))) :
    (ofCriteria eventType criterion data).criterion = criterion := by
  funext field
  cases field <;> rfl

@[simp] theorem ofCriteria_criterion (clause : Clause) :
    ofCriteria clause.eventType clause.criterion clause.data = clause := rfl

@[simp] theorem criterion_with_data (clause : Clause) (data : Option (List (String × Criterion))) :
    { clause with data }.criterion = clause.criterion := by
  funext field
  cases field <;> rfl

/-- The clause searches on nothing. A clause with an empty list of declaration fields does not count as empty. -/
def isEmpty (clause : Clause) : Bool :=
  clause.eventType.isNone && RecordField.all.all (fun field => (clause.criterion field).isNone) && clause.data.isNone

def dataToJson (data : List (String × Criterion)) : Json :=
  .obj (data.map fun (id, criterion) => (id, criterion.toJson))

/-- The wire form, without members that are not searched on. -/
def toJson (clause : Clause) : Json :=
  let eventType := (clause.eventType.map fun s => ("eventType", Json.str s)).toList
  let record := RecordField.all.filterMap fun field =>
    (clause.criterion field).map fun criterion => (field.wireName, criterion.toJson)
  let data := (clause.data.map fun data => ("data", dataToJson data)).toList
  .obj (eventType ++ record ++ data)

end Clause

structure Query where
  operator : String
  clauses : List Clause
deriving DecidableEq, Inhabited

namespace Query

def conjunction : String := "and"

def disjunction : String := "or"

def allOf (clauses : List Clause) : Query := ⟨conjunction, clauses⟩

def anyOf (clauses : List Clause) : Query := ⟨disjunction, clauses⟩

def toJson (query : Query) : Json :=
  .obj [("type", .str query.operator), ("clauses", .arr (query.clauses.map Clause.toJson))]

end Query

end RegistrySearch
