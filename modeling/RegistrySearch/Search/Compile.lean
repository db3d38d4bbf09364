import RegistrySearch.Config.Settings
import RegistrySearch.Document.Basic
import RegistrySearch.Document.FieldId
import RegistrySearch.Query.Clause
import RegistrySearch.Search.Compilation

/-!
# Compiling searches

A search becomes a query document clause by clause. Each present member of a clause gives one condition, in the order of `RecordField.all`, and each declaration field gives one, in the order of the clause. Under the operator "and" the conditions of all clauses are put into one list, so the boundaries between clauses disappear; under "or" every clause keeps its own list; any other operator matches nothing.

Fields of the declaration form are indexed below a namespace. A field that holds a person's name has a subfield with the full name, and approximate searches go there. Whether a field holds a name is a fact of the catalog, which is classified once for each clause that searches on declaration fields.
-/

namespace RegistrySearch

/-- What compiling depends on besides the query and the catalog. -/
structure Compiler where
  settings : Settings := {}
  encodeId : String → String := FieldId.encode
  /-- The fields of an event that are searched for names. -/
  lookup : FieldLookup := Event.uniqueFields

/-! ### Record fields -/

namespace Criterion

def term : Criterion → Except CompileFailure String
  | exact term => .ok term
  | fuzzy term => .ok term
  | other => .error (.missingMember other.typeName "term")

def bounds : Criterion → Except CompileFailure (String × String)
  | range gte lte => .ok (gte, lte)
  | other => .error (.missingMember other.typeName "gte")

def place : Criterion → Except CompileFailure String
  | within location => .ok location
  | other => .error (.missingMember other.typeName "location")

end Criterion

/-- The conditions that a criterion of a record field stands for: exactly one, except that a registration location is searched on only if it is exact. -/
def RecordField.conditions (field : RecordField) (criterion : Criterion) :
    Except CompileFailure (List Condition) :=
  match field.role, criterion with
  | .status, .anyOf terms => .ok [.oneOf field.indexPath terms]
  | .status, other => do return [.equals field.indexPath (← other.term)]
  | .identifier, other => do return [.equals field.indexPath (← other.term)]
  | .time, .exact term => .ok [.equals field.indexPath term]
  | .time, other => do
    let (gte, lte) ← other.bounds
    return [.between field.indexPath gte lte]
  | .registrationPlace, .exact term => .ok [.equals field.indexPath term]
  | .registrationPlace, _ => .ok []
  | .place, .exact term => .ok [.equals field.indexPath term]
  | .place, other => do return [.near (← other.place)]

def RecordField.entries (field : RecordField) (criterion : Criterion) : List LogEntry :=
  match field.role, criterion with
  | .registrationPlace, .exact _ => []
  | .registrationPlace, other => [.ignoredLocation other]
  | _, _ => []

def eventTypePath : String := "type"

namespace Clause

def eventConditions (clause : Clause) : List Condition :=
  match clause.eventType with
  | some type => [.equals eventTypePath type]
  | none => []

def compileMember (clause : Clause) (field : RecordField) : Compilation (List Condition) :=
  match clause.criterion field with
  | none => return []
  | some criterion => do
    (field.entries criterion).forM Compilation.log
    Compilation.ofExcept (field.conditions criterion)

def compileRecord (clause : Clause) : List RecordField → Compilation (List Condition)
  | [] => return []
  | field :: rest => do
    let first ← clause.compileMember field
    let others ← compileRecord clause rest
    return first ++ others

end Clause

/-! ### Declaration fields -/

namespace Compiler

def fieldPath (compiler : Compiler) (id : String) : String :=
  compiler.settings.declarationNamespace ++ "." ++ compiler.encodeId id

/-- The index path of the full name that a name field holds. -/
def fullnamePath (compiler : Compiler) (id : String) : String :=
  compiler.fieldPath id ++ "." ++ compiler.settings.fullnameSubfield

def fieldCondition (compiler : Compiler) (id : String) (criterion : Criterion) (isName : Bool) :
    Except UnsupportedCriterion Condition :=
  match criterion with
  | .exact term => .ok (.equals (compiler.fieldPath id) term)
  | .fuzzy term =>
    let path := if isName then compiler.fullnamePath id else compiler.fieldPath id
    .ok (.resembles path term compiler.settings.fuzziness)
  | .anyOf terms => .ok (.oneOf (compiler.fieldPath id) terms)
  | .range gte lte => .ok (.between (compiler.fieldPath id) gte lte)
  | other => .error (.of id other.tag UnsupportedCriterion.supportedTags)

def compileField (compiler : Compiler) (id : String) (criterion : Criterion) (isName : Bool) :
    Compilation Condition :=
  match compiler.fieldCondition id criterion isName with
  | .ok condition => return condition
  | .error unsupported => do
    Compilation.log (.rejected criterion.tag id)
    Compilation.ofExcept (.error (.unsupported unsupported))

/-- The name fields of a catalog, from the memo if the settings and the catalog allow it. -/
def nameFields (compiler : Compiler) (catalog : Catalog) : Compilation (List String) := do
  let classify := nameFieldIds compiler.lookup
  let found (ids : List String) := LogEntry.classified ids.length catalog.events.length
  if compiler.settings.cacheNameFields && !catalog.editable then
    Compilation.ask classify catalog.events found
  else
    if compiler.settings.cacheNameFields then Compilation.log .notRemembered
    let ids := classify catalog.events
    Compilation.log (found ids)
    return ids

def compileFields (compiler : Compiler) (names : List String) :
    List (String × Criterion) → Compilation (List Condition)
  | [] => return []
  | (id, criterion) :: rest => do
    let first ← compiler.compileField id criterion (names.contains id)
    let others ← compiler.compileFields names rest
    return first :: others

def compileData (compiler : Compiler) (catalog : Catalog) (data : List (String × Criterion)) :
    Compilation (List Condition) := do
  let names ← compiler.nameFields catalog
  compiler.compileFields names data

/-- The conditions on the declaration fields of a clause, none if it does not search on any. -/
def compileDataMember (compiler : Compiler) (catalog : Catalog) :
    Option (List (String × Criterion)) → Compilation (List Condition)
  | none => return []
  | some data => compiler.compileData catalog data

/-! ### Clauses and queries -/

def compileClause (compiler : Compiler) (catalog : Catalog) (clause : Clause) :
    Compilation (List Condition) := do
  if clause.isEmpty then
    Compilation.log .emptyClause
    return []
  else
    let record ← clause.compileRecord RecordField.all
    let data ← compiler.compileDataMember catalog clause.data
    return clause.eventConditions ++ record ++ data

/-- The conditions of some clauses in one list, without the boundaries between the clauses. -/
def compileJoined (compiler : Compiler) (catalog : Catalog) : List Clause → Compilation (List Condition)
  | [] => return []
  | clause :: rest => do
    let first ← compiler.compileClause catalog clause
    let others ← compiler.compileJoined catalog rest
    return first ++ others

def compileClauses (compiler : Compiler) (catalog : Catalog) : List Clause → Compilation (List (List Condition))
  | [] => return []
  | clause :: rest => do
    let first ← compiler.compileClause catalog clause
    let others ← compiler.compileClauses catalog rest
    return first :: others

def compile (compiler : Compiler) (query : Query) (catalog : Catalog) : Compilation Document := do
  if query.operator = Query.conjunction then
    let conditions ← compiler.compileJoined catalog query.clauses
    Compilation.log (.conjunction query.clauses.length conditions.length)
    return .all conditions
  else if query.operator = Query.disjunction then
    let groups ← compiler.compileClauses catalog query.clauses
    Compilation.log (.disjunction groups.length)
    return .any groups
  else
    Compilation.log (.unknownOperator query.operator)
    return .none

end Compiler

end RegistrySearch
