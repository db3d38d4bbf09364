import RegistrySearch.Query.Clause

/-!
# Log entries

What reading and compiling a search leaves in the log, by cause. An entry knows the part of the library it comes from, its level and its message.
-/

namespace RegistrySearch

inductive LogSource where
  | payloads
  | clauses
  | fields
  | classification
  | documents
deriving DecidableEq, Repr

inductive LogLevel where
  | debug
  | warning
deriving DecidableEq, Repr

inductive LogEntry where
  | parsed (operator : String) (clauses : Nat)
  | emptyClause
  /-- A criterion of the registration location is not searched on, because it is not exact. -/
  | ignoredLocation (criterion : Criterion)
  | rejected (tag : Json) (field : String)
  /-- A catalog may change, so its classification is not remembered. -/
  | notRemembered
  | classified (found events : Nat)
  | conjunction (clauses conditions : Nat)
  | disjunction (clauses : Nat)
  | unknownOperator (operator : String)
deriving DecidableEq

namespace LogEntry

def source : LogEntry → LogSource
  | parsed .. => .payloads
  | emptyClause => .clauses
  | ignoredLocation _ => .clauses
  | rejected .. => .fields
  | notRemembered => .classification
  | classified .. => .classification
  | conjunction .. => .documents
  | disjunction _ => .documents
  | unknownOperator _ => .documents

def level : LogEntry → LogLevel
  | unknownOperator _ => .warning
  | _ => .debug

def message : LogEntry → String
  | parsed operator clauses =>
    "Parsed " ++ Quoted.text operator ++ " search with " ++ toString clauses ++ " clause(s)"
  | emptyClause => "Empty clause contributes no conditions"
  | ignoredLocation criterion =>
    "Ignoring non-exact criterion on registration location: " ++ criterion.display
  | rejected tag field => "Rejecting criterion " ++ Quoted.value tag ++ " for field " ++ Quoted.text field
  | notRemembered => "Catalog is unhashable, classifying without cache"
  | classified found events =>
    "Found " ++ toString found ++ " name field(s) across " ++ toString events ++ " event(s)"
  | conjunction clauses conditions =>
    "Compiled AND query of " ++ toString clauses ++ " clause(s) into " ++ toString conditions ++ " condition(s)"
  | disjunction clauses => "Compiled OR query of " ++ toString clauses ++ " clause(s)"
  | unknownOperator operator =>
    "Unknown search operator " ++ Quoted.text operator ++ ", matching nothing"

end LogEntry

end RegistrySearch
