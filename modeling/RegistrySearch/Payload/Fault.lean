import RegistrySearch.Json.Basic
import RegistrySearch.Text.Quoted

/-!
# Misplaced values

What can be wrong with a value that a model is read from, where in the value that is, and the sentence that reports both. A check stops at the first fault it meets.
-/

namespace RegistrySearch

inductive Expectation where
  | text
  | textOrNull
  | flag
  | list
  | map
  | mapOrNull
deriving DecidableEq, Repr

def Expectation.name : Expectation → String
  | text => "str"
  | textOrNull => "str | null"
  | flag => "bool"
  | list => "array"
  | map => "object"
  | mapOrNull => "object | null"

inductive Step where
  | member (key : String)
  | item (index : Nat)
deriving DecidableEq, Repr

def Step.text : Step → String
  | member key => "." ++ key
  | item index => "[" ++ toString index ++ "]"

inductive Problem where
  | unexpected (expected : Expectation) (found : ValueKind)
  | tagNotText (found : ValueKind)
  /-- A criterion's tag names no variant that is allowed here. -/
  | tagNotAllowed (tag : String)
  | unknownName (name : String)
  | missing (key : String)
  /-- A key of a configuration file is not a string. -/
  | keyNotText
deriving DecidableEq, Repr

structure Fault where
  problem : Problem
  path : List Step
deriving DecidableEq, Repr

namespace Fault

def here (problem : Problem) : Fault := ⟨problem, []⟩

/-- A fault of a part, as a fault of the whole. -/
def within (step : Step) (fault : Fault) : Fault := { fault with path := step :: fault.path }

def location (path : List Step) : String :=
  "$" ++ String.join (path.map Step.text)

/-- The sentence that reports a fault; the place is left out when it is the whole value. -/
def message (fault : Fault) : String :=
  let place := if fault.path.isEmpty then "" else " - at `" ++ location fault.path ++ "`"
  match fault.problem with
  | .unexpected expected found => "Expected `" ++ expected.name ++ "`, got `" ++ found.name ++ "`" ++ place
  | .tagNotText found => "Expected `str`, got `" ++ found.tagName ++ "`" ++ place
  | .tagNotAllowed tag => "Invalid value " ++ Quoted.text tag ++ place
  | .unknownName name => "Invalid enum value " ++ Quoted.text name ++ place
  | .missing key => "Object missing required field `" ++ key ++ "`" ++ place
  | .keyNotText => "Expected `str` - at `key` in `" ++ location fault.path ++ "`"

def under {α : Type} (step : Step) (outcome : Except Fault α) : Except Fault α :=
  outcome.mapError (within step)

end Fault

end RegistrySearch
