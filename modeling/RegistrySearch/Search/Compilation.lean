import RegistrySearch.Catalog.NameFields
import RegistrySearch.Query.Failure
import RegistrySearch.Search.Log

/-!
# Compilations

A compilation starts from a memo of classifications and ends with a result or a failure, with the memo as it then is, and with the log of what happened on the way. A failure stops it; what was remembered and logged up to there stays.
-/

namespace RegistrySearch

inductive CompileFailure where
  | unsupported (criterion : UnsupportedCriterion)
  /-- A record field is given a criterion that lacks what the field is searched by. -/
  | missingMember (typeName member : String)
deriving DecidableEq

def CompileFailure.message : CompileFailure → String
  | unsupported u => u.message
  | missingMember typeName member => "'" ++ typeName ++ "' object has no attribute '" ++ member ++ "'"

structure Outcome (α : Type) where
  result : Except CompileFailure α
  memo : Memo
  log : List LogEntry

def Compilation (α : Type) : Type := Memo → Outcome α

namespace Compilation

variable {α β : Type}

def run (c : Compilation α) (memo : Memo) : Outcome α := c memo

/-- Runs `next` on the result of `c`, with the memo that `c` left; the log of `next` follows that of `c`. -/
def andThen (c : Compilation α) (next : α → Compilation β) : Compilation β := fun memo =>
  let first := c memo
  match first.result with
  | .error failure => ⟨.error failure, first.memo, first.log⟩
  | .ok value =>
    let second := next value first.memo
    ⟨second.result, second.memo, first.log ++ second.log⟩

instance : Monad Compilation where
  pure value := fun memo => ⟨.ok value, memo, []⟩
  bind := andThen

def log (entry : LogEntry) : Compilation Unit := fun memo => ⟨.ok (), memo, [entry]⟩

def ofExcept (result : Except CompileFailure α) : Compilation α := fun memo => ⟨result, memo, []⟩

/-- An answer of the memo, with the entries that are logged if it was not there. -/
def ask (classify : List Event → List String) (events : List Event) (onMiss : List String → LogEntry) :
    Compilation (List String) := fun memo =>
  let (ids, after) := memo.ask classify events
  ⟨.ok ids, after, if (memo.find? events).isNone then [onMiss ids] else []⟩

end Compilation

end RegistrySearch
