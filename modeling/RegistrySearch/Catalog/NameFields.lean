import RegistrySearch.Catalog.Event

/-!
# Name fields

The field ids that hold a person's name in some event of a catalog, and a memo of such classifications. The memo holds the classifications of the catalogs that were asked for last, at most `Memo.capacity` of them, and counts how often an answer was there (a hit) and how often it was not (a miss). Two catalogs are the same for it if they have equal events in the same order.
-/

namespace RegistrySearch

abbrev FieldLookup := Event → List Field

/-- The ids of the name fields of a list of events, each once. -/
def nameFieldIds (lookup : FieldLookup) (events : List Event) : List String :=
  distinctBy id (((events.flatMap lookup).filter fun field => field.kind.isName).map Field.id)

/-- Classifications by the events they are for, the one that was asked for last in front. -/
structure Memo where
  entries : List (List Event × List String) := []
  hits : Nat := 0
  misses : Nat := 0
deriving DecidableEq, Repr, Inhabited

namespace Memo

def capacity : Nat := 32

def empty : Memo := {}

def size (memo : Memo) : Nat := memo.entries.length

def find? (memo : Memo) (events : List Event) : Option (List String) :=
  memo.entries.lookup events

/-- The memo after a hit: the entry moves to the front. -/
def touch (memo : Memo) (events : List Event) (ids : List String) : Memo where
  entries := (events, ids) :: memo.entries.filter fun entry => entry.1 ≠ events
  hits := memo.hits + 1
  misses := memo.misses

/-- The memo after a miss: the new entry is put in front, and if there is no room the last one goes. -/
def insert (memo : Memo) (events : List Event) (ids : List String) : Memo where
  entries := ((events, ids) :: memo.entries).take capacity
  hits := memo.hits
  misses := memo.misses + 1

def ask (classify : List Event → List String) (events : List Event) (memo : Memo) : List String × Memo :=
  match memo.find? events with
  | some ids => (ids, memo.touch events ids)
  | none => (classify events, memo.insert events (classify events))

end Memo

end RegistrySearch
