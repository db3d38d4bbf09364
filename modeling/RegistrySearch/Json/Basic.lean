import RegistrySearch.Number.Binary64

/-!
# JSON values

The values that search payloads, event catalogs and query documents are made of. The members of an object keep their order, because the order of a clause's declaration fields decides the order of its conditions. A value that was read from text or from a program has no repeated keys (`Json.DistinctKeys`); the type leaves room for them, since every operation has a meaning for them as well.
-/

namespace RegistrySearch

inductive Json where
  | null
  | bool (value : Bool)
  | int (value : Int)
  | float (value : Binary64)
  | str (value : String)
  | arr (items : List Json)
  | obj (members : List (String × Json))
deriving Inhabited

/-- The kinds of values that payloads and configuration files hold. The last three occur in configuration files only. -/
inductive ValueKind where
  | null
  | bool
  | int
  | float
  | text
  | list
  | map
  | date
  | dateTime
  | binary
deriving DecidableEq, Repr

namespace ValueKind

def name : ValueKind → String
  | null => "null"
  | bool => "bool"
  | int => "int"
  | float => "float"
  | text => "str"
  | list => "array"
  | map => "object"
  | date => "date"
  | dateTime => "datetime"
  | binary => "bytes"

/-- The name of a kind where it stands for a criterion's tag, and where something was looked for inside a value of that kind. -/
def tagName : ValueKind → String
  | null => "NoneType"
  | list => "list"
  | map => "dict"
  | kind => kind.name

end ValueKind

namespace Json

def kind : Json → ValueKind
  | null => .null
  | bool _ => .bool
  | int _ => .int
  | float _ => .float
  | str _ => .text
  | arr _ => .list
  | obj _ => .map

/-! ### Equality -/

mutual

/-- Structural equality, decided. -/
def same : Json → Json → Bool
  | null, null => true
  | bool a, bool b => a == b
  | int a, int b => a == b
  | float a, float b => a == b
  | str a, str b => a == b
  | arr a, arr b => sameItems a b
  | obj a, obj b => sameMembers a b
  | _, _ => false

def sameItems : List Json → List Json → Bool
  | [], [] => true
  | a :: as, b :: bs => same a b && sameItems as bs
  | _, _ => false

def sameMembers : List (String × Json) → List (String × Json) → Bool
  | [], [] => true
  | (k, a) :: as, (l, b) :: bs => k == l && same a b && sameMembers as bs
  | _, _ => false

end

mutual

theorem same_iff : (a b : Json) → (same a b = true ↔ a = b)
  | null, b => by cases b <;> simp [same]
  | bool a, b => by cases b <;> simp [same]
  | int a, b => by cases b <;> simp [same]
  | float a, b => by cases b <;> simp [same]
  | str a, b => by cases b <;> simp [same]
  | arr a, b => by
    cases b with
    | arr b => simp [same, sameItems_iff a b]
    | _ => simp [same]
  | obj a, b => by
    cases b with
    | obj b => simp [same, sameMembers_iff a b]
    | _ => simp [same]

theorem sameItems_iff : (a b : List Json) → (sameItems a b = true ↔ a = b)
  | [], b => by cases b <;> simp [sameItems]
  | a :: as, [] => by simp [sameItems]
  | a :: as, b :: bs => by simp [sameItems, same_iff a b, sameItems_iff as bs]

theorem sameMembers_iff : (a b : List (String × Json)) → (sameMembers a b = true ↔ a = b)
  | [], b => by cases b <;> simp [sameMembers]
  | a :: as, [] => by simp [sameMembers]
  | (k, a) :: as, (l, b) :: bs => by
    simp [sameMembers, same_iff a b, sameMembers_iff as bs, and_assoc]

end

instance : DecidableEq Json := fun a b => decidable_of_iff _ (same_iff a b)

/-! ### Members -/

/-- The value of a key in a list of members, the first one if it is repeated. -/
def get? (members : List (String × Json)) (key : String) : Option Json :=
  members.lookup key

/-- The members after a key is given a value: in its place if it is there, at the end otherwise. -/
def put : List (String × Json) → String → Json → List (String × Json)
  | [], key, value => [(key, value)]
  | (k, v) :: rest, key, value => if k = key then (k, value) :: rest else (k, v) :: put rest key value

mutual

/-- No object of the value repeats a key. -/
def DistinctKeys : Json → Prop
  | arr items => DistinctKeysItems items
  | obj members => (members.map (·.1)).Nodup ∧ DistinctKeysMembers members
  | _ => True

def DistinctKeysItems : List Json → Prop
  | [] => True
  | item :: rest => DistinctKeys item ∧ DistinctKeysItems rest

def DistinctKeysMembers : List (String × Json) → Prop
  | [] => True
  | (_, value) :: rest => DistinctKeys value ∧ DistinctKeysMembers rest

end

/-! ### Building blocks -/

/-- A string, or null if there is none. -/
def ofOption : Option String → Json
  | none => null
  | some s => str s

def strings (values : List String) : Json :=
  arr (values.map str)

end Json

end RegistrySearch
