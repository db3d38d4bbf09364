import RegistrySearch.Config.Date
import RegistrySearch.Json.Basic
import RegistrySearch.Text.CodePoint

/-!
# Configuration values

What configuration files hold: scalars, lists, and maps whose keys are scalars. A map keeps the order of its keys. Keys that are equal as numbers are the same key: `1`, `1.0` and `true`. So are two points in time with known offsets if they are the same instant.

`merge` lays one configuration over another. Where both have a map under a key, the maps are merged; everywhere else the later value replaces the earlier one.
-/

namespace RegistrySearch

inductive Scalar where
  | null
  | bool (value : Bool)
  | int (value : Int)
  | float (value : Binary64)
  | text (value : String)
  /-- A text with halves of surrogate pairs in it. -/
  | halves (value : List CodePoint)
  | binary (octets : List UInt8)
  | date (value : Date)
  | dateTime (value : DateTime)
deriving DecidableEq, Inhabited

/-- What two scalars have in common if they are the same key. -/
inductive KeyForm where
  | number (value : Int)
  /-- The time that has passed until an instant. -/
  | instant (microseconds : Int)
  | alone (value : Scalar)
deriving DecidableEq

namespace Scalar

def ofCodePoints (text : List CodePoint) : Scalar :=
  match CodePoint.chars? text with
  | some cs => .text (String.ofList cs)
  | none => halves text

def kind : Scalar → ValueKind
  | null => .null
  | bool _ => .bool
  | int _ => .int
  | float _ => .float
  | text _ => .text
  | halves _ => .text
  | binary _ => .binary
  | date _ => .date
  | dateTime _ => .dateTime

/-- The integer that a number without a fraction is equal to. -/
def integer? : Scalar → Option Int
  | bool b => some (if b then 1 else 0)
  | int n => some n
  | float (.finite negative mantissa exponent) =>
    let r := Binary64.ratio mantissa exponent
    if r.1 % r.2 = 0 then
      let n : Int := (r.1 / r.2 : Nat)
      some (if negative then -n else n)
    else none
  | _ => none

def keyForm (s : Scalar) : KeyForm :=
  match s.integer?, s with
  | some n, _ => .number n
  | none, dateTime t => match t.instant? with
    | some n => .instant n
    | none => .alone s
  | none, s => .alone s

def sameKey (a b : Scalar) : Bool :=
  a.keyForm = b.keyForm

end Scalar

inductive ConfigValue where
  | scalar (value : Scalar)
  | list (items : List ConfigValue)
  | map (entries : List (Scalar × ConfigValue))
deriving Inhabited

abbrev Config := List (Scalar × ConfigValue)

namespace ConfigValue

def kind : ConfigValue → ValueKind
  | scalar s => s.kind
  | list _ => .list
  | map _ => .map

/-- The value says nothing: null, false, zero, or without content. -/
def isBlank : ConfigValue → Bool
  | scalar .null => true
  | scalar (.bool b) => !b
  | scalar (.int n) => n = 0
  | scalar (.float (.finite _ mantissa _)) => mantissa = 0
  | scalar (.text s) => s.isEmpty
  | scalar (.halves s) => s.isEmpty
  | scalar (.binary octets) => octets.isEmpty
  | scalar _ => false
  | list items => items.isEmpty
  | map entries => entries.isEmpty

mutual

def ofJson : Json → ConfigValue
  | .null => scalar .null
  | .bool b => scalar (.bool b)
  | .int n => scalar (.int n)
  | .float x => scalar (.float x)
  | .str s => scalar (.text s)
  | .arr items => list (ofItems items)
  | .obj members => map (ofMembers members)

def ofItems : List Json → List ConfigValue
  | [] => []
  | item :: rest => ofJson item :: ofItems rest

def ofMembers : List (String × Json) → Config
  | [] => []
  | (key, value) :: rest => (.text key, ofJson value) :: ofMembers rest

end

/-! ### Equality -/

mutual

/-- Structural equality, decided. -/
def same : ConfigValue → ConfigValue → Bool
  | scalar a, scalar b => a == b
  | list a, list b => sameItems a b
  | map a, map b => sameEntries a b
  | _, _ => false

def sameItems : List ConfigValue → List ConfigValue → Bool
  | [], [] => true
  | a :: as, b :: bs => same a b && sameItems as bs
  | _, _ => false

def sameEntries : Config → Config → Bool
  | [], [] => true
  | (k, a) :: as, (l, b) :: bs => k == l && same a b && sameEntries as bs
  | _, _ => false

end

mutual

theorem same_iff : (a b : ConfigValue) → (same a b = true ↔ a = b)
  | scalar a, b => by cases b <;> simp [same]
  | list a, b => by
    cases b with
    | list b => simp [same, sameItems_iff a b]
    | _ => simp [same]
  | map a, b => by
    cases b with
    | map b => simp [same, sameEntries_iff a b]
    | _ => simp [same]

theorem sameItems_iff : (a b : List ConfigValue) → (sameItems a b = true ↔ a = b)
  | [], b => by cases b <;> simp [sameItems]
  | a :: as, [] => by simp [sameItems]
  | a :: as, b :: bs => by simp [sameItems, same_iff a b, sameItems_iff as bs]

theorem sameEntries_iff : (a b : Config) → (sameEntries a b = true ↔ a = b)
  | [], b => by cases b <;> simp [sameEntries]
  | a :: as, [] => by simp [sameEntries]
  | (k, a) :: as, (l, b) :: bs => by
    simp [sameEntries, same_iff a b, sameEntries_iff as bs, and_assoc]

end

instance : DecidableEq ConfigValue := fun a b => decidable_of_iff _ (same_iff a b)

end ConfigValue

namespace Config

def get? : Config → Scalar → Option ConfigValue
  | [], _ => none
  | (k, v) :: rest, key => if k.sameKey key then some v else get? rest key

/-- The entries after a key is given a value: `value old` in its place if it is there with the value `old`, and otherwise `value none` at the end. A key that is there keeps its place and its form. -/
def update {α : Type} (value : Option α → α) : List (Scalar × α) → Scalar → List (Scalar × α)
  | [], key => [(key, value none)]
  | (k, v) :: rest, key => if k.sameKey key then (k, value (some v)) :: rest else (k, v) :: update value rest key

/-! ### Merging

`mergeBy` is the merging of one configuration over another, for any effect of nested calls. Nothing hinders them in `merge`; where settings are loaded they have to find room.
-/

section

variable {m : Type → Type} [Monad m] (nested : m Config → m Config)

mutual

/-- The value of a key that had one before and is given another one. Two maps are merged by a nested call. -/
def mergeValueBy (old : Option ConfigValue) : ConfigValue → m ConfigValue
  | .map entries =>
    match old with
    | some (.map before) => .map <$> nested (mergeBy before entries)
    | _ => pure (.map entries)
  | value => pure value

def mergeBy (base : Config) : Config → m Config
  | [] => pure base
  | (key, value) :: rest => do
    let value ← mergeValueBy (get? base key) value
    mergeBy (update (fun _ => value) base key) rest

end

end

def mergeValue (old : Option ConfigValue) (value : ConfigValue) : ConfigValue :=
  Id.run (mergeValueBy id old value)

/-- One configuration with another one laid over it. -/
def merge (base next : Config) : Config :=
  Id.run (mergeBy id base next)

/-- Configurations laid over each other in their order. -/
def mergeAll (configs : List Config) : Config :=
  configs.foldl merge []

end Config

end RegistrySearch
