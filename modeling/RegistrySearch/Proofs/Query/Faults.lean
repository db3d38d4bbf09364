import RegistrySearch.Proofs.Query.Grammar
import RegistrySearch.Query.Payload

/-!
# Faults of payloads

What can be wrong with a payload, told from the grammar alone and without a reader. A payload can have many faults at once, so each has a place in an order: from the outside to the inside, one clause after the other, and in a clause all other members before the declaration fields. A place is a list of numbers, and places are compared from the front. Which failure reports which fault is told here as well, and what such a report begins with.
-/

namespace RegistrySearch

/-! ### Faults -/

/-- The tag of what is given for a declaration field: the `type` member of an object, null if it has none, and the name of what it is if it is no object. -/
inductive Json.HasTag : Json → Json → Prop
  | given {members : List (String × Json)} {tag : Json} (h : Json.get? members "type" = some tag) :
      HasTag (.obj members) tag
  | absent {members : List (String × Json)} (h : Json.get? members "type" = none) : HasTag (.obj members) .null
  | null : HasTag .null (.str "NoneType")
  | bool (value : Bool) : HasTag (.bool value) (.str "bool")
  | int (value : Int) : HasTag (.int value) (.str "int")
  | float (value : Binary64) : HasTag (.float value) (.str "float")
  | str (value : String) : HasTag (.str value) (.str "str")
  | arr (items : List Json) : HasTag (.arr items) (.str "list")

theorem Json.hasTag_iff {v tag : Json} : v.HasTag tag ↔ Criterion.rawTag v = tag := by
  constructor
  · intro h
    cases h with
    | given h => rw [Criterion.rawTag, h]; rfl
    | absent h => rw [Criterion.rawTag, h]; rfl
    | _ => rfl
  · rintro rfl
    cases v with
    | obj members =>
        rw [Criterion.rawTag]
        cases htype : Json.get? members "type" with
        | none => exact .absent htype
        | some tag => exact .given htype
    | null => exact .null
    | bool value => exact .bool value
    | int value => exact .int value
    | float value => exact .float value
    | str value => exact .str value
    | arr items => exact .arr items

/-- What can be wrong with the criterion of a declaration field. -/
inductive CriterionFault where
  | unsupported (tag : Json)
  | malformed

inductive ClauseFault where
  | notAnObject
  /-- A member other than the declaration fields is wrong. -/
  | member
  | dataNotAnObject
  | criterion (position : Nat) (field : String) (fault : CriterionFault)

inductive PayloadFault where
  | notAnObject
  | clausesNotAnArray
  | operatorNotText
  | clause (index : Nat) (fault : ClauseFault)

def CriterionFault.IsOf : CriterionFault → Json → Prop
  | unsupported tag, v => v.HasTag tag ∧ ∀ word ∈ ["exact", "fuzzy", "anyOf", "range"], tag ≠ .str word
  | malformed, v => ¬ Form.field.Accepts v

/-- Some member that the grammar knows, besides the declaration fields, is neither null nor what its place takes. -/
def Clause.HasWrongMember (members : List (String × Json)) : Prop :=
  (∃ type, Json.get? members "eventType" = some type ∧ type ≠ .null ∧ ∀ s, type ≠ .str s)
    ∨ ∃ (field : RecordField) (v : Json), Json.get? members field.written.1 = some v ∧ v ≠ .null
      ∧ ¬ field.written.2.Accepts v

def ClauseFault.IsOf : ClauseFault → Json → Prop
  | notAnObject, v => ∀ members, v ≠ .obj members
  | member, v => ∃ members, v = .obj members ∧ Clause.HasWrongMember members
  | dataNotAnObject, v => ∃ members data, v = .obj members ∧ Json.get? members "data" = some data
      ∧ data ≠ .null ∧ ∀ entries, data ≠ .obj entries
  | criterion position field fault, v => ∃ members entries given, v = .obj members
      ∧ Json.get? members "data" = some (.obj entries) ∧ entries[position]? = some (field, given) ∧ fault.IsOf given

def PayloadFault.IsOf : PayloadFault → Json → Prop
  | notAnObject, v => ∀ members, v ≠ .obj members
  | clausesNotAnArray, v => ∃ members clauses, v = .obj members ∧ Json.get? members "clauses" = some clauses
      ∧ ∀ values, clauses ≠ .arr values
  | operatorNotText, v => ∃ members, v = .obj members ∧ ∀ operator, Json.get? members "type" ≠ some (.str operator)
  | clause index fault, v => ∃ members values given, v = .obj members
      ∧ Json.get? members "clauses" = some (.arr values) ∧ values[index]? = some given ∧ fault.IsOf given

/-! ### Their order -/

/-- The place of a fault in the order. Places are compared from the front. -/
def CriterionFault.rank : CriterionFault → List Nat
  | unsupported _ => [0]
  | malformed => [1]

def ClauseFault.rank : ClauseFault → List Nat
  | notAnObject => [0]
  | member => [1]
  | dataNotAnObject => [2]
  | criterion position _ fault => 3 :: position :: fault.rank

def PayloadFault.rank : PayloadFault → List Nat
  | notAnObject => [0]
  | clausesNotAnArray => [1]
  | operatorNotText => [2]
  | clause index fault => 3 :: index :: fault.rank

/-- Of the faults that there are, this one comes before all others. -/
structure IsFirst {φ : Type} (rank : φ → List Nat) (has : φ → Prop) (fault : φ) : Prop where
  isThere : has fault
  before : ∀ other, has other → other = fault ∨ rank fault < rank other

/-- A first fault of the first element that has any is first among the faults of all elements. -/
theorem IsFirst.eq_or_before {φ α : Type} (isOf : φ → α → Prop) {rank : φ → List Nat} {xs : List α} {i : Nat} {x : α}
    {fault : φ} (h : IsFirst rank (fun other => isOf other x) fault) (hx : xs[i]? = some x)
    (hnone : ∀ j < i, ∀ y, xs[j]? = some y → ∀ other, ¬ isOf other y) {j : Nat} {y : α} {other : φ}
    (hy : xs[j]? = some y) (hother : isOf other y) :
    (j = i ∧ y = x ∧ other = fault) ∨ i :: rank fault < j :: rank other := by
  -- Elements before have no faults, those after come later, and in the element itself the fault is first.
  rcases Nat.lt_trichotomy j i with hlt | rfl | hgt
  · exact absurd hother (hnone j hlt y hy other)
  · cases hx.symm.trans hy
    rcases h.before other hother with heq | hlt
    · exact .inl ⟨rfl, rfl, heq⟩
    · exact .inr (List.cons_lt_cons_iff.2 (.inr ⟨rfl, hlt⟩))
  · exact .inr (List.cons_lt_cons_iff.2 (.inl hgt))

theorem rank_lt_of_head {a b : Nat} {as bs : List Nat} (h : a < b) : a :: as < b :: bs :=
  List.cons_lt_cons_iff.2 (.inl h)

/-! ### Reports -/

/-- The failure is the one that reports the fault, for the declaration field. -/
def CriterionFault.ReportedBy (field : String) (failure : QueryFailure) : CriterionFault → Prop
  | unsupported tag => ∃ u, failure = .unsupported u ∧ u.field = field ∧ u.tag = tag
  | malformed => ∃ cause, failure = .criterion field cause

/-- The failure is the one that reports the fault, for the clause with the place. -/
def ClauseFault.ReportedBy (index : Nat) (failure : QueryFailure) : ClauseFault → Prop
  | notAnObject => failure = .clauseNotAnObject index
  | member => ∃ cause, failure = .clause index cause
  | dataNotAnObject => failure = .dataNotAnObject
  | criterion _ field fault => fault.ReportedBy field failure

def PayloadFault.ReportedBy (failure : QueryFailure) : PayloadFault → Prop
  | notAnObject => failure = .notAnObject
  | clausesNotAnArray => failure = .clausesNotAnArray
  | operatorNotText => ∃ cause, failure = .operator cause
  | clause index fault => fault.ReportedBy index failure

/-! ### What a failure says -/

namespace PayloadFault

/-- What the report of a fault begins with: what was read when it was met, with the place of the clause or the id of the declaration field. -/
def heading : PayloadFault → String
  | notAnObject => "Search payload must be an object"
  | clausesNotAnArray => "Search payload 'clauses' must be an array"
  | operatorNotText => "Invalid search operator: "
  | clause index .notAnObject => "Clause " ++ toString index ++ " must be an object"
  | clause index .member => "Invalid clause " ++ toString index ++ ": "
  | clause _ .dataNotAnObject => "Clause 'data' must be an object"
  | clause _ (.criterion _ field (.unsupported tag)) =>
    "Unsupported query type: " ++ Quoted.value tag ++ " for field " ++ Quoted.text field
  | clause _ (.criterion _ field .malformed) => "Invalid criterion for field " ++ Quoted.text field ++ ": "

variable {failure : QueryFailure}

theorem exists_message_eq {fault : PayloadFault} (h : fault.ReportedBy failure) :
    ∃ rest, failure.message = fault.heading ++ rest := by
  have hwhole : ∀ s : String, ∃ rest, s = s ++ rest := fun s => ⟨"", (String.append_empty).symm⟩
  cases fault with
  | notAnObject => cases h; exact hwhole _
  | clausesNotAnArray => cases h; exact hwhole _
  | operatorNotText => obtain ⟨cause, rfl⟩ := h; exact ⟨cause.message, rfl⟩
  | clause index fault =>
      cases fault with
      | notAnObject => cases h; exact hwhole _
      | member => obtain ⟨cause, rfl⟩ := h; exact ⟨cause.message, rfl⟩
      | dataNotAnObject => cases h; exact hwhole _
      | criterion position field fault =>
          cases fault with
          | unsupported tag => obtain ⟨u, rfl, rfl, rfl⟩ := h; exact ⟨_, rfl⟩
          | malformed => obtain ⟨cause, rfl⟩ := h; exact ⟨cause.message, rfl⟩

theorem unsupported_iff {fault : PayloadFault} (h : fault.ReportedBy failure) :
    (∃ u, failure = .unsupported u)
      ↔ ∃ index position field tag, fault = .clause index (.criterion position field (.unsupported tag)) := by
  constructor
  · intro hfailure
    obtain ⟨u, rfl⟩ := hfailure
    cases fault with
    | clause index fault =>
        cases fault with
        | criterion position field fault =>
            cases fault with
            | unsupported tag => exact ⟨index, position, field, tag, rfl⟩
            | malformed => obtain ⟨cause, hcause⟩ := h; cases hcause
        | member => obtain ⟨cause, hcause⟩ := h; cases hcause
        | _ => cases h
    | operatorNotText => obtain ⟨cause, hcause⟩ := h; cases hcause
    | _ => cases h
  · intro hfault
    obtain ⟨index, position, field, tag, rfl⟩ := hfault
    obtain ⟨u, hfailure, -⟩ := h
    exact ⟨u, hfailure⟩

end PayloadFault

end RegistrySearch
