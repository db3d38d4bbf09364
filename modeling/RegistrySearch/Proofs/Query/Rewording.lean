import Mathlib.Logic.Relation
import RegistrySearch.Proofs.Query.FirstFault

/-!
# Rewording a payload

A payload can be written in many ways that mean the same: the members of an object in another order, with members that no model knows, or with a null where a clause has nothing. `PayloadEdit` is one such change, at the payload, at one of its clauses or at one criterion, and `Query.Reworded` any number of them. Only the order of the declaration fields of a clause is left alone.

Checks run in the order of the members, so an edit may change which fault is met first, and with it the message. It changes neither the query that is read nor the class of the failure, nor what an unsupported criterion is reported with (`Query.outcome_of_reworded`). The reason is the same at each level: an edit changes what is found by a key only where the model looks for nothing, or where an edited part stands (`ObjectEdit.placeEdit`).
-/

namespace RegistrySearch

/-! ### Edits of an object -/

/-- One change of an object: a new order of its members, a new member that counts as noise, or a change inside of a member. -/
inductive ObjectEdit (noise : List (String × Json) → String → Json → Prop) (inner : String → Json → Json → Prop) :
    Json → Json → Prop
  | reorder {members others : List (String × Json)} (h : members.Perm others) :
    ObjectEdit noise inner (.obj members) (.obj others)
  | add {members : List (String × Json)} {key : String} {value : Json} (hkey : key ∉ members.map (·.1))
    (hvalue : value.DistinctKeys) (h : noise members key value) :
    ObjectEdit noise inner (.obj members) (.obj ((key, value) :: members))
  | inside {before after : List (String × Json)} {key : String} {v w : Json} (h : inner key v w) :
    ObjectEdit noise inner (.obj (before ++ (key, v) :: after)) (.obj (before ++ (key, w) :: after))

/-- What an edit of an object does to the value of one key. -/
inductive PlaceEdit (noise : Json → Prop) (inner : Json → Json → Prop) : Option Json → Option Json → Prop
  | same (place : Option Json) : PlaceEdit noise inner place place
  | added {value : Json} (h : noise value) : PlaceEdit noise inner none (some value)
  | edited {v w : Json} (h : inner v w) : PlaceEdit noise inner (some v) (some w)

namespace ObjectEdit

variable {noise : List (String × Json) → String → Json → Prop} {inner : String → Json → Json → Prop} {v w : Json}
  {members others : List (String × Json)}

theorem exists_members (h : ObjectEdit noise inner v w) : ∃ members others, v = .obj members ∧ w = .obj others := by
  cases h with
  | reorder _ => exact ⟨_, _, rfl, rfl⟩
  | add _ _ _ => exact ⟨_, _, rfl, rfl⟩
  | inside _ => exact ⟨_, _, rfl, rfl⟩

theorem distinctKeys (h : ObjectEdit noise inner v w)
    (hinner : ∀ {key v w}, inner key v w → v.DistinctKeys → w.DistinctKeys) (hd : v.DistinctKeys) :
    w.DistinctKeys := by
  cases h with
  | reorder h =>
      obtain ⟨hnodup, hvalues⟩ := Json.distinctKeys_obj.1 hd
      exact Json.distinctKeys_obj.2 ⟨(h.map (·.1)).nodup_iff.1 hnodup, fun member hmember =>
        hvalues member (h.mem_iff.2 hmember)⟩
  | add hkey hvalue _ =>
      obtain ⟨hnodup, hvalues⟩ := Json.distinctKeys_obj.1 hd
      refine Json.distinctKeys_obj.2 ⟨List.nodup_cons.2 ⟨hkey, hnodup⟩, ?_⟩
      exact List.forall_mem_cons.2 ⟨hvalue, hvalues⟩
  | inside h => exact hd.replaceValue (hinner h)

theorem placeEdit (h : ObjectEdit noise inner (.obj members) (.obj others)) (hd : (Json.obj members).DistinctKeys)
    (key : String) :
    PlaceEdit (noise members key) (inner key) (Json.get? members key) (Json.get? others key) := by
  have hnodup := (Json.distinctKeys_obj.1 hd).1
  cases h with
  | reorder h =>
      rw [Json.get?_of_perm h hnodup]
      exact .same _
  | @add _ added value hkey _ hnoise =>
      by_cases heq : key = added
      · subst heq
        rw [Json.get?_of_notMem hkey, Json.get?, List.lookup_cons_self]
        exact .added hnoise
      · rw [Json.get?, Json.get?, List.lookup_cons, beq_false_of_ne heq]
        exact .same _
  | @inside before after edited v w hinner =>
      by_cases heq : key = edited
      · subst heq
        have hnodup' : ((before ++ (key, w) :: after).map (·.1)).Nodup := by
          rw [List.map_append, List.map_cons] at hnodup ⊢
          exact hnodup
        rw [Json.get?_of_mem hnodup (List.mem_append_right _ List.mem_cons_self),
          Json.get?_of_mem hnodup' (List.mem_append_right _ List.mem_cons_self)]
        exact .edited hinner
      · have hother : ∀ x, Json.get? (before ++ (edited, x) :: after) key
            = (Json.get? before key).or (Json.get? after key) := by
          intro x
          rw [Json.get?, List.lookup_append, List.lookup_cons, beq_false_of_ne heq]
          rfl
        rw [hother, hother]
        exact .same _

end ObjectEdit

namespace PlaceEdit

variable {noise : Json → Prop} {inner : Json → Json → Prop} {place other : Option Json}

theorem eq (h : PlaceEdit noise inner place other) (hnoise : ∀ value, ¬ noise value) (hinner : ∀ v w, ¬ inner v w) :
    other = place := by
  cases h with
  | same => rfl
  | added h => exact absurd h (hnoise _)
  | edited h => exact absurd h (hinner _ _)

end PlaceEdit

/-! ### Criteria -/

/-- The keys of the members that a criterion of the variant has beside the tag. -/
def Variant.keys : Variant → List String
  | exact => ["term"]
  | fuzzy => ["term"]
  | anyOf => ["terms"]
  | range => ["gte", "lte"]
  | within => ["location"]

/-- The key is neither the tag nor one that the variant has which the tag tells. -/
def Form.Ignores (form : Form) (members : List (String × Json)) (key : String) : Prop :=
  key ≠ "type" ∧ ∀ variant, form.Allows members variant → key ∉ variant.keys

/-- One change of a criterion's object. -/
def CriterionEdit (form : Form) : Json → Json → Prop :=
  ObjectEdit (fun members key _ => form.Ignores members key) fun _ _ _ => False

theorem Criterion.spelledBy_congr {criterion : Criterion} {variant : Variant} {members others : List (String × Json)}
    (hvariant : criterion.variant? = some variant)
    (h : ∀ key ∈ variant.keys, Json.get? others key = Json.get? members key) :
    criterion.SpelledBy others ↔ criterion.SpelledBy members := by
  cases criterion with
  | range gte lte =>
      cases hvariant
      rw [SpelledBy, SpelledBy, h "gte" (by decide), h "lte" (by decide)]
  | raw value => cases hvariant
  | _ =>
      cases hvariant
      rw [SpelledBy, SpelledBy, h _ List.mem_cons_self]

namespace CriterionEdit

variable {form : Form} {v w : Json}

theorem distinctKeys (h : CriterionEdit form v w) (hd : v.DistinctKeys) : w.DistinctKeys :=
  ObjectEdit.distinctKeys h (fun hfalse => hfalse.elim) hd

theorem get?_type {members others : List (String × Json)} (h : CriterionEdit form (.obj members) (.obj others))
    (hd : (Json.obj members).DistinctKeys) : Json.get? others "type" = Json.get? members "type" :=
  (ObjectEdit.placeEdit h hd "type").eq (fun _ hignored => hignored.1 rfl) fun _ _ => id

theorem spells_iff (h : CriterionEdit form v w) (hd : v.DistinctKeys) {criterion : Criterion} :
    form.Spells v criterion ↔ form.Spells w criterion := by
  obtain ⟨members, others, rfl, rfl⟩ := ObjectEdit.exists_members h
  have hallows : ∀ variant, form.Allows others variant ↔ form.Allows members variant := by
    intro variant
    cases form with
    | tagged variants => rw [Form.Allows, Form.Allows, h.get?_type hd]
    | single only => rw [Form.Allows, Form.Allows, h.get?_type hd]
  have hmembers : ∀ variant, form.Allows members variant → criterion.variant? = some variant →
      (criterion.SpelledBy others ↔ criterion.SpelledBy members) := by
    intro variant hallowed hvariant
    apply Criterion.spelledBy_congr hvariant
    intro key hkey
    exact (ObjectEdit.placeEdit h hd key).eq (fun _ hignored => hignored.2 variant hallowed hkey) fun _ _ => id
  constructor
  · intro hspells
    obtain ⟨_, variant, hobj, hallowed, hvariant, hspelled⟩ := hspells
    cases hobj
    exact ⟨others, variant, rfl, (hallows variant).2 hallowed, hvariant, (hmembers variant hallowed hvariant).2 hspelled⟩
  · intro hspells
    obtain ⟨_, variant, hobj, hallowed, hvariant, hspelled⟩ := hspells
    cases hobj
    have hbefore := (hallows variant).1 hallowed
    exact ⟨members, variant, rfl, hbefore, hvariant, (hmembers variant hbefore hvariant).1 hspelled⟩

theorem rawTag_eq (h : CriterionEdit form v w) (hd : v.DistinctKeys) : Criterion.rawTag w = Criterion.rawTag v := by
  obtain ⟨members, others, rfl, rfl⟩ := ObjectEdit.exists_members h
  rw [Criterion.rawTag, Criterion.rawTag, h.get?_type hd]

end CriterionEdit

/-! ### Outcomes -/

/-- The unsupported criterion that a failure tells of. All other failures are of one class. -/
def QueryFailure.unsupported? : QueryFailure → Option UnsupportedCriterion
  | unsupported u => some u
  | _ => none

/-- What remains of a computation's end if the texts of its failures do not count. -/
def outcomeOf {α : Type} (outcome : Except QueryFailure α) : Except (Option UnsupportedCriterion) α :=
  outcome.mapError QueryFailure.unsupported?

section Outcomes

variable {α β : Type} {outcome : Except QueryFailure α}

theorem outcomeOf_eq_ok {value : α} : outcomeOf outcome = .ok value ↔ outcome = .ok value :=
  mapError_eq_ok

theorem outcomeOf_eq_unsupported {u : UnsupportedCriterion} :
    outcomeOf outcome = .error (some u) ↔ outcome = .error (.unsupported u) := by
  rw [outcomeOf, mapError_eq_error]
  constructor
  · intro h
    obtain ⟨failure, rfl, hfailure⟩ := h
    cases failure with
    | unsupported => rw [Option.some.inj hfailure]
    | _ => cases hfailure
  · intro h
    exact ⟨_, h, rfl⟩

theorem outcomeOf_eq_other :
    outcomeOf outcome = .error none ↔ ∃ failure, outcome = .error failure ∧ ∀ u, failure ≠ .unsupported u := by
  rw [outcomeOf, mapError_eq_error]
  apply exists_congr
  intro failure
  cases failure <;> simp [QueryFailure.unsupported?]

theorem outcomeOf_bind_congr {first second : Except QueryFailure α}
    {next other : α → Except QueryFailure β} (h : outcomeOf first = outcomeOf second)
    (hnext : ∀ value, outcomeOf (next value) = outcomeOf (other value)) :
    outcomeOf (first >>= next) = outcomeOf (second >>= other) :=
  mapError_bind_congr h hnext

end Outcomes

/-! ### Declaration fields -/

/-- One change of a criterion among the declaration fields, which stay in their order. -/
inductive DataEdit : Json → Json → Prop
  | entry {before after : List (String × Json)} {id : String} {v w : Json} (h : CriterionEdit .field v w) :
    DataEdit (.obj (before ++ (id, v) :: after)) (.obj (before ++ (id, w) :: after))

/-- A declaration field fails as one with an unsupported criterion exactly if the tag is none of those that are known. -/
theorem Criterion.unsupported?_of_parse {v : Json} {id : String} {failure : QueryFailure}
    (h : (raw v).parse id = .error failure) :
    failure.unsupported? = if ∃ variant ∈ Variant.field, rawTag v = .str variant.tag then none
      else some (.of id (rawTag v) UnsupportedCriterion.supportedTags) := by
  rcases parse_raw_eq_error h with ⟨tag, ⟨htag, hunknown⟩, rfl⟩ | ⟨⟨variant, hvariant, htag⟩, cause, rfl⟩
  · rw [Json.hasTag_iff] at htag
    have hnot : ¬ ∃ variant ∈ Variant.field, rawTag v = .str variant.tag := by
      intro hknown
      obtain ⟨variant, hvariant, hknown⟩ := hknown
      exact hunknown _ (List.mem_map_of_mem (f := Variant.tag) hvariant) (htag.symm.trans hknown)
    rw [if_neg hnot, htag]
    rfl
  · rw [if_pos ⟨variant, hvariant, Json.hasTag_iff.1 htag⟩]
    rfl

theorem CriterionEdit.outcomeOf_parse {v w : Json} (h : CriterionEdit .field v w) (hd : v.DistinctKeys)
    (id : String) : outcomeOf ((Criterion.raw v).parse id) = outcomeOf ((Criterion.raw w).parse id) := by
  apply mapError_congr
  · intro criterion
    constructor
    · intro hv
      exact Criterion.parse_raw_eq_ok (h.distinctKeys hd) ((h.spells_iff hd).1 (Criterion.parse_raw_spells hv))
    · intro hw
      exact Criterion.parse_raw_eq_ok hd ((h.spells_iff hd).2 (Criterion.parse_raw_spells hw))
  · intro failure other hv hw
    rw [Criterion.unsupported?_of_parse hv, Criterion.unsupported?_of_parse hw, h.rawTag_eq hd]

namespace DataEdit

variable {v w : Json}

theorem distinctKeys (h : DataEdit v w) (hd : v.DistinctKeys) : w.DistinctKeys := by
  cases h with
  | entry h => exact hd.replaceValue h.distinctKeys

theorem outcomeOf_parseData (h : DataEdit v w) (hd : v.DistinctKeys) :
    outcomeOf (Clause.parseData v) = outcomeOf (Clause.parseData w) := by
  cases h with
  | @entry before after id v w h =>
      have hvalue : v.DistinctKeys := (Json.distinctKeys_obj.1 hd).2 (id, v) (List.mem_append_right _ List.mem_cons_self)
      clear hd
      -- The fields before the edited one are read alike, and the reader stops at none of them because of the edit.
      change outcomeOf (Clause.parseFields _) = outcomeOf (Clause.parseFields _)
      induction before with
      | nil => exact outcomeOf_bind_congr (h.outcomeOf_parse hvalue id) fun _ => rfl
      | cons entry before ih =>
          exact outcomeOf_bind_congr rfl fun criterion => outcomeOf_bind_congr ih fun others => rfl

end DataEdit

/-! ### Clauses -/

/-- The keys that a clause knows. -/
def Clause.keys : List String :=
  "eventType" :: "data" :: RecordField.all.map fun field => field.written.1

theorem RecordField.written_fst_injective : Function.Injective fun field : RecordField => field.written.1 := by
  intro first second
  cases first <;> cases second <;> decide

theorem RecordField.written_fst_ne (field : RecordField) :
    field.written.1 ≠ "eventType" ∧ field.written.1 ≠ "data" := by
  cases field <;> decide

theorem RecordField.written_fst_mem_keys (field : RecordField) : field.written.1 ∈ Clause.keys :=
  List.mem_cons_of_mem _ (List.mem_cons_of_mem _ (List.mem_map_of_mem field.mem_all))

/-- A clause is read from its members, without its declaration fields, exactly if they stand in its places. -/
theorem Clause.ofMembers_eq_ok_iff {members : List (String × Json)} (hd : (Json.obj members).DistinctKeys)
    {clause : Clause} :
    ofMembers members = .ok clause
      ↔ Slot (fun v s => v = .str s) (Json.get? members "eventType") clause.eventType
        ∧ (∀ field : RecordField,
          Slot field.written.2.Spells (Json.get? members field.written.1) (clause.criterion field))
        ∧ clause.data = none := by
  simp only [RecordField.written_fst]
  constructor
  · intro h
    obtain ⟨htype, hfields⟩ := ofMembers_spells h
    have hchecked := (Members.check_bind_eq_ok_iff.1 h).2
    exact ⟨htype, hfields, (ofChecked_eq_ok_iff.1 hchecked).2.2⟩
  · intro h
    obtain ⟨htype, hfields, hdata⟩ := h
    exact ofMembers_eq_ok hd htype hfields hdata

/-- What can be changed inside of a member of a clause. -/
inductive MemberEdit : String → Json → Json → Prop
  | record {field : RecordField} {v w : Json} (h : CriterionEdit field.written.2 v w) : MemberEdit field.written.1 v w
  | data {v w : Json} (h : DataEdit v w) : MemberEdit "data" v w

/-- One change of a clause's object, or of a criterion in it. A new member has a key that clauses do not know, or is null. -/
def ClauseEdit : Json → Json → Prop :=
  ObjectEdit (fun _ key value => key ∉ Clause.keys ∨ value = .null) MemberEdit

namespace MemberEdit

variable {key : String} {v w : Json}

theorem distinctKeys (h : MemberEdit key v w) (hd : v.DistinctKeys) : w.DistinctKeys := by
  cases h with
  | record h => exact h.distinctKeys hd
  | data h => exact h.distinctKeys hd

theorem exists_members (h : MemberEdit key v w) : ∃ members others, v = .obj members ∧ w = .obj others := by
  cases h with
  | record h => exact ObjectEdit.exists_members h
  | data h => cases h with | entry h => exact ⟨_, _, rfl, rfl⟩

theorem key_ne_eventType (h : MemberEdit key v w) : key ≠ "eventType" := by
  cases h with
  | @record field => exact field.written_fst_ne.1
  | data => decide

theorem criterionEdit {field : RecordField} (h : MemberEdit key v w) (hkey : key = field.written.1) :
    CriterionEdit field.written.2 v w := by
  cases h with
  | @record other _ _ h =>
      cases RecordField.written_fst_injective hkey
      exact h
  | data => exact absurd hkey.symm field.written_fst_ne.2

theorem dataEdit (h : MemberEdit key v w) (hkey : key = "data") : DataEdit v w := by
  cases h with
  | @record field => exact absurd hkey field.written_fst_ne.2
  | data h => exact h

end MemberEdit

namespace ClauseEdit

variable {v w : Json} {members others : List (String × Json)}

theorem distinctKeys (h : ClauseEdit v w) (hd : v.DistinctKeys) : w.DistinctKeys :=
  ObjectEdit.distinctKeys h MemberEdit.distinctKeys hd

/-- A place that a clause knows holds the same after an edit, if inner edits change nothing of it. -/
theorem slot_iff {α : Type} {spells : Json → α → Prop} {key : String}
    (h : ClauseEdit (.obj members) (.obj others)) (hd : (Json.obj members).DistinctKeys) (hkey : key ∈ Clause.keys)
    (hnull : ∀ x, ¬ spells .null x)
    (hinner : ∀ v w, Json.get? members key = some v → MemberEdit key v w → ∀ x, spells v x ↔ spells w x)
    {x : Option α} : Slot spells (Json.get? members key) x ↔ Slot spells (Json.get? others key) x := by
  have hplace := ObjectEdit.placeEdit h hd key
  generalize Json.get? others key = other at hplace
  cases hget : Json.get? members key with
  | none =>
      rw [hget] at hplace
      cases hplace with
      | same => rfl
      | added hnoise =>
          rw [hnoise.resolve_left (not_not_intro hkey), Slot.none_iff, Slot.some_iff]
          simp [hnull]
  | some v =>
      rw [hget] at hplace
      cases hplace with
      | same => rfl
      | edited hedit =>
          have hspells := hinner _ _ hget hedit
          obtain ⟨_, _, rfl, rfl⟩ := hedit.exists_members
          rw [Slot.some_iff, Slot.some_iff]
          simp [hspells]

theorem slot_eventType (h : ClauseEdit (.obj members) (.obj others)) (hd : (Json.obj members).DistinctKeys)
    {type : Option String} : Slot (fun v s => v = .str s) (Json.get? members "eventType") type
      ↔ Slot (fun v s => v = .str s) (Json.get? others "eventType") type :=
  h.slot_iff hd List.mem_cons_self (fun _ => nofun) fun _ _ _ hedit => absurd rfl hedit.key_ne_eventType

theorem slot_record (h : ClauseEdit (.obj members) (.obj others)) (hd : (Json.obj members).DistinctKeys)
    (field : RecordField) {criterion : Option Criterion} :
    Slot field.written.2.Spells (Json.get? members field.written.1) criterion
      ↔ Slot field.written.2.Spells (Json.get? others field.written.1) criterion := by
  apply h.slot_iff hd field.written_fst_mem_keys
  · intro criterion hspells
    obtain ⟨_, _, hobj, -⟩ := hspells
    cases hobj
  · intro v w hget hedit criterion
    exact (hedit.criterionEdit rfl).spells_iff (hd.get? hget)

theorem ofMembers_eq_ok_iff (h : ClauseEdit (.obj members) (.obj others)) (hd : (Json.obj members).DistinctKeys)
    (clause : Clause) : Clause.ofMembers members = .ok clause ↔ Clause.ofMembers others = .ok clause := by
  rw [Clause.ofMembers_eq_ok_iff hd, Clause.ofMembers_eq_ok_iff (h.distinctKeys hd), h.slot_eventType hd,
    forall_congr' fun field => h.slot_record hd field]

theorem outcomeOf_parseDataMember (h : ClauseEdit (.obj members) (.obj others))
    (hd : (Json.obj members).DistinctKeys) :
    outcomeOf (Clause.parseDataMember members) = outcomeOf (Clause.parseDataMember others) := by
  have hplace := ObjectEdit.placeEdit h hd "data"
  -- A null among the members is read as no member, so only a change inside of the data needs an argument.
  generalize hother : Json.get? others "data" = other at hplace
  cases hget : Json.get? members "data" with
  | none =>
      rw [hget] at hplace
      cases hplace with
      | same => rw [Clause.parseDataMember, Clause.parseDataMember, hget, hother]
      | added hnoise =>
          have hkey : "data" ∈ Clause.keys := List.mem_cons_of_mem _ List.mem_cons_self
          rw [hnoise.resolve_left (not_not_intro hkey)] at hother
          rw [Clause.parseDataMember, Clause.parseDataMember, hget, hother]
  | some v =>
      rw [hget] at hplace
      cases hplace with
      | same => rw [Clause.parseDataMember, Clause.parseDataMember, hget, hother]
      | edited hedit =>
          have hdata := hedit.dataEdit rfl
          have houtcome := hdata.outcomeOf_parseData (hd.get? hget)
          obtain ⟨_, _, rfl, rfl⟩ := hedit.exists_members
          simp only [Clause.parseDataMember, hget, hother]
          exact outcomeOf_bind_congr houtcome fun data => rfl

theorem outcomeOf_parse (h : ClauseEdit v w) (hd : v.DistinctKeys) (index : Int) :
    outcomeOf (Clause.parse index v) = outcomeOf (Clause.parse index w) := by
  obtain ⟨members, others, rfl, rfl⟩ := ObjectEdit.exists_members h
  have hmembers : outcomeOf ((Clause.ofMembers members).mapError (QueryFailure.clause index))
      = outcomeOf ((Clause.ofMembers others).mapError (QueryFailure.clause index)) := by
    apply mapError_congr
    · intro clause
      rw [mapError_eq_ok, mapError_eq_ok, h.ofMembers_eq_ok_iff hd]
    · intro failure other hfailure hother
      obtain ⟨_, -, rfl⟩ := mapError_eq_error.1 hfailure
      obtain ⟨_, -, rfl⟩ := mapError_eq_error.1 hother
      rfl
  exact outcomeOf_bind_congr hmembers fun clause =>
    outcomeOf_bind_congr (h.outcomeOf_parseDataMember hd) fun data => rfl

end ClauseEdit

/-! ### Payloads -/

/-- One change of a clause among the clauses of a payload. -/
inductive ClausesEdit : Json → Json → Prop
  | item {before after : List Json} {v w : Json} (h : ClauseEdit v w) :
    ClausesEdit (.arr (before ++ v :: after)) (.arr (before ++ w :: after))

/-- One change of a payload's object, of a clause or of a criterion in it. -/
def PayloadEdit : Json → Json → Prop :=
  ObjectEdit (fun _ key _ => key ≠ "type" ∧ key ≠ "clauses") fun key v w => key = "clauses" ∧ ClausesEdit v w

namespace ClausesEdit

variable {v w : Json}

theorem distinctKeys (h : ClausesEdit v w) (hd : v.DistinctKeys) : w.DistinctKeys := by
  cases h with
  | item h =>
      rw [Json.distinctKeys_arr, List.forall_mem_append, List.forall_mem_cons] at hd ⊢
      obtain ⟨hbefore, hvalue, hafter⟩ := hd
      exact ⟨hbefore, h.distinctKeys hvalue, hafter⟩

theorem outcomeOf_parseFrom {before after : List Json} (h : ClauseEdit v w) (hd : v.DistinctKeys) (index : Nat) :
    outcomeOf (Clause.parseFrom index (before ++ v :: after))
      = outcomeOf (Clause.parseFrom index (before ++ w :: after)) := by
  induction before generalizing index with
  | nil => exact outcomeOf_bind_congr (h.outcomeOf_parse hd index) fun _ => rfl
  | cons value before ih =>
      exact outcomeOf_bind_congr rfl fun clause => outcomeOf_bind_congr (ih (index + 1)) fun others => rfl

end ClausesEdit

theorem Query.ofJson_of_clauses {members : List (String × Json)} {values : List Json}
    (h : Json.get? members "clauses" = some (.arr values)) :
    ofJson (.obj members) = do
      let operator ← ((Json.get? members "type").getD .null).asText.mapError QueryFailure.operator
      let clauses ← Clause.parseFrom 0 values
      return ⟨operator, clauses⟩ := by
  rw [ofJson, clauseValues, h]
  rfl

namespace PayloadEdit

variable {v w : Json} {members others : List (String × Json)}

theorem distinctKeys (h : PayloadEdit v w) (hd : v.DistinctKeys) : w.DistinctKeys :=
  ObjectEdit.distinctKeys h (fun hinner => hinner.2.distinctKeys) hd

theorem get?_type (h : PayloadEdit (.obj members) (.obj others)) (hd : (Json.obj members).DistinctKeys) :
    Json.get? others "type" = Json.get? members "type" := by
  apply (ObjectEdit.placeEdit h hd "type").eq
  · exact fun _ hnoise => hnoise.1 rfl
  · exact fun _ _ hinner => absurd hinner.1 (by decide)

theorem outcomeOf_ofJson (h : PayloadEdit v w) (hd : v.DistinctKeys) :
    outcomeOf (Query.ofJson v) = outcomeOf (Query.ofJson w) := by
  obtain ⟨members, others, rfl, rfl⟩ := ObjectEdit.exists_members h
  have htype := h.get?_type hd
  have hsame : Json.get? others "clauses" = Json.get? members "clauses" →
      outcomeOf (Query.ofJson (.obj members)) = outcomeOf (Query.ofJson (.obj others)) := by
    intro hclauses
    rw [Query.ofJson, Query.ofJson, Query.clauseValues, Query.clauseValues, hclauses, htype]
  have hplace := ObjectEdit.placeEdit h hd "clauses"
  generalize hother : Json.get? others "clauses" = other at hplace hsame
  generalize hget : Json.get? members "clauses" = place at hplace hsame
  cases hplace with
  | same => exact hsame rfl
  | added hnoise => exact absurd rfl hnoise.2
  | edited hedit =>
      have hvalues := hd.get? hget
      cases hedit.2 with
      | item hclause =>
          have hvalue := Json.distinctKeys_arr.1 hvalues _ (List.mem_append_right _ List.mem_cons_self)
          rw [Query.ofJson_of_clauses hget, Query.ofJson_of_clauses hother, htype]
          refine outcomeOf_bind_congr rfl fun operator => outcomeOf_bind_congr ?_ fun clauses => rfl
          exact ClausesEdit.outcomeOf_parseFrom hclause hvalue 0

end PayloadEdit

/-! ### Any number of edits -/

namespace Query

/-- The second payload is the first one after some edits. -/
def Reworded : Json → Json → Prop :=
  Relation.ReflTransGen PayloadEdit

theorem Reworded.outcomeOf_ofJson {v w : Json} (h : Reworded v w) (hd : v.DistinctKeys) :
    outcomeOf (ofJson v) = outcomeOf (ofJson w) := by
  -- An edit is understood only where keys are distinct, so this goes along with the outcome.
  suffices hboth : w.DistinctKeys ∧ outcomeOf (ofJson v) = outcomeOf (ofJson w) from hboth.2
  induction h with
  | refl => exact ⟨hd, rfl⟩
  | tail _ hedit ih =>
      obtain ⟨hdistinct, houtcome⟩ := ih
      exact ⟨hedit.distinctKeys hdistinct, houtcome.trans (hedit.outcomeOf_ofJson hdistinct)⟩

theorem outcomeOf_parse {payload : Payload} {v : Json} (h : payload.decoded = .ok v) :
    outcomeOf (parse payload) = outcomeOf (ofJson v) := by
  rw [parse, h]
  rfl

/-- A reworded payload is read as the same query. Where it is not read it fails as before: with the same unsupported criterion, or with a failure of the other class. -/
theorem outcome_of_reworded (first second : Payload) (v w : Json) (hv : first.decoded = .ok v)
    (hw : second.decoded = .ok w) (hd : v.DistinctKeys) (h : Reworded v w) :
    (∀ query, parse first = .ok query ↔ parse second = .ok query)
      ∧ (∀ u, parse first = .error (.unsupported u) ↔ parse second = .error (.unsupported u))
      ∧ ((∃ failure, parse first = .error failure ∧ ∀ u, failure ≠ .unsupported u)
        ↔ ∃ failure, parse second = .error failure ∧ ∀ u, failure ≠ .unsupported u) := by
  have houtcome : outcomeOf (parse first) = outcomeOf (parse second) := by
    rw [outcomeOf_parse hv, outcomeOf_parse hw, h.outcomeOf_ofJson hd]
  simp only [← outcomeOf_eq_ok, ← outcomeOf_eq_unsupported, ← outcomeOf_eq_other, houtcome, implies_true, and_self]

/-- A payload whose only declaration field has a misspelled tag and a wrong term. -/
def misspelledPayload : Json :=
  .obj [("type", .str "and"), ("clauses", .arr [.obj [("data", .obj [
    ("child.dob", .obj [("type", .str "exct"), ("term", .int 7)])])]])]

/-- The same payload in another order, with a null and a note. -/
def misspelledReworded : Json :=
  .obj [("clauses", .arr [.obj [("status", .null), ("data", .obj [
    ("child.dob", .obj [("note", .bool true), ("term", .int 7), ("type", .str "exct")])])]]), ("type", .str "and")]

theorem outcome_of_reworded_misspelled :
    ((Payload.value misspelledPayload).decoded = .ok misspelledPayload
        ∧ (Payload.value misspelledReworded).decoded = .ok misspelledReworded
        ∧ misspelledPayload.DistinctKeys ∧ Reworded misspelledPayload misspelledReworded)
      ∧ parse (.value misspelledReworded)
        = .error (.unsupported (.of "child.dob" (.str "exct") UnsupportedCriterion.supportedTags)) := by
  have hd : misspelledPayload.DistinctKeys := by
    simp [misspelledPayload, Json.DistinctKeys, Json.DistinctKeysItems, Json.DistinctKeysMembers]
  have hclause {v w : Json} (h : ClauseEdit v w) : PayloadEdit (.obj [("clauses", .arr [v]), ("type", .str "and")])
      (.obj [("clauses", .arr [w]), ("type", .str "and")]) :=
    @ObjectEdit.inside _ _ [] _ _ _ _ ⟨rfl, @ClausesEdit.item [] [] _ _ h⟩
  have hcriterion {v w : Json} (h : CriterionEdit .field v w) :
      ClauseEdit (.obj [("status", .null), ("data", .obj [("child.dob", v)])])
        (.obj [("status", .null), ("data", .obj [("child.dob", w)])]) :=
    @ObjectEdit.inside _ _ [("status", .null)] [] _ _ _ (.data (@DataEdit.entry [] [] _ _ _ h))
  have hnull (data : Json) : ClauseEdit (.obj [("data", data)]) (.obj [("status", .null), ("data", data)]) :=
    .add (by simp) trivial (.inr rfl)
  have hnote : CriterionEdit .field (.obj [("term", .int 7), ("type", .str "exct")])
      (.obj [("note", .bool true), ("term", .int 7), ("type", .str "exct")]) := by
    refine .add (by decide) trivial ⟨by decide, fun variant hallowed => ?_⟩
    cases variant <;> exact absurd (Json.str.inj (Option.some.inj hallowed.2)) (by decide)
  have hreworded : Reworded misspelledPayload misspelledReworded :=
    .head (.reorder (.swap _ _ _)) (.head (hclause (hnull _))
      (.head (hclause (hcriterion (.reorder (.swap _ _ _)))) (.single (hclause (hcriterion hnote)))))
  have hread : parse (.value misspelledPayload)
      = .error (.unsupported (.of "child.dob" (.str "exct") UnsupportedCriterion.supportedTags)) := by rfl
  obtain ⟨-, hunsupported, -⟩ :=
    outcome_of_reworded (.value misspelledPayload) (.value misspelledReworded) _ _ rfl rfl hd hreworded
  exact ⟨⟨rfl, rfl, hd, hreworded⟩, (hunsupported _).1 hread⟩

end Query

end RegistrySearch
