import Mathlib.Algebra.Ring.Nat
import RegistrySearch.Proofs.Search.RecordConditions
import RegistrySearch.Proofs.Search.Routing

/-!
# Nothing is dropped without a report

A compiled document has one test for each thing that a query searches on, with one exception: of a registration location only an exact criterion is searched on, and any other one is passed over. The log has a report of each of these. So the tests of the document and the reports together are as many as the members of the clauses, where the declaration fields are counted one by one (`Query.accounts_for_members`).

The count of a document is taken from the object that is sent, and the reports are told by their text. What one step of the compiler adds to both is said by `Compilation.Accounts`, from any memo, and the lemma of a sequence of two steps adds up what they report.
-/

namespace RegistrySearch

variable {α β : Type}

/-! ### The tests of a document -/

namespace EngineQuery

mutual

/-- The tests that a query object is made of, in their order. -/
def leaves : Json → List Json
  | .obj [("bool", .obj [("must", .arr queries)])] => leavesOf queries
  | .obj [("bool", .obj [("should", .arr queries)])] => leavesOf queries
  | .obj [("bool", .obj [("must_not", query)])] => leaves query
  | test => [test]

def leavesOf : List Json → List Json
  | [] => []
  | query :: rest => leaves query ++ leavesOf rest

end

theorem leavesOf_eq_flatMap (queries : List Json) : leavesOf queries = queries.flatMap leaves := by
  induction queries with
  | nil => rfl
  | cons query queries ih => rw [leavesOf, ih, List.flatMap_cons]

theorem leaves_allOf (queries : List Json) : leaves (allOf queries) = queries.flatMap leaves :=
  leavesOf_eq_flatMap queries

theorem leaves_anyOf (queries : List Json) : leaves (anyOf queries) = queries.flatMap leaves :=
  leavesOf_eq_flatMap queries

end EngineQuery

open EngineQuery

theorem Condition.leaves_toJson (condition : Condition) : leaves condition.toJson = [condition.toJson] := by
  cases condition <;> rfl

theorem Document.leaves_allToJson (conditions : List Condition) :
    leaves (allToJson conditions) = conditions.map Condition.toJson := by
  rw [allToJson, leaves_allOf, List.flatMap_map, List.map_eq_flatMap]
  simp only [Condition.leaves_toJson]

theorem Document.leaves_any (groups : List (List Condition)) :
    leaves (any groups).toJson = groups.flatten.map Condition.toJson := by
  rw [toJson, leaves_anyOf, List.flatMap_map, List.map_flatten, ← List.flatMap_def]
  simp only [leaves_allToJson]

/-! ### The reports of a log -/

namespace LogEntry

/-- How the report of a criterion that is passed over begins. -/
def ignoredHeading : String := "Ignoring non-exact criterion on registration location"

/-- The entry reports that a criterion is passed over. -/
def tellsOfIgnored (entry : LogEntry) : Bool :=
  entry.level == .debug && ignoredHeading.toList.isPrefixOf entry.message.toList

/-- The letter that the message of an entry begins with. -/
def initial : LogEntry → Char
  | parsed .. => 'P'
  | emptyClause => 'E'
  | ignoredLocation _ => 'I'
  | rejected .. => 'R'
  | notRemembered => 'C'
  | classified .. => 'F'
  | conjunction .. => 'C'
  | disjunction _ => 'C'
  | unknownOperator _ => 'U'

theorem head?_toList_append {first : String} {c : Char} (h : first.toList.head? = some c) (second : String) :
    (first ++ second).toList.head? = some c := by
  rw [String.toList_append, List.head?_append, h, Option.some_or]

theorem head?_message (entry : LogEntry) : entry.message.toList.head? = some entry.initial := by
  cases entry with
  | emptyClause | notRemembered => decide
  | _ =>
      repeat' apply head?_toList_append
      simp only [initial]
      decide

theorem tellsOfIgnored_ignoredLocation (criterion : Criterion) : (ignoredLocation criterion).tellsOfIgnored = true := by
  have hheading : "Ignoring non-exact criterion on registration location: ".toList
      = ignoredHeading.toList ++ ": ".toList := by decide
  have hmessage : (ignoredLocation criterion).message.toList
      = ignoredHeading.toList ++ ": ".toList ++ criterion.display.toList :=
    String.toList_append.trans (congrArg (· ++ criterion.display.toList) hheading)
  have hprefix := List.prefix_append ignoredHeading.toList (": ".toList ++ criterion.display.toList)
  rw [← List.append_assoc, ← hmessage, ← List.isPrefixOf_iff_prefix] at hprefix
  rw [tellsOfIgnored, hprefix]
  rfl

/-- No other message begins with the letter of these reports. -/
theorem tellsOfIgnored_eq_false {entry : LogEntry} (h : entry.initial ≠ 'I') : entry.tellsOfIgnored = false := by
  have hletter : ignoredHeading.toList.head? = some 'I' := by decide
  have hnot : ¬ ignoredHeading.toList <+: entry.message.toList := by
    rintro ⟨rest, hrest⟩
    have hhead := entry.head?_message
    rw [← hrest, List.head?_append, hletter] at hhead
    exact h (Option.some.inj hhead).symm
  rw [tellsOfIgnored, Bool.and_eq_false_iff, ← Bool.not_eq_true (List.isPrefixOf ..), List.isPrefixOf_iff_prefix]
  exact .inr hnot

theorem tellsOfIgnored_iff {entry : LogEntry} :
    entry.tellsOfIgnored = true ↔ ∃ criterion, entry = ignoredLocation criterion := by
  cases entry with
  | ignoredLocation criterion => simp [tellsOfIgnored_ignoredLocation]
  | _ =>
      rw [tellsOfIgnored_eq_false (by simp [initial])]
      simp

end LogEntry

/-! ### The members of a clause -/

namespace Clause

/-- One thing that a clause searches on. -/
inductive Member where
  | eventType (type : String)
  | record (field : RecordField) (criterion : Criterion)
  | entry (id : String) (criterion : Criterion)

namespace Member

/-- The report of a member that is passed over. -/
def report? : Member → Option LogEntry
  | record field criterion =>
    if field.role = .registrationPlace ∧ criterion.variant? ≠ some .exact then some (.ignoredLocation criterion)
    else none
  | _ => none

/-- The member is searched on. -/
def isSearched (member : Member) : Bool := member.report?.isNone

/-- The condition tests the values of the member, at a path of its own. -/
inductive Gives (compiler : Compiler) : Member → Condition → Prop
  | eventType (type : String) : Gives compiler (.eventType type) (.equals eventTypePath type)
  | record {field : RecordField} {criterion : Criterion} {condition : Condition}
      (h : criterion.condition? field.indexPath compiler.settings.fuzziness = some condition) :
      Gives compiler (.record field criterion) condition
  | entry {id path : String} {criterion : Criterion} {condition : Condition}
      (hpath : path = compiler.fieldPath id ∨ path = compiler.fullnamePath id)
      (h : criterion.condition? path compiler.settings.fuzziness = some condition) :
      Gives compiler (.entry id criterion) condition

/-- The conditions are those of the members that are searched on, in their order. -/
def TestedBy (compiler : Compiler) (members : List Member) (conditions : List Condition) : Prop :=
  List.Forall₂ (Gives compiler) (members.filter isSearched) conditions

variable {compiler : Compiler}

theorem TestedBy.append {members others : List Member} {conditions rest : List Condition}
    (h : TestedBy compiler members conditions) (hothers : TestedBy compiler others rest) :
    TestedBy compiler (members ++ others) (conditions ++ rest) := by
  rw [TestedBy, List.filter_append]
  exact List.rel_append h hothers

theorem testedBy_of_searched {member : Member} {condition : Condition} (h : member.isSearched = true)
    (hgives : Gives compiler member condition) : TestedBy compiler [member] [condition] := by
  rw [TestedBy, List.filter_singleton, h]
  exact .cons hgives .nil

theorem testedBy_of_passedOver {member : Member} (h : member.isSearched = false) : TestedBy compiler [member] [] := by
  rw [TestedBy, List.filter_singleton, h]
  exact .nil

theorem filter_report (member : Member) :
    member.report?.toList.filter LogEntry.tellsOfIgnored = member.report?.toList := by
  rw [List.filter_eq_self]
  intro entry hentry
  rw [LogEntry.tellsOfIgnored_iff]
  cases member with
  | record field criterion =>
      simp only [report?, Option.mem_toList, Option.ite_none_right_eq_some, Option.some.injEq] at hentry
      exact ⟨criterion, hentry.2.symm⟩
  | _ => simp [report?] at hentry

end Member

variable (clause : Clause)

def recordMember? (field : RecordField) : Option Member := (clause.criterion field).map (.record field)

def dataMembers (data : List (String × Criterion)) : List Member := data.map fun entry => .entry entry.1 entry.2

/-- What a clause searches on, in the order in which its conditions are listed. -/
def members : List Member :=
  (clause.eventType.map .eventType).toList ++ RecordField.all.filterMap clause.recordMember?
    ++ dataMembers (clause.data.getD [])

/-- How many members a clause has besides its declaration fields. -/
def memberCount : Nat :=
  clause.eventType.isSome.toNat + RecordField.all.countP fun field => (clause.criterion field).isSome

/-- How many declaration fields a clause searches on. -/
def entryCount : Nat := (clause.data.getD []).length

/-- The report of a registration location that is not exact. -/
def ignored? : Option LogEntry :=
  (clause.registeredAtLocation.filter fun criterion => criterion.variant? ≠ some .exact).map .ignoredLocation

theorem length_members : clause.members.length = clause.memberCount + clause.entryCount := by
  have hevent : (clause.eventType.map Member.eventType).toList.length = clause.eventType.isSome.toNat := by
    cases clause.eventType <;> rfl
  have hrecord : (RecordField.all.filterMap clause.recordMember?).length
      = RecordField.all.countP fun field => (clause.criterion field).isSome := by
    simp only [recordMember?, List.length_filterMap_eq_countP, Option.isSome_map]
  simp only [members, dataMembers, memberCount, entryCount, List.length_append, List.length_map, hevent, hrecord]

/-- Only one record field is ever passed over. -/
theorem recordMember_report (field : RecordField) :
    (clause.recordMember? field).bind Member.report? = if field = .registeredAtLocation then clause.ignored? else none := by
  have hrole : field.role = .registrationPlace ↔ field = .registeredAtLocation := by
    cases field <;> decide
  by_cases hfield : field = .registeredAtLocation
  · subst hfield
    change ((clause.registeredAtLocation).map _).bind _ = _
    cases hlocation : clause.registeredAtLocation with
    | none => simp [ignored?, hlocation]
    | some criterion => simp [ignored?, hlocation, Member.report?, hrole, Option.filter_some, apply_ite]
  · rw [if_neg hfield]
    cases hcriterion : clause.criterion field with
    | none => simp [recordMember?, hcriterion]
    | some criterion => simp [recordMember?, hcriterion, Member.report?, hrole, hfield]

theorem filterMap_recordMember_report :
    (RecordField.all.filterMap clause.recordMember?).filterMap Member.report? = clause.ignored?.toList := by
  simp only [List.filterMap_filterMap, recordMember_report]
  exact RecordField.filterMap_all_of_eq _ _

theorem filterMap_report : clause.members.filterMap Member.report? = clause.ignored?.toList := by
  have hevent : (clause.eventType.map Member.eventType).toList.filterMap Member.report? = [] := by
    cases clause.eventType <;> rfl
  have hdata : (dataMembers (clause.data.getD [])).filterMap Member.report? = [] := by
    simp [dataMembers, Member.report?]
  rw [members, List.filterMap_append, List.filterMap_append, hevent, filterMap_recordMember_report, hdata,
    List.nil_append, List.append_nil]

theorem members_of_isEmpty {clause : Clause} (h : clause.isEmpty = true) : clause.members = [] := by
  obtain ⟨hevent, hrecord, hdata⟩ := isEmpty_iff.1 h
  have hnone : RecordField.all.filterMap clause.recordMember? = [] := by
    simp [List.filterMap_eq_nil_iff, recordMember?, hrecord]
  simp [members, dataMembers, hevent, hnone, hdata]

/-- Each member of a clause is searched on or has a report. -/
theorem length_add_ignored {compiler : Compiler} {conditions : List Condition}
    (h : Member.TestedBy compiler clause.members conditions) :
    conditions.length + clause.ignored?.toList.length = clause.memberCount + clause.entryCount := by
  have hreported : clause.ignored?.toList.length = (clause.members.filter fun member => !member.isSearched).length := by
    rw [← filterMap_report, List.length_filterMap_eq_countP, List.countP_eq_length_filter]
    simp [Member.isSearched]
  rw [hreported, ← h.length_eq, ← List.length_eq_length_filter_add, length_members]

end Clause

/-! ### What compiling adds -/

namespace Compilation

/-- From any memo the compilation ends well, with a value that has the property, and its log has these reports of what was passed over. -/
def Accounts (c : Compilation α) (P : α → Prop) (reports : List LogEntry) : Prop :=
  ∀ memo, ∃ value, (c.run memo).result = .ok value ∧ P value ∧ (c.run memo).log.filter LogEntry.tellsOfIgnored = reports

variable {c : Compilation α} {P : α → Prop} {Q : β → Prop} {reports others : List LogEntry}

theorem accounts_pure {value : α} (h : P value) : (pure value : Compilation α).Accounts P [] :=
  fun _ => ⟨value, rfl, h, rfl⟩

theorem accounts_ofExcept {result : Except CompileFailure α} {value : α} (hresult : result = .ok value) (h : P value) :
    (ofExcept result).Accounts P [] :=
  fun _ => ⟨value, hresult, h, rfl⟩

theorem accounts_log (entry : LogEntry) : (log entry).Accounts (fun _ => True) ([entry].filter LogEntry.tellsOfIgnored) :=
  fun _ => ⟨(), rfl, trivial, rfl⟩

theorem Accounts.bind {next : α → Compilation β} (hc : c.Accounts P reports)
    (hnext : ∀ value, P value → (next value).Accounts Q others) : (c >>= next).Accounts Q (reports ++ others) := by
  intro memo
  obtain ⟨value, hresult, hvalue, hlog⟩ := hc memo
  obtain ⟨last, hlast, hQ, hrest⟩ := hnext value hvalue (c.run memo).memo
  refine ⟨last, ?_, hQ, ?_⟩
  · rw [run_bind, Outcome.andThen, hresult]
    exact hlast
  · rw [run_bind, Outcome.andThen, hresult]
    simp only [List.filter_append, hlog, hrest]

theorem Accounts.map {f : α → β} (hc : c.Accounts P reports) (hf : ∀ value, P value → Q (f value)) :
    (c >>= fun value => pure (f value)).Accounts Q reports := by
  have h := hc.bind fun value hvalue => accounts_pure (hf value hvalue)
  rwa [List.append_nil] at h

theorem accounts_forM_log (entries : List LogEntry) :
    (entries.forM log).Accounts (fun _ => True) (entries.filter LogEntry.tellsOfIgnored) := by
  induction entries with
  | nil => exact accounts_pure trivial
  | cons entry entries ih =>
      have h := (accounts_log entry).bind fun _ _ => ih
      rwa [← List.filter_append] at h

theorem accounts_ask {classify : List Event → List String} {events : List Event} {onMiss : List String → LogEntry}
    (h : ∀ ids, (onMiss ids).initial ≠ 'I') : (ask classify events onMiss).Accounts (fun _ => True) [] := by
  intro memo
  have hlog : ∀ logged : Bool, ∀ ids, (if logged then [onMiss ids] else []).filter LogEntry.tellsOfIgnored = [] := by
    intro logged ids
    cases logged <;> simp [LogEntry.tellsOfIgnored_eq_false (h ids)]
  exact ⟨_, rfl, trivial, hlog _ _⟩

/-- A step that only logs something else. -/
theorem Accounts.log_then {entry : LogEntry} (hentry : entry.initial ≠ 'I') (hc : c.Accounts P reports) :
    (log entry >>= fun _ => c).Accounts P reports := by
  have h := (accounts_log entry).bind fun _ _ => hc
  rwa [List.filter_singleton, LogEntry.tellsOfIgnored_eq_false hentry] at h

end Compilation

/-! ### The parts of the compiler -/

open Compilation

namespace Clause

open Member

variable {clause : Clause} {compiler : Compiler}

theorem entries_eq (field : RecordField) (criterion : Criterion) :
    field.entries criterion = (Member.record field criterion).report?.toList := by
  unfold RecordField.entries report?
  cases hrole : field.role with
  | registrationPlace => cases criterion <;> simp [Criterion.variant?, hrole]
  | _ => simp [hrole]

theorem honoured_eq {field : RecordField} {criterion : Criterion} (h : clause.criterion field = some criterion) :
    clause.honoured field = if (Member.record field criterion).isSearched then some criterion else none := by
  unfold honoured isSearched report?
  cases hrole : field.role with
  | registrationPlace => by_cases hexact : criterion.variant? = some .exact <;> simp [h, hrole, hexact, Option.filter_some]
  | _ => simp [h, hrole]

theorem Declared.testedBy_record (h : clause.Declared) {field : RecordField} {criterion : Criterion}
    (hc : clause.criterion field = some criterion) :
    TestedBy compiler [.record field criterion] (clause.recordCondition? compiler field).toList := by
  rw [recordCondition?, honoured_eq hc]
  by_cases hsearched : (Member.record field criterion).isSearched = true
  · have hhonoured := honoured_eq hc
    rw [if_pos hsearched] at hhonoured
    obtain ⟨condition, hcondition⟩ : ∃ condition,
        criterion.condition? field.indexPath compiler.settings.fuzziness = some condition := by
      obtain ⟨variant, -, hvariant⟩ := h.record field criterion hc
      cases criterion <;> simp [Criterion.variant?, Criterion.condition?] at hvariant ⊢
    rw [if_pos hsearched, Option.bind_some, hcondition]
    exact testedBy_of_searched hsearched (.record hcondition)
  · rw [if_neg hsearched]
    exact testedBy_of_passedOver (Bool.not_eq_true _ ▸ hsearched)

theorem Declared.accounts_compileMember (h : clause.Declared) (field : RecordField) :
    (clause.compileMember field).Accounts (TestedBy compiler (clause.recordMember? field).toList)
      ((clause.recordMember? field).toList.filterMap report?) := by
  unfold compileMember recordMember?
  cases hc : clause.criterion field with
  | none => exact accounts_pure .nil
  | some criterion =>
      have hresult : field.conditions criterion = .ok (clause.recordCondition? compiler field).toList := by
        rw [← recordConditions_eq compiler (h.record field), recordConditions, hc]
      have haccounts := (accounts_forM_log (field.entries criterion)).bind fun _ _ =>
        accounts_ofExcept hresult (h.testedBy_record hc)
      have hreports : (field.entries criterion).filter LogEntry.tellsOfIgnored
          = [Member.record field criterion].filterMap report? := by
        rw [entries_eq, filter_report, List.filterMap_eq_flatMap_toList, List.flatMap_singleton]
      rw [List.append_nil, hreports] at haccounts
      exact haccounts

theorem Declared.accounts_compileRecord (h : clause.Declared) (fields : List RecordField) :
    (clause.compileRecord fields).Accounts (TestedBy compiler (fields.filterMap clause.recordMember?))
      ((fields.filterMap clause.recordMember?).filterMap report?) := by
  induction fields with
  | nil => exact accounts_pure .nil
  | cons field fields ih =>
      have hmembers : (field :: fields).filterMap clause.recordMember?
          = (clause.recordMember? field).toList ++ fields.filterMap clause.recordMember? := by
        simp only [List.filterMap_eq_flatMap_toList, List.flatMap_cons]
      rw [hmembers, List.filterMap_append]
      exact (h.accounts_compileMember field).bind fun first hfirst => ih.map fun others hothers => hfirst.append hothers

theorem testedBy_eventConditions (clause : Clause) :
    TestedBy compiler (clause.eventType.map Member.eventType).toList clause.eventConditions := by
  unfold eventConditions
  cases clause.eventType with
  | none => exact .nil
  | some type => exact testedBy_of_searched rfl (.eventType type)

end Clause

namespace Compiler

open Clause.Member

variable (compiler : Compiler) (catalog : Catalog)

theorem searchedPath_cases (names : List String) (id : String) (criterion : Criterion) :
    compiler.searchedPath names id criterion = compiler.fieldPath id
      ∨ compiler.searchedPath names id criterion = compiler.fullnamePath id := by
  by_cases h : (∃ term, criterion = .fuzzy term) ∧ id ∈ names
  · exact .inr (compiler.searchedPath_of_name names h)
  · exact .inl (compiler.searchedPath_of_not_name names h)

theorem accounts_compileField (names : List String) {entry : String × Criterion} (h : entry.2.IsOneOf Variant.field) :
    (compiler.compileField entry.1 entry.2 (names.contains entry.1)).Accounts
      (Gives compiler (.entry entry.1 entry.2)) [] := by
  obtain ⟨condition, hdirect, hcondition⟩ := compiler.exists_entryCondition names h
  have hfield := mapError_eq_ok.1 hdirect
  unfold compileField
  rw [hfield]
  exact accounts_pure (.entry (compiler.searchedPath_cases names entry.1 entry.2) hcondition)

theorem accounts_compileFields (names : List String) {data : List (String × Criterion)}
    (h : ∀ entry ∈ data, entry.2.IsOneOf Variant.field) :
    (compiler.compileFields names data).Accounts (TestedBy compiler (Clause.dataMembers data)) [] := by
  induction data with
  | nil => exact accounts_pure .nil
  | cons entry data ih =>
      obtain ⟨hentry, hdata⟩ := List.forall_mem_cons.1 h
      exact (compiler.accounts_compileField names hentry).bind fun first hfirst =>
        (ih hdata).map fun others hothers => (testedBy_of_searched rfl hfirst).append hothers

theorem accounts_nameFields : (compiler.nameFields catalog).Accounts (fun _ => True) [] := by
  have hinitial : ∀ ids : List String, (LogEntry.classified ids.length catalog.events.length).initial ≠ 'I' := by
    intro ids
    simp [LogEntry.initial]
  unfold nameFields
  split
  · exact accounts_ask hinitial
  · split
    · exact (accounts_pure trivial).log_then (hinitial _) |>.log_then (by simp [LogEntry.initial])
    · exact (accounts_pure trivial).log_then (hinitial _)

theorem accounts_compileDataMember {clause : Clause} (h : clause.Declared) :
    (compiler.compileDataMember catalog clause.data).Accounts
      (TestedBy compiler (Clause.dataMembers (clause.data.getD []))) [] := by
  cases hdata : clause.data with
  | none => exact accounts_pure .nil
  | some data =>
      exact (compiler.accounts_nameFields catalog).bind fun names _ =>
        compiler.accounts_compileFields names (h.data data hdata)

theorem accounts_compileClause {clause : Clause} (h : clause.Declared) :
    (compiler.compileClause catalog clause).Accounts (TestedBy compiler clause.members) clause.ignored?.toList := by
  unfold compileClause
  split
  · rename_i hempty
    have hmembers := Clause.members_of_isEmpty hempty
    have hreports := clause.filterMap_report
    rw [hmembers] at hreports ⊢
    rw [← hreports]
    exact (accounts_pure .nil).log_then (by simp [LogEntry.initial])
  · have hall := (h.accounts_compileRecord RecordField.all).bind fun record hrecord =>
      (compiler.accounts_compileDataMember catalog h).map fun data hdata =>
        ((Clause.testedBy_eventConditions clause).append hrecord).append hdata
    rwa [List.append_nil, clause.filterMap_recordMember_report] at hall

/-- Clauses are compiled one after the other, in whatever way their conditions are put together. -/
theorem accounts_clauses {γ : Type} {compileAll : List Clause → Compilation γ} {value : γ}
    {combine : List Condition → γ → γ} {P : List Clause → γ → Prop} (hnil : compileAll [] = pure value)
    (hcons : ∀ clause clauses, compileAll (clause :: clauses)
      = compiler.compileClause catalog clause >>= fun first =>
          compileAll clauses >>= fun others => pure (combine first others))
    (hP : P [] value)
    (hcombine : ∀ clause clauses first others, TestedBy compiler clause.members first → P clauses others →
      P (clause :: clauses) (combine first others))
    {clauses : List Clause} (h : ∀ clause ∈ clauses, clause.Declared) :
    (compileAll clauses).Accounts (P clauses) (clauses.filterMap Clause.ignored?) := by
  induction clauses with
  | nil =>
      rw [hnil]
      exact accounts_pure hP
  | cons clause clauses ih =>
      obtain ⟨hclause, hclauses⟩ := List.forall_mem_cons.1 h
      have hreports : (clause :: clauses).filterMap Clause.ignored?
          = clause.ignored?.toList ++ clauses.filterMap Clause.ignored? := by
        simp only [List.filterMap_eq_flatMap_toList, List.flatMap_cons]
      rw [hcons, hreports]
      exact (compiler.accounts_compileClause catalog hclause).bind fun first hfirst =>
        (ih hclauses).map fun others hothers => hcombine clause clauses first others hfirst hothers

/-- Each clause has a group of the conditions of its members. -/
def Grouped (clauses : List Clause) (groups : List (List Condition)) : Prop :=
  List.Forall₂ (fun clause group => TestedBy compiler clause.members group) clauses groups

/-- The conditions are those of such groups, after each other. -/
def Joined (clauses : List Clause) (conditions : List Condition) : Prop :=
  ∃ groups, conditions = groups.flatten ∧ compiler.Grouped clauses groups

theorem accounts_compileClauses {clauses : List Clause} (h : ∀ clause ∈ clauses, clause.Declared) :
    (compiler.compileClauses catalog clauses).Accounts (compiler.Grouped clauses)
      (clauses.filterMap Clause.ignored?) :=
  compiler.accounts_clauses catalog (P := compiler.Grouped) rfl (fun _ _ => rfl) .nil
    (fun _ _ _ _ hfirst hothers => .cons hfirst hothers) h

theorem accounts_compileJoined {clauses : List Clause} (h : ∀ clause ∈ clauses, clause.Declared) :
    (compiler.compileJoined catalog clauses).Accounts (compiler.Joined clauses)
      (clauses.filterMap Clause.ignored?) := by
  refine compiler.accounts_clauses catalog (P := compiler.Joined) rfl (fun _ _ => rfl) ⟨[], rfl, .nil⟩ ?_ h
  rintro clause clauses first _ hfirst ⟨groups, rfl, hgroups⟩
  exact ⟨first :: groups, rfl, .cons hfirst hgroups⟩

theorem accounts_compile {query : Query} (h : query.Declared)
    (hoperator : query.operator = Query.conjunction ∨ query.operator = Query.disjunction) :
    (compiler.compile query catalog).Accounts
      (fun document => ∃ groups, leaves document.toJson = groups.flatten.map Condition.toJson
        ∧ compiler.Grouped query.clauses groups)
      (query.clauses.filterMap Clause.ignored?) := by
  unfold compile
  by_cases hand : query.operator = Query.conjunction
  · rw [if_pos hand, ← List.append_nil (query.clauses.filterMap _)]
    refine (compiler.accounts_compileJoined catalog h).bind ?_
    rintro _ ⟨groups, rfl, hgroups⟩
    exact (accounts_pure ⟨groups, Document.leaves_allToJson _, hgroups⟩).log_then (by simp [LogEntry.initial])
  · rw [if_neg hand, if_pos (hoperator.resolve_left hand), ← List.append_nil (query.clauses.filterMap _)]
    refine (compiler.accounts_compileClauses catalog h).bind fun groups hgroups => ?_
    exact (accounts_pure ⟨groups, Document.leaves_any groups, hgroups⟩).log_then (by simp [LogEntry.initial])

/-- What the clauses search on is in their groups, or it was ignored. -/
theorem length_flatten_add_ignored {clauses : List Clause} {groups : List (List Condition)}
    (h : compiler.Grouped clauses groups) :
    groups.flatten.length + (clauses.filterMap Clause.ignored?).length
      = (clauses.map fun clause => clause.memberCount + clause.entryCount).sum := by
  induction h with
  | nil => rfl
  | @cons clause group clauses groups hclause _ ih =>
      have hcount := clause.length_add_ignored hclause
      rw [List.filterMap_eq_flatMap_toList] at ih ⊢
      simp only [List.flatten_cons, List.flatMap_cons, List.length_append, List.map_cons, List.sum_cons]
      omega

end Compiler

/-- Compiling a query of declared variants under "and" or "or" gives a document, from any memo. Its tests and the reports that a criterion was passed over are together as many as the members of the clauses and the declaration fields that they list. There is one such report for each clause with a registration location that is not exact, in the order of the clauses. Every other member and every declaration field has exactly one test, of its own values. -/
theorem Query.accounts_for_members (query : Query) (hdeclared : query.Declared)
    (hoperator : query.operator = "and" ∨ query.operator = "or") (compiler : Compiler) (catalog : Catalog)
    (memo : Memo) :
    let outcome := (compiler.compile query catalog).run memo
    let reports := outcome.log.filter LogEntry.tellsOfIgnored
    ∃ document, outcome.result = .ok document
      ∧ (leaves document.toJson).length + reports.length
        = (query.clauses.map fun clause => clause.memberCount + clause.entryCount).sum
      ∧ reports = query.clauses.filterMap Clause.ignored?
      ∧ ∃ groups : List (List Condition), leaves document.toJson = groups.flatten.map Condition.toJson
        ∧ List.Forall₂ (fun clause group =>
            List.Forall₂ (Clause.Member.Gives compiler) (clause.members.filter Clause.Member.isSearched) group)
          query.clauses groups := by
  intro outcome reports
  obtain ⟨document, hresult, ⟨groups, hleaves, hgroups⟩, hreports⟩ :=
    compiler.accounts_compile catalog hdeclared hoperator memo
  refine ⟨document, hresult, ?_, hreports, groups, hleaves, hgroups⟩
  have hcount := compiler.length_flatten_add_ignored hgroups
  rwa [hleaves, List.length_map, show reports = _ from hreports]

/-- Alternatives with registration places of all variants, one that searches on nothing, and one that lists no declaration field. -/
def placeSearch : Query :=
  .anyOf [
    { registeredAtLocation := some (.within "1,9"), createdAtLocation := some (.within "1,9"),
      data := some [("child.name", .fuzzy "Ana"), ("mother.name", .exact "Eve")] },
    {},
    { eventType := some "birth", registeredAtLocation := some (.exact "Ibombo"), data := some [] },
    { status := some (.anyOf []), registeredAtLocation := some (.range "A" "Z") }]

theorem Query.accounts_for_members_placeSearch :
    placeSearch.Declared ∧ placeSearch.operator = "or"
      ∧ ∃ document, ((Compiler.compile {} placeSearch .redeclaring).run Memo.empty).result = .ok document
        ∧ (leaves document.toJson).length = 6
        ∧ (((Compiler.compile {} placeSearch .redeclaring).run Memo.empty).log.filter LogEntry.tellsOfIgnored).map
            LogEntry.message
          = ["Ignoring non-exact criterion on registration location: Proximity(location='1,9')",
            "Ignoring non-exact criterion on registration location: Range(gte='A', lte='Z')"] := by
  have hdeclared : placeSearch.Declared := by decide
  have hsum : (placeSearch.clauses.map fun clause => clause.memberCount + clause.entryCount).sum = 8 := by decide
  obtain ⟨document, hdocument, hcount, hreports, -⟩ :=
    placeSearch.accounts_for_members hdeclared (.inr rfl) {} .redeclaring Memo.empty
  have hmessages : (placeSearch.clauses.filterMap Clause.ignored?).map LogEntry.message
      = ["Ignoring non-exact criterion on registration location: Proximity(location='1,9')",
        "Ignoring non-exact criterion on registration location: Range(gte='A', lte='Z')"] := by
    decide +kernel
  have hlength := congrArg List.length hmessages
  rw [hsum, hreports] at hcount
  rw [List.length_map, List.length_cons, List.length_cons, List.length_nil] at hlength
  refine ⟨hdeclared, rfl, document, hdocument, by omega, ?_⟩
  rw [hreports, hmessages]

end RegistrySearch
