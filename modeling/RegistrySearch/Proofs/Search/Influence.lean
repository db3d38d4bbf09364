import RegistrySearch.Proofs.Search.Meaning
import RegistrySearch.Proofs.Search.ReadBack
import RegistrySearch.Proofs.Search.Routing

/-!
# What a document depends on

A query is compiled with settings, an encoding of field ids, a catalog and a memo. What of the result do these decide? Not whether there is one: the declaration fields that cannot be searched are told from the query alone, and compiling fails with the first of them (`Query.outcome_eq_error_iff`). And not its shape: the conditions on the record are the same for all of them, and each condition on a declaration field is the same test of the same values, at a path and with a tolerance that they choose (`Query.Alike`).

Between two catalogs even less is open. A catalog says of an id only whether it is one of a name, and only approximate criteria ask for it. There the answer always shows, since the path of a full name is never that of the field, so two catalogs give the same document exactly if they agree on the ids that are searched for approximately (`Query.influences`).
-/

namespace RegistrySearch

/-- What a query is compiled with: a compiler, a catalog, and the catalogs that the memo was asked about before. -/
structure Circumstances where
  compiler : Compiler
  catalog : Catalog
  earlier : List (List Event) := []

namespace Circumstances

/-- The ids of the name fields that the catalog has. -/
def names (c : Circumstances) : List String :=
  nameFieldIds c.compiler.lookup c.catalog.events

theorem mem_names {c : Circumstances} {id : String} :
    id ∈ c.names ↔ c.catalog.DeclaresName c.compiler.lookup id :=
  mem_nameFieldIds

end Circumstances

/-- What a query comes to. -/
def Query.outcome (query : Query) (c : Circumstances) : Except CompileFailure Document :=
  ((c.compiler.compile query c.catalog).run (Memo.asked c.compiler.lookup c.earlier)).result

theorem Query.outcome_eq (query : Query) (c : Circumstances) : query.outcome c = c.compiler.direct c.names query :=
  (c.compiler.yields_compile c.catalog query _ (Memo.faithful_asked c.compiler.lookup c.earlier)).1

/-- Every criterion of a record field is of a variant that the field takes. Declaration fields may be given any values. -/
def Clause.RecordDeclared (clause : Clause) : Prop :=
  ∀ field criterion, clause.criterion field = some criterion → criterion.IsOneOf field.role.variants

def Query.RecordDeclared (query : Query) : Prop :=
  ∀ clause ∈ query.clauses, clause.RecordDeclared

theorem Clause.recordDeclared_iff {clause : Clause} :
    clause.RecordDeclared
      ↔ ∀ field ∈ RecordField.all, ∀ criterion ∈ clause.criterion field, criterion.IsOneOf field.role.variants :=
  ⟨fun h field _ => h field, fun h field => h field field.mem_all⟩

instance (clause : Clause) : Decidable clause.RecordDeclared :=
  decidable_of_iff _ Clause.recordDeclared_iff.symm

instance (query : Query) : Decidable query.RecordDeclared :=
  inferInstanceAs (Decidable (∀ clause ∈ query.clauses, clause.RecordDeclared))

/-! ### Failures -/

/-- The failure to search a declaration field with a criterion that is not one for those. -/
def Criterion.refusals (id : String) (criterion : Criterion) : List CompileFailure :=
  if criterion.IsOneOf Variant.field then []
  else [.unsupported (.of id criterion.tag UnsupportedCriterion.supportedTags)]

def Clause.refusals (clause : Clause) : List CompileFailure :=
  (clause.data.getD []).flatMap fun entry => entry.2.refusals entry.1

/-- The declaration fields that cannot be searched as the query asks for, in the order of the query. Under an operator that matches nothing none is searched. -/
def Query.refusals (query : Query) : List CompileFailure :=
  if query.operator = conjunction ∨ query.operator = disjunction then query.clauses.flatMap Clause.refusals else []

theorem Criterion.isOneOf_of_refusals {id : String} {criterion : Criterion} (h : criterion.refusals id = []) :
    criterion.IsOneOf Variant.field := by
  by_contra hnot
  rw [refusals, if_neg hnot] at h
  cases h

theorem Clause.RecordDeclared.declared {clause : Clause} (h : clause.RecordDeclared) (hnone : clause.refusals = []) :
    clause.Declared where
  record := h
  data := by
    intro data hdata entry hentry
    rw [Clause.refusals, hdata, List.flatMap_eq_nil_iff] at hnone
    exact Criterion.isOneOf_of_refusals (hnone entry hentry)

theorem Query.RecordDeclared.declared {query : Query} (h : query.RecordDeclared)
    (hnone : query.clauses.flatMap Clause.refusals = []) : query.Declared := by
  intro clause hclause
  exact (h clause hclause).declared (List.flatMap_eq_nil_iff.1 hnone clause hclause)

theorem Query.unsupported_of_mem_refusals {query : Query} {failure : CompileFailure} (h : failure ∈ query.refusals) :
    ∃ u, failure = .unsupported u := by
  unfold refusals at h
  split at h
  · obtain ⟨clause, -, hclause⟩ := List.mem_flatMap.1 h
    obtain ⟨entry, -, hentry⟩ := List.mem_flatMap.1 hclause
    unfold Criterion.refusals at hentry
    split at hentry
    · cases hentry
    · exact ⟨_, List.mem_singleton.1 hentry⟩
  · cases h

namespace Compiler

variable (compiler : Compiler) (names : List String)

theorem endsBy_directField (entry : String × Criterion) :
    EndsBy (compiler.directField names entry) (entry.2.refusals entry.1) := by
  obtain ⟨id, criterion⟩ := entry
  cases criterion with
  | exact term => exact .ok _
  | fuzzy term => exact .ok _
  | anyOf terms => exact .ok _
  | range gte lte => exact .ok _
  | within location => exact .error _ []
  | raw value =>
      have hraw : ¬ (Criterion.raw value).IsOneOf Variant.field := by simp [Criterion.IsOneOf, Criterion.variant?]
      rw [Criterion.refusals, if_neg hraw]
      exact .error _ []

theorem endsBy_directClause {clause : Clause} (h : clause.RecordDeclared) :
    EndsBy (compiler.directClause names clause) clause.refusals := by
  have hrecord := mapM_eq_map fun field (_ : field ∈ RecordField.all) =>
    Clause.recordConditions_eq compiler (h field)
  have hdata : EndsBy (compiler.directData names clause.data) clause.refusals := by
    unfold Clause.refusals
    cases clause.data with
    | none => exact .ok []
    | some data => exact .mapM fun entry _ => compiler.endsBy_directField names entry
  rw [directClause, hrecord]
  exact hdata.map _

theorem endsBy_direct {query : Query} (h : query.RecordDeclared) :
    EndsBy (compiler.direct names query) query.refusals := by
  have hclauses : EndsBy (query.clauses.mapM (compiler.directClause names)) (query.clauses.flatMap Clause.refusals) :=
    .mapM fun clause hclause => compiler.endsBy_directClause names (h clause hclause)
  unfold direct Query.refusals
  by_cases hand : query.operator = Query.conjunction
  · rw [if_pos hand, if_pos (.inl hand)]
    exact hclauses.map _
  · rw [if_neg hand]
    by_cases hor : query.operator = Query.disjunction
    · rw [if_pos hor, if_pos (.inr hor)]
      exact hclauses.map _
    · rw [if_neg hor, if_neg (not_or.2 ⟨hand, hor⟩)]
      exact .ok _

end Compiler

/-- Compiling fails with the first declaration field that cannot be searched. -/
theorem Query.outcome_eq_error_iff {query : Query} (h : query.RecordDeclared) (c : Circumstances)
    {failure : CompileFailure} : query.outcome c = .error failure ↔ query.refusals.head? = some failure := by
  rw [query.outcome_eq]
  exact (c.compiler.endsBy_direct c.names h).eq_error_iff

/-! ### Documents of declared queries -/

namespace Compiler

variable {compiler : Compiler} {query : Query}

theorem direct_of_conjunction (hand : query.operator = Query.conjunction) (h : query.Declared) (names : List String) :
    compiler.direct names query = .ok (.all (query.clauses.flatMap (Clause.conditions compiler names))) := by
  have hclauses := mapM_eq_map fun clause hclause => (h clause hclause).directClause_eq compiler names
  rw [direct, if_pos hand, hclauses, List.flatMap_def]
  rfl

theorem direct_of_disjunction (hor : query.operator = Query.disjunction) (h : query.Declared) (names : List String) :
    compiler.direct names query = .ok (.any (query.clauses.map (Clause.conditions compiler names))) := by
  have hclauses := mapM_eq_map fun clause hclause => (h clause hclause).directClause_eq compiler names
  have hand : query.operator ≠ Query.conjunction := by rw [hor]; decide
  rw [direct, if_neg hand, if_pos hor, hclauses]
  rfl

theorem direct_of_unknown (hand : query.operator ≠ Query.conjunction) (hor : query.operator ≠ Query.disjunction)
    (names : List String) : compiler.direct names query = .ok .none := by
  rw [direct, if_neg hand, if_neg hor]

end Compiler

/-! ### The shape of a document -/

/-- What a condition of a clause is on: the event type or a record field, or a declaration field with its criterion. -/
inductive Position where
  | record
  | entry (criterion : Criterion)

/-- What the conditions of a clause are on, in their order. A registration location that is not exact has none. -/
def Clause.positions (clause : Clause) : List Position :=
  (clause.eventType.map fun _ => .record).toList
    ++ RecordField.all.filterMap (fun field => (clause.honoured field).map fun _ => .record)
    ++ (clause.data.getD []).map fun entry => .entry entry.2

/-- The conditions are the same but for those on declaration fields. These are the same test of the same values, at any paths and with any tolerances. -/
inductive AlikeAt : List Position → List Condition → List Condition → Prop
  | nil : AlikeAt [] [] []
  | record {positions first second} (condition : Condition) (rest : AlikeAt positions first second) :
    AlikeAt (.record :: positions) (condition :: first) (condition :: second)
  | entry {positions first second criterion path path' fuzziness fuzziness' left right}
    (hleft : Criterion.condition? path fuzziness criterion = some left)
    (hright : Criterion.condition? path' fuzziness' criterion = some right)
    (rest : AlikeAt positions first second) :
    AlikeAt (.entry criterion :: positions) (left :: first) (right :: second)

/-- The conditions of each clause are alike. -/
inductive GroupsAlike : List Clause → List (List Condition) → List (List Condition) → Prop
  | nil : GroupsAlike [] [] []
  | cons {clause clauses left right first second} (group : AlikeAt clause.positions left right)
    (rest : GroupsAlike clauses first second) : GroupsAlike (clause :: clauses) (left :: first) (right :: second)

/-- The documents have the shape that the query asks for, and the same conditions but for those on declaration fields. -/
inductive Query.Alike (query : Query) : Document → Document → Prop
  | all {first second} (hand : query.operator = "and")
    (conditions : AlikeAt (query.clauses.flatMap Clause.positions) first second) : query.Alike (.all first) (.all second)
  | any {first second} (hor : query.operator = "or") (groups : GroupsAlike query.clauses first second) :
    query.Alike (.any first) (.any second)
  | none (hand : query.operator ≠ "and") (hor : query.operator ≠ "or") : query.Alike .none .none

namespace AlikeAt

variable {α : Type} {xs : List α} {positions others : List Position} {first second left right : List Condition}

theorem length_eq (h : AlikeAt positions first second) : first.length = second.length := by
  induction h with
  | nil => rfl
  | record _ _ ih => exact congrArg Nat.succ ih
  | entry _ _ _ ih => exact congrArg Nat.succ ih

theorem append (h : AlikeAt positions first second) (hothers : AlikeAt others left right) :
    AlikeAt (positions ++ others) (first ++ left) (second ++ right) := by
  induction h with
  | nil => exact hothers
  | record condition _ ih => exact .record condition ih
  | entry hleft hright _ ih => exact .entry hleft hright ih

theorem flatMap {positions : α → List Position} {first second : α → List Condition}
    (h : ∀ x ∈ xs, AlikeAt (positions x) (first x) (second x)) :
    AlikeAt (xs.flatMap positions) (xs.flatMap first) (xs.flatMap second) := by
  induction xs with
  | nil => exact .nil
  | cons x xs ih =>
      obtain ⟨hx, hxs⟩ := List.forall_mem_cons.1 h
      exact hx.append (ih hxs)

theorem filterMap {positions : α → Option Position} {first second : α → Option Condition}
    (h : ∀ x ∈ xs, AlikeAt (positions x).toList (first x).toList (second x).toList) :
    AlikeAt (xs.filterMap positions) (xs.filterMap first) (xs.filterMap second) := by
  simp only [List.filterMap_eq_flatMap_toList]
  exact flatMap h

end AlikeAt

/-- A criterion that a record field takes is one test, and no tolerance changes it. -/
theorem Criterion.exists_condition_of_role {role : RecordField.Role} {criterion : Criterion}
    (h : criterion.IsOneOf role.variants) (path : String) :
    ∃ condition, ∀ fuzziness, criterion.condition? path fuzziness = some condition := by
  obtain ⟨variant, hvariant, hcriterion⟩ := h
  cases criterion with
  | exact term => exact ⟨_, fun _ => rfl⟩
  | anyOf terms => exact ⟨_, fun _ => rfl⟩
  | range gte lte => exact ⟨_, fun _ => rfl⟩
  | within location => exact ⟨_, fun _ => rfl⟩
  | fuzzy term =>
      cases hcriterion
      cases role <;> exact absurd hvariant (by decide)
  | raw value => cases hcriterion

namespace Clause

variable {clause : Clause}

theorem criterion_of_honoured {field : RecordField} {criterion : Criterion}
    (h : clause.honoured field = some criterion) : clause.criterion field = some criterion := by
  unfold honoured at h
  split at h
  · exact (Option.filter_eq_some_iff.1 h).1
  · exact h

theorem alikeAt_eventConditions :
    AlikeAt (clause.eventType.map fun _ => .record).toList clause.eventConditions clause.eventConditions := by
  unfold eventConditions
  cases clause.eventType with
  | none => exact .nil
  | some type => exact .record _ .nil

theorem Declared.alikeAt_recordCondition (h : clause.Declared) (field : RecordField) (first second : Compiler) :
    AlikeAt ((clause.honoured field).map fun _ => .record).toList (clause.recordCondition? first field).toList
      (clause.recordCondition? second field).toList := by
  unfold recordCondition?
  cases hhonoured : clause.honoured field with
  | none => exact .nil
  | some criterion =>
      have hdeclared := h.record field criterion (criterion_of_honoured hhonoured)
      obtain ⟨condition, hcondition⟩ := Criterion.exists_condition_of_role hdeclared field.indexPath
      rw [Option.bind_some, Option.bind_some, hcondition, hcondition]
      exact .record condition .nil

theorem alikeAt_entryCondition (first second : Circumstances) {entry : String × Criterion}
    (h : entry.2.IsOneOf Variant.field) :
    AlikeAt [.entry entry.2] (first.compiler.entryCondition? first.names entry).toList
      (second.compiler.entryCondition? second.names entry).toList := by
  obtain ⟨left, -, hleft⟩ := first.compiler.exists_entryCondition first.names h
  obtain ⟨right, -, hright⟩ := second.compiler.exists_entryCondition second.names h
  rw [hleft, hright]
  exact .entry hleft hright .nil

theorem Declared.alikeAt_conditions (h : clause.Declared) (first second : Circumstances) :
    AlikeAt clause.positions (clause.conditions first.compiler first.names)
      (clause.conditions second.compiler second.names) := by
  have hrecord := AlikeAt.filterMap fun field (_ : field ∈ RecordField.all) =>
    h.alikeAt_recordCondition field first.compiler second.compiler
  have hdata : AlikeAt ((clause.data.getD []).filterMap fun entry => some (.entry entry.2))
      ((clause.data.getD []).filterMap (first.compiler.entryCondition? first.names))
      ((clause.data.getD []).filterMap (second.compiler.entryCondition? second.names)) :=
    .filterMap fun entry hentry => alikeAt_entryCondition first second (h.isOneOf_of_mem hentry)
  rw [List.filterMap_eq_map'] at hdata
  exact (alikeAt_eventConditions.append hrecord).append hdata

theorem groupsAlike_conditions {clauses : List Clause} (h : ∀ clause ∈ clauses, clause.Declared)
    (first second : Circumstances) :
    GroupsAlike clauses (clauses.map (conditions first.compiler first.names))
      (clauses.map (conditions second.compiler second.names)) := by
  induction clauses with
  | nil => exact .nil
  | cons clause clauses ih =>
      obtain ⟨hclause, hrest⟩ := List.forall_mem_cons.1 h
      exact .cons (hclause.alikeAt_conditions first second) (ih hrest)

end Clause

/-! ### Two catalogs -/

/-- Some clause has an approximate criterion for the declaration field. -/
def Query.Approximates (query : Query) (id : String) : Prop :=
  ∃ clause ∈ query.clauses, ∃ data, clause.data = some data ∧ ∃ term, (id, Criterion.fuzzy term) ∈ data

theorem Document.toJson_injective : Function.Injective Document.toJson := by
  have hconditions : Function.Injective (List.map Condition.toJson) := List.map_injective_iff.2 Condition.toJson_injective
  have hall : Function.Injective allToJson := by
    intro first second h
    apply hconditions
    simpa [allToJson, EngineQuery.allOf, EngineQuery.single] using h
  intro first second h
  cases first <;> cases second <;>
    simp_all [toJson, allToJson, EngineQuery.allOf, EngineQuery.anyOf, EngineQuery.matchNone, EngineQuery.single,
      hconditions.eq_iff, (List.map_injective_iff.2 hall).eq_iff]

theorem toList_eq_toList_iff {α : Type} {x y : Option α} : x.toList = y.toList ↔ x = y := by
  cases x <;> cases y <;> simp

/-- Lists that are put together from parts of the same lengths are equal only part by part. -/
theorem flatMap_eq_flatMap_iff {α β : Type} {f g : α → List β} {xs : List α}
    (h : ∀ x ∈ xs, (f x).length = (g x).length) : xs.flatMap f = xs.flatMap g ↔ ∀ x ∈ xs, f x = g x := by
  induction xs with
  | nil => simp
  | cons x xs ih =>
      obtain ⟨hx, hxs⟩ := List.forall_mem_cons.1 h
      rw [List.forall_mem_cons, ← ih hxs, List.flatMap_cons, List.flatMap_cons]
      exact ⟨fun heq => List.append_inj heq hx, fun heq => by rw [heq.1, heq.2]⟩

namespace Compiler

variable {first second : Compiler}

/-- A catalog decides where an approximate criterion goes, and the answer always shows. -/
theorem entryCondition?_eq_iff (hsettings : first.settings = second.settings) (hencode : first.encodeId = second.encodeId)
    {names others : List String} (entry : String × Criterion) :
    first.entryCondition? names entry = second.entryCondition? others entry
      ↔ ∀ term, entry.2 = .fuzzy term → (entry.1 ∈ names ↔ entry.1 ∈ others) := by
  obtain ⟨id, criterion⟩ := entry
  have hfield : first.fieldPath id = second.fieldPath id := by rw [fieldPath, fieldPath, hsettings, hencode]
  have hfull : first.fullnamePath id = second.fullnamePath id := by rw [fullnamePath, fullnamePath, hfield, hsettings]
  have hne := second.fieldPath_ne_fullnamePath id
  cases criterion with
  | fuzzy term =>
      -- Of the four pairs of answers the two unequal ones put the path of a full name beside that of the field.
      by_cases hid : id ∈ names <;> by_cases hother : id ∈ others <;>
        simp [entryCondition?, Criterion.condition?, searchedPath, hid, hother, hfield, hfull, hsettings, hne, hne.symm]
  | _ => simp [entryCondition?, Criterion.condition?, searchedPath, hfield]

end Compiler

section Catalogs

variable {first second : Circumstances}

/-- Both catalogs say the same of the id, whether it is one of a name. -/
def Circumstances.AgreeOn (first second : Circumstances) (id : String) : Prop :=
  first.catalog.DeclaresName first.compiler.lookup id ↔ second.catalog.DeclaresName second.compiler.lookup id

theorem Clause.Declared.conditions_eq_iff_agreeOn {clause : Clause} (h : clause.Declared)
    (hsettings : first.compiler.settings = second.compiler.settings)
    (hencode : first.compiler.encodeId = second.compiler.encodeId) :
    clause.conditions first.compiler first.names = clause.conditions second.compiler second.names
      ↔ ∀ data, clause.data = some data → ∀ id term, (id, Criterion.fuzzy term) ∈ data → first.AgreeOn second id := by
  have hrecord : RecordField.all.filterMap (clause.recordCondition? first.compiler)
      = RecordField.all.filterMap (clause.recordCondition? second.compiler) := by
    unfold recordCondition?
    rw [hsettings]
  have hlength : ∀ entry ∈ clause.data.getD [],
      (first.compiler.entryCondition? first.names entry).toList.length
        = (second.compiler.entryCondition? second.names entry).toList.length :=
    fun entry hentry => (alikeAt_entryCondition first second (h.isOneOf_of_mem hentry)).length_eq
  -- What is left are the conditions on declaration fields, one for each entry in both lists.
  rw [conditions, conditions, hrecord, List.append_cancel_left_eq, List.filterMap_eq_flatMap_toList,
    List.filterMap_eq_flatMap_toList, flatMap_eq_flatMap_iff hlength]
  simp only [toList_eq_toList_iff, Compiler.entryCondition?_eq_iff hsettings hencode, Circumstances.mem_names]
  constructor
  · intro hentries data hdata id term hentry
    rw [hdata] at hentries
    exact hentries (id, .fuzzy term) hentry term rfl
  · intro hagree entry hentry term hterm
    obtain ⟨id, criterion⟩ := entry
    cases hterm
    cases hdata : clause.data with
    | none =>
        rw [hdata] at hentry
        exact absurd hentry List.not_mem_nil
    | some data =>
        rw [hdata] at hentry
        exact hagree data hdata id term hentry

end Catalogs

/-! ### Two runs -/

namespace Query

variable {query : Query} {first second : Circumstances} {left right : Document}

theorem RecordDeclared.declared_of_outcome (h : query.RecordDeclared)
    (hop : query.operator = conjunction ∨ query.operator = disjunction) (hok : query.outcome first = .ok left) :
    query.Declared := by
  rw [outcome_eq] at hok
  have hnone := (first.compiler.endsBy_direct first.names h).eq_nil hok
  rw [refusals, if_pos hop] at hnone
  exact h.declared hnone

theorem alike_of_outcome (h : query.RecordDeclared) (hleft : query.outcome first = .ok left)
    (hright : query.outcome second = .ok right) : query.Alike left right := by
  by_cases hand : query.operator = conjunction
  · have hdeclared := h.declared_of_outcome (.inl hand) hleft
    rw [outcome_eq, Compiler.direct_of_conjunction hand hdeclared] at hleft hright
    cases hleft
    cases hright
    exact .all hand (.flatMap fun clause hclause => (hdeclared clause hclause).alikeAt_conditions first second)
  · by_cases hor : query.operator = disjunction
    · have hdeclared := h.declared_of_outcome (.inr hor) hleft
      rw [outcome_eq, Compiler.direct_of_disjunction hor hdeclared] at hleft hright
      cases hleft
      cases hright
      exact .any hor (Clause.groupsAlike_conditions hdeclared first second)
    · rw [outcome_eq, Compiler.direct_of_unknown hand hor] at hleft hright
      cases hleft
      cases hright
      exact .none hand hor

theorem eq_iff_of_outcome (h : query.RecordDeclared) (hsettings : first.compiler.settings = second.compiler.settings)
    (hencode : first.compiler.encodeId = second.compiler.encodeId) (hleft : query.outcome first = .ok left)
    (hright : query.outcome second = .ok right) :
    left = right ↔ (query.operator ≠ conjunction ∧ query.operator ≠ disjunction)
      ∨ ∀ id, query.Approximates id → first.AgreeOn second id := by
  have hclauses : query.Declared → ((∀ clause ∈ query.clauses, clause.conditions first.compiler first.names
        = clause.conditions second.compiler second.names)
      ↔ ∀ id, query.Approximates id → first.AgreeOn second id) := by
    intro hdeclared
    rw [forall₂_congr fun clause hclause => (hdeclared clause hclause).conditions_eq_iff_agreeOn hsettings hencode]
    constructor
    · intro hall id happ
      obtain ⟨clause, hclause, data, hdata, term, hterm⟩ := happ
      exact hall clause hclause data hdata id term hterm
    · intro hall clause hclause data hdata id term hterm
      exact hall id ⟨clause, hclause, data, hdata, term, hterm⟩
  by_cases hand : query.operator = conjunction
  · have hdeclared := h.declared_of_outcome (.inl hand) hleft
    rw [outcome_eq, Compiler.direct_of_conjunction hand hdeclared] at hleft hright
    cases hleft
    cases hright
    have hlength := fun clause hclause => ((hdeclared clause hclause).alikeAt_conditions first second).length_eq
    rw [Document.all.injEq, flatMap_eq_flatMap_iff hlength, hclauses hdeclared]
    simp [hand]
  · by_cases hor : query.operator = disjunction
    · have hdeclared := h.declared_of_outcome (.inr hor) hleft
      rw [outcome_eq, Compiler.direct_of_disjunction hor hdeclared] at hleft hright
      cases hleft
      cases hright
      rw [Document.any.injEq, List.map_inj_left, hclauses hdeclared]
      simp [hor]
    · rw [outcome_eq, Compiler.direct_of_unknown hand hor] at hleft hright
      cases hleft
      cases hright
      exact iff_of_true rfl (.inl ⟨hand, hor⟩)

/-- What can and what cannot influence a document. Whether compiling fails, and with what, is the same in all circumstances. Two documents of a query differ only in the paths and tolerances of their conditions on declaration fields. With the same settings and encoding they differ exactly if the catalogs disagree on an id that is searched for approximately. -/
theorem influences (query : Query) (h : query.RecordDeclared) (first second : Circumstances) :
    (∀ failure, query.outcome first = .error failure ↔ query.outcome second = .error failure)
    ∧ (∀ failure, query.outcome first = .error failure → ∃ u, failure = .unsupported u)
    ∧ ∀ left right, query.outcome first = .ok left → query.outcome second = .ok right →
        query.Alike left right
        ∧ (first.compiler.settings = second.compiler.settings → first.compiler.encodeId = second.compiler.encodeId →
          (left.toJson = right.toJson ↔ (query.operator ≠ "and" ∧ query.operator ≠ "or")
            ∨ ∀ id, query.Approximates id → first.AgreeOn second id)) := by
  refine ⟨fun failure => ?_, fun failure hfailure => ?_, fun left right hleft hright => ⟨?_, fun hsettings hencode => ?_⟩⟩
  · rw [outcome_eq_error_iff h, outcome_eq_error_iff h]
  · rw [outcome_eq_error_iff h] at hfailure
    exact unsupported_of_mem_refusals (List.mem_of_head? hfailure)
  · exact alike_of_outcome h hleft hright
  · rw [Document.toJson_injective.eq_iff]
    exact eq_iff_of_outcome h hsettings hencode hleft hright

end Query

/-- An approximate criterion for an id that one of the two catalogs below declares as a name, beside others and an ignored location. -/
def informantSearch : Query :=
  .allOf [{
      eventType := some "birth"
      registeredAtLocation := some (.range "a" "b")
      data := some [("child.dob", .anyOf ["2020-01-01"]), ("informant.name", .fuzzy "Ana")] }, {}]

def Circumstances.undeclared : Circumstances := { compiler := {}, catalog := .empty }

def Circumstances.redeclared : Circumstances := { compiler := {}, catalog := .redeclaring, earlier := [[]] }

theorem Query.influences_informantSearch :
    informantSearch.RecordDeclared ∧ ∃ left right, informantSearch.outcome .undeclared = .ok left
      ∧ informantSearch.outcome .redeclared = .ok right ∧ informantSearch.Alike left right
      ∧ left.toJson ≠ right.toJson := by
  have hdeclared : informantSearch.RecordDeclared := by decide
  have hleft : informantSearch.outcome .undeclared = .ok (.all [.equals "type" "birth",
      .oneOf "declaration.child____dob" ["2020-01-01"],
      .resembles "declaration.informant____name" "Ana" "AUTO"]) := by decide +kernel
  have hright : informantSearch.outcome .redeclared = .ok (.all [.equals "type" "birth",
      .oneOf "declaration.child____dob" ["2020-01-01"],
      .resembles "declaration.informant____name.__fullname" "Ana" "AUTO"]) := by decide +kernel
  have hsearched : informantSearch.Approximates "informant.name" :=
    ⟨_, .head _, _, rfl, "Ana", .tail _ (.head _)⟩
  have hnamed : Catalog.redeclaring.DeclaresName Event.uniqueFields "informant.name" :=
    mem_nameFieldIds.1 (by decide +kernel)
  obtain ⟨-, -, hok⟩ := informantSearch.influences hdeclared .undeclared .redeclared
  obtain ⟨halike, hequal⟩ := hok _ _ hleft hright
  refine ⟨hdeclared, _, _, hleft, hright, halike, fun heq => ?_⟩
  rcases (hequal rfl rfl).1 heq with hoperator | hagree
  · exact hoperator.1 rfl
  · obtain ⟨event, hevent, -⟩ := (hagree "informant.name" hsearched).2 hnamed
    cases hevent

end RegistrySearch
