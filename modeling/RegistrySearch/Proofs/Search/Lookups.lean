import Mathlib.Logic.Function.Iterate
import RegistrySearch.Proofs.Catalog.Recency
import RegistrySearch.Proofs.Search.Influence

/-!
# How often the name fields are asked for

A clause that searches on declaration fields asks once for the name fields of the catalog, also if it lists no field, and it does so before it looks at any of them. No other step of the compiler touches the memo. So the look-ups of a query can be counted from its clauses, up to the first one that fails.

Each part of the compiler has its lemma of the form `Compilation.Asks`, which counts the look-ups and lists the faults by which the part ends. The count of a sequence depends on the faults of its first step, and the lemma of a sequence puts the two together.

All look-ups of a query are for one catalog. After the first of them its entry stands in front of the memo, where nothing can push it out in the meantime, so all others are hits (`Query.lookups_of_compile`).
-/

namespace RegistrySearch

variable {α β : Type}

/-! ### Looking a catalog up -/

namespace Compiler

variable (compiler : Compiler) (catalog : Catalog)

/-- The memo after the name fields of a catalog were asked for. It changes only if the settings and the catalog allow to remember them. -/
def lookUp (memo : Memo) : Memo :=
  if compiler.settings.cacheNameFields = true ∧ catalog.editable = false then
    (memo.ask (nameFieldIds compiler.lookup) catalog.events).2
  else memo

theorem exists_nameFields (memo : Memo) :
    ∃ ids log, (compiler.nameFields catalog).run memo = ⟨.ok ids, compiler.lookUp catalog memo, log⟩ := by
  unfold nameFields lookUp
  cases compiler.settings.cacheNameFields with
  | false => exact ⟨_, _, rfl⟩
  | true =>
      cases catalog.editable with
      | false => exact ⟨_, _, rfl⟩
      | true => exact ⟨_, _, rfl⟩

end Compiler

/-! ### Counting look-ups -/

theorem Outcome.andThen_result (first : Outcome α) (next : α → Compilation β) :
    (first.andThen next).result = first.result >>= fun value => ((next value).run first.memo).result := by
  unfold andThen
  cases first.result <;> rfl

theorem Outcome.andThen_memo_of_error {first : Outcome α} {failure : CompileFailure} (h : first.result = .error failure)
    (next : α → Compilation β) : (first.andThen next).memo = first.memo := by
  rw [andThen, h]

theorem Outcome.andThen_memo_of_ok {first : Outcome α} {value : α} (h : first.result = .ok value)
    (next : α → Compilation β) : (first.andThen next).memo = ((next value).run first.memo).memo := by
  rw [andThen, h]

namespace Compilation

/-- Whatever the memo is, the compilation ends by the faults, and it changes the memo as the given number of look-ups do. -/
structure Asks (c : Compilation α) (look : Memo → Memo) (n : Nat) (faults : List CompileFailure) : Prop where
  ends : ∀ memo, EndsBy (c.run memo).result faults
  memo : ∀ memo, (c.run memo).memo = look^[n] memo

variable {look : Memo → Memo} {c : Compilation α} {n m : Nat} {faults others : List CompileFailure}

theorem asks_pure (value : α) : (pure value : Compilation α).Asks look 0 [] where
  ends _ := .ok value
  memo _ := rfl

theorem asks_log (entry : LogEntry) : (log entry).Asks look 0 [] where
  ends _ := .ok ()
  memo _ := rfl

theorem asks_ofExcept {result : Except CompileFailure α} (h : EndsBy result faults) :
    (ofExcept result).Asks look 0 faults where
  ends _ := h
  memo _ := rfl

/-- What comes after a step counts only if the step does not fail. -/
theorem Asks.bind {next : α → Compilation β} (hc : c.Asks look n faults)
    (hnext : ∀ value, (next value).Asks look m others) :
    (c >>= next).Asks look (if faults = [] then n + m else n) (faults ++ others) where
  ends memo := by
    rw [run_bind, Outcome.andThen_result]
    exact (hc.ends memo).bind fun value => (hnext value).ends _
  memo memo := by
    have hends := hc.ends memo
    cases hresult : (c.run memo).result with
    | error failure =>
        have hfaults : faults ≠ [] := hends.exists_error_iff.1 ⟨failure, hresult⟩
        rw [run_bind, Outcome.andThen_memo_of_error hresult, hc.memo memo, if_neg hfaults]
    | ok value =>
        rw [run_bind, Outcome.andThen_memo_of_ok hresult, hc.memo memo, if_pos (hends.eq_nil hresult), Nat.add_comm,
          Function.iterate_add_apply]
        exact (hnext value).memo _

theorem Asks.then {next : α → Compilation β} (hc : c.Asks look n [])
    (hnext : ∀ value, (next value).Asks look m others) : (c >>= next).Asks look (n + m) others := by
  have h := hc.bind hnext
  rwa [if_pos rfl, List.nil_append] at h

/-- A step that only changes the result. -/
theorem Asks.map (hc : c.Asks look n faults) (f : α → β) :
    (c >>= fun value => pure (f value)).Asks look n faults := by
  have h := hc.bind fun value => asks_pure (f value)
  rwa [Nat.add_zero, ite_self, List.append_nil] at h

/-- A step that logs something and changes the result. -/
theorem Asks.finish (hc : c.Asks look n faults) (entry : α → LogEntry) (f : α → β) :
    (c >>= fun value => log (entry value) >>= fun _ => pure (f value)).Asks look n faults := by
  have h := hc.bind fun value => (asks_log (entry value)).then fun _ => asks_pure (f value)
  rwa [Nat.add_zero, ite_self, List.append_nil] at h

theorem asks_forM_log (entries : List LogEntry) : (entries.forM log).Asks look 0 [] := by
  induction entries with
  | nil => exact asks_pure ()
  | cons entry entries ih => exact (asks_log entry).then fun _ => ih

end Compilation

/-! ### The parts of the compiler -/

open Compilation

namespace Clause

variable {clause : Clause} {look : Memo → Memo}

theorem RecordDeclared.asks_compileMember (h : clause.RecordDeclared) (field : RecordField) :
    (clause.compileMember field).Asks look 0 [] := by
  unfold compileMember
  cases hcriterion : clause.criterion field with
  | none => exact asks_pure []
  | some criterion =>
      have hconditions : clause.recordConditions field = field.conditions criterion := by
        rw [recordConditions, hcriterion]
      refine (asks_forM_log _).then fun _ => asks_ofExcept ?_
      rw [← hconditions, recordConditions_eq {} (h field)]
      exact .ok _

theorem RecordDeclared.asks_compileRecord (h : clause.RecordDeclared) (fields : List RecordField) :
    (clause.compileRecord fields).Asks look 0 [] := by
  induction fields with
  | nil => exact asks_pure []
  | cons field fields ih =>
      exact (h.asks_compileMember field).then fun first => ih.map fun others => first ++ others

end Clause

namespace Compiler

variable (compiler : Compiler) (catalog : Catalog) {look : Memo → Memo}

theorem asks_compileField (names : List String) (entry : String × Criterion) :
    (compiler.compileField entry.1 entry.2 (names.contains entry.1)).Asks look 0 (entry.2.refusals entry.1) := by
  have hends := compiler.endsBy_directField names entry
  unfold directField at hends
  unfold compileField
  cases hcondition : compiler.fieldCondition entry.1 entry.2 (names.contains entry.1) with
  | ok condition =>
      rw [hcondition] at hends
      rw [hends.eq_nil rfl]
      exact asks_pure condition
  | error unsupported =>
      rw [hcondition] at hends
      exact (asks_log _).then fun _ => asks_ofExcept hends

theorem asks_compileFields (names : List String) (data : List (String × Criterion)) :
    (compiler.compileFields names data).Asks look 0 (data.flatMap fun entry => entry.2.refusals entry.1) := by
  induction data with
  | nil => exact asks_pure []
  | cons entry data ih =>
      have h := (compiler.asks_compileField names entry).bind fun first => ih.map fun others => first :: others
      rwa [Nat.add_zero, ite_self] at h

theorem asks_nameFields : (compiler.nameFields catalog).Asks (compiler.lookUp catalog) 1 [] where
  ends memo := by
    obtain ⟨ids, log, hrun⟩ := compiler.exists_nameFields catalog memo
    rw [hrun]
    exact .ok ids
  memo memo := by
    obtain ⟨ids, log, hrun⟩ := compiler.exists_nameFields catalog memo
    rw [hrun]
    rfl

theorem asks_compileDataMember (clause : Clause) :
    (compiler.compileDataMember catalog clause.data).Asks (compiler.lookUp catalog)
      (if clause.data.isSome then 1 else 0) clause.refusals := by
  unfold Clause.refusals
  cases clause.data with
  | none => exact asks_pure []
  | some data => exact (compiler.asks_nameFields catalog).then fun names => compiler.asks_compileFields names data

theorem asks_compileClause {clause : Clause} (h : clause.RecordDeclared) :
    (compiler.compileClause catalog clause).Asks (compiler.lookUp catalog)
      (if clause.data.isSome then 1 else 0) clause.refusals := by
  have hdata := compiler.asks_compileDataMember catalog clause
  unfold compileClause
  by_cases hempty : clause.isEmpty = true
  · obtain ⟨-, -, hnone⟩ := Clause.isEmpty_iff.1 hempty
    rw [if_pos hempty, Clause.refusals, hnone]
    exact (asks_log _).then fun _ => asks_pure []
  · rw [if_neg hempty]
    have hall := (h.asks_compileRecord RecordField.all).then fun record =>
      hdata.map fun data => clause.eventConditions ++ record ++ data
    rwa [Nat.zero_add] at hall

end Compiler

/-! ### The clauses of a query -/

namespace Compiler

variable (compiler : Compiler) (catalog : Catalog) {clause : Clause} {clauses : List Clause}

/-- The clause does not compile. -/
def rejects (clause : Clause) : Bool :=
  !((compiler.compileClause catalog clause).run Memo.empty).result.isOk

/-- The clauses that are compiled: all of them, or those up to the first one that fails. -/
def reached (clauses : List Clause) : List Clause :=
  clauses.take (clauses.findIdx (compiler.rejects catalog) + 1)

theorem rejects_iff (h : clause.RecordDeclared) : compiler.rejects catalog clause = true ↔ clause.refusals ≠ [] := by
  rw [← ((compiler.asks_compileClause catalog h).ends Memo.empty).exists_error_iff, rejects]
  cases ((compiler.compileClause catalog clause).run Memo.empty).result with
  | ok conditions => simp [Except.isOk, Except.toBool]
  | error failure => simp [Except.isOk, Except.toBool]

theorem reached_cons (clause : Clause) (clauses : List Clause) :
    compiler.reached catalog (clause :: clauses)
      = clause :: if compiler.rejects catalog clause = true then [] else compiler.reached catalog clauses := by
  rw [reached, List.findIdx_cons, List.take_succ_cons]
  cases compiler.rejects catalog clause with
  | true => rfl
  | false => rfl

/-- How often the name fields are asked for in compiling clauses one after the other. -/
def lookups (clauses : List Clause) : Nat :=
  (compiler.reached catalog clauses).countP fun clause => clause.data.isSome

theorem lookups_cons (h : clause.RecordDeclared) :
    compiler.lookups catalog (clause :: clauses)
      = if clause.refusals = [] then (if clause.data.isSome then 1 else 0) + compiler.lookups catalog clauses
        else if clause.data.isSome then 1 else 0 := by
  have hrejects := compiler.rejects_iff catalog h
  rw [lookups, reached_cons, List.countP_cons]
  by_cases hnil : clause.refusals = []
  · rw [if_pos hnil, if_neg fun hrejected => hrejects.1 hrejected hnil, Nat.add_comm]
    rfl
  · rw [if_neg hnil, if_pos (hrejects.2 hnil), List.countP_nil, Nat.zero_add]

/-- Clauses are compiled one after the other, in whatever way their conditions are put together. -/
theorem asks_clauses {γ : Type} {compileAll : List Clause → Compilation γ} {value : γ}
    {combine : List Condition → γ → γ} (hnil : compileAll [] = pure value)
    (hcons : ∀ clause clauses, compileAll (clause :: clauses)
      = compiler.compileClause catalog clause >>= fun first =>
          compileAll clauses >>= fun others => pure (combine first others))
    (h : ∀ clause ∈ clauses, clause.RecordDeclared) :
    (compileAll clauses).Asks (compiler.lookUp catalog) (compiler.lookups catalog clauses)
      (clauses.flatMap Clause.refusals) := by
  induction clauses with
  | nil =>
      rw [hnil]
      exact asks_pure value
  | cons clause clauses ih =>
      obtain ⟨hclause, hclauses⟩ := List.forall_mem_cons.1 h
      rw [hcons, compiler.lookups_cons catalog hclause]
      exact (compiler.asks_compileClause catalog hclause).bind fun first => (ih hclauses).map (combine first)

theorem asks_compileJoined (h : ∀ clause ∈ clauses, clause.RecordDeclared) :
    (compiler.compileJoined catalog clauses).Asks (compiler.lookUp catalog) (compiler.lookups catalog clauses)
      (clauses.flatMap Clause.refusals) :=
  compiler.asks_clauses catalog rfl (fun _ _ => rfl) h

theorem asks_compileClauses (h : ∀ clause ∈ clauses, clause.RecordDeclared) :
    (compiler.compileClauses catalog clauses).Asks (compiler.lookUp catalog) (compiler.lookups catalog clauses)
      (clauses.flatMap Clause.refusals) :=
  compiler.asks_clauses catalog rfl (fun _ _ => rfl) h

end Compiler

/-- How often the name fields are asked for in compiling the query. -/
def Query.lookups (query : Query) (compiler : Compiler) (catalog : Catalog) : Nat :=
  if query.operator = conjunction ∨ query.operator = disjunction then compiler.lookups catalog query.clauses else 0

theorem Compiler.asks_compile (compiler : Compiler) (catalog : Catalog) {query : Query} (h : query.RecordDeclared) :
    (compiler.compile query catalog).Asks (compiler.lookUp catalog) (query.lookups compiler catalog)
      query.refusals := by
  unfold compile Query.lookups Query.refusals
  by_cases hand : query.operator = Query.conjunction
  · rw [if_pos hand, if_pos (.inl hand), if_pos (.inl hand)]
    exact (compiler.asks_compileJoined catalog h).finish _ _
  · rw [if_neg hand]
    by_cases hor : query.operator = Query.disjunction
    · rw [if_pos hor, if_pos (.inr hor), if_pos (.inr hor)]
      exact (compiler.asks_compileClauses catalog h).finish _ _
    · rw [if_neg hor, if_neg (not_or.2 ⟨hand, hor⟩), if_neg (not_or.2 ⟨hand, hor⟩)]
      exact (asks_log _).then fun _ => asks_pure _

/-! ### Repeated look-ups -/

namespace Memo

variable (classify : List Event → List String) (events : List Event) (memo : Memo)

theorem total_iterate_ask (n : Nat) :
    ((fun memo => (ask classify events memo).2)^[n] memo).hits + ((fun memo => (ask classify events memo).2)^[n] memo).misses
      = memo.hits + memo.misses + n := by
  induction n with
  | zero => rfl
  | succ n ih => rw [Function.iterate_succ_apply', total_ask, ih, Nat.add_assoc]

/-- Before each look-up but the first the catalog has an entry. -/
theorem mem_keys_iterate_ask (i : Nat) :
    events ∈ ((fun memo => (ask classify events memo).2)^[i] memo).keys ↔ 0 < i ∨ events ∈ memo.keys := by
  cases i with
  | zero => simp
  | succ i =>
      rw [Function.iterate_succ_apply']
      exact iff_of_true (mem_keys_ask classify _ events) (.inl i.succ_pos)

end Memo

/-- Compiling a query looks the catalog up once for each clause with declaration fields, an empty list of them included, up to the first clause that fails; under an unknown operator it does not. The first look-up is a miss if the memo had no entry for the catalog, and all others are hits. If nothing may be remembered, the memo stays as it was. -/
theorem Query.lookups_of_compile (query : Query) (h : query.RecordDeclared) (compiler : Compiler) (catalog : Catalog)
    (memo : Memo) :
    let after := ((compiler.compile query catalog).run memo).memo
    let ask := fun memo : Memo => (memo.ask (nameFieldIds compiler.lookup) catalog.events).2
    let n := query.lookups compiler catalog
    (compiler.settings.cacheNameFields = true → catalog.editable = false →
      after.hits + after.misses = memo.hits + memo.misses + n ∧ after = ask^[n] memo
      ∧ ∀ i < n, ((ask^[i] memo).IsMiss (ask^[i + 1] memo) ↔ i = 0 ∧ catalog.events ∉ memo.keys)
        ∧ ((ask^[i] memo).IsHit (ask^[i + 1] memo) ↔ 0 < i ∨ catalog.events ∈ memo.keys))
    ∧ (compiler.settings.cacheNameFields = false ∨ catalog.editable = true → after = memo) := by
  intro after ask n
  have hafter : after = (compiler.lookUp catalog)^[n] memo := (compiler.asks_compile catalog h).memo memo
  constructor
  · intro hcache heditable
    have hask : compiler.lookUp catalog = ask := funext fun memo => if_pos ⟨hcache, heditable⟩
    rw [hask] at hafter
    refine ⟨hafter ▸ Memo.total_iterate_ask .., hafter, fun i _ => ?_⟩
    rw [Function.iterate_succ_apply', Memo.isMiss_ask_iff, Memo.isHit_ask_iff, Memo.mem_keys_iterate_ask, not_or,
      Nat.pos_iff_ne_zero, not_not]
    exact ⟨Iff.rfl, Iff.rfl⟩
  · intro hnone
    have hid : compiler.lookUp catalog = id := by
      funext memo
      refine if_neg fun hboth => ?_
      rw [hboth.1, hboth.2] at hnone
      rcases hnone with hfalse | hfalse <;> cases hfalse
    rw [hafter, hid, Function.iterate_id]
    rfl

/-- Alternatives of which the first lists no declaration field, the second is on the record only, and the fourth cannot be searched. -/
def interruptedSearch : Query :=
  .anyOf [{ data := some [] }, { eventType := some "birth" }, { data := some [("child.name", .fuzzy "Ana")] },
    { data := some [("mother.name", .exact "Eve"), ("child.dob", .within "1,9")] }, { data := some [] }]

/-- A memo without room, after look-ups of more catalogs than it has entries for. -/
def Memo.crowded : Memo :=
  Memo.asked Event.uniqueFields ((List.range 34).map fun i => [{ id := toString i }])

theorem Query.lookups_of_compile_interruptedSearch :
    interruptedSearch.RecordDeclared ∧ Memo.crowded.size = Memo.capacity
      ∧ let after := ((Compiler.compile {} interruptedSearch .redeclaring).run Memo.crowded).memo
        after.hits = Memo.crowded.hits + 2 ∧ after.misses = Memo.crowded.misses + 1 := by
  have hdeclared : interruptedSearch.RecordDeclared := by decide
  have hcount : interruptedSearch.lookups {} .redeclaring = 3 := by decide +kernel
  have hnew : Catalog.redeclaring.events ∉ Memo.crowded.keys := by decide +kernel
  obtain ⟨-, hafter, hlookups⟩ :=
    (interruptedSearch.lookups_of_compile hdeclared {} .redeclaring Memo.crowded).1 rfl rfl
  rw [hcount] at hafter hlookups
  have hfirst := (hlookups 0 (by decide)).1.2 ⟨rfl, hnew⟩
  have hsecond := (hlookups 1 (by decide)).2.2 (.inl (by decide))
  have hthird := (hlookups 2 (by decide)).2.2 (.inl (by decide))
  refine ⟨hdeclared, by decide +kernel, ?_⟩
  intro after
  have hlast : after = _ := hafter
  rw [hlast, hthird.1, hthird.2, hsecond.1, hsecond.2, hfirst.1, hfirst.2]
  exact ⟨rfl, rfl⟩

end RegistrySearch
