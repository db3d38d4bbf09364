import RegistrySearch.Proofs.Search.ReadBack
import RegistrySearch.Proofs.Search.Routing

/-!
# Parts of a clause are compiled on their own

A clause has eleven parts: the type of the event, the record fields, and the declaration fields. No part has a say in the conditions of another one, so the conditions of a clause are those of its parts, each compiled as if it were alone, in the order of `Clause.Part.all`. This holds whatever parts are kept of a clause (`Clause.conditions_keeping`), and taking away or adding a part takes away or adds its own conditions.

The declaration fields are one part, and within it each entry has a condition of its own. Another order of the entries gives the same conditions in that order. It also leaves the memo and the log as they would have been, since the name fields are asked for once, before any entry is looked at (`Clause.sameTrace_compileClause`).
-/

namespace RegistrySearch

variable {α β γ δ : Type}

/-! ### Parts -/

namespace Clause

/-- A part of a clause that can be there or not. -/
inductive Part where
  | eventType
  | record (field : RecordField)
  | data
deriving DecidableEq

/-- The parts in the order in which their conditions are listed. -/
def Part.all : List Part :=
  [.eventType, .record .status, .record .trackingId, .record .registeredAt, .record .registeredAtLocation,
    .record .registrationNumber, .record .createdAt, .record .updatedAt, .record .createdAtLocation,
    .record .updatedAtLocation, .data]

theorem Part.nodup_all : all.Nodup := by
  decide

theorem Part.filter_eq_all (part : Part) : all.filter (fun other => other = part) = [part] := by
  cases part with
  | eventType => decide
  | record field => cases field <;> decide
  | data => decide

theorem Part.filter_ne_all {before after : List Part} {part : Part} (h : all = before ++ part :: after) :
    all.filter (fun other => other ≠ part) = before ++ after := by
  have hnodup : (before ++ part :: after).Nodup := h ▸ nodup_all
  obtain ⟨hpart, -⟩ := List.nodup_cons.1 (List.perm_middle.nodup_iff.1 hnodup)
  have hothers : (before ++ after).filter (fun other => other ≠ part) = before ++ after := by
    rw [List.filter_eq_self]
    intro other hother
    exact decide_eq_true fun heq => hpart (heq ▸ hother)
  rw [h, List.filter_append, List.filter_cons_of_neg (by simp), ← List.filter_append, hothers]

/-- The clause with some of its parts only. -/
def keeping (clause : Clause) (keep : Part → Bool) : Clause :=
  ofCriteria (if keep .eventType then clause.eventType else none)
    (fun field => if keep (.record field) then clause.criterion field else none)
    (if keep .data then clause.data else none)

/-- The clause with one of its parts only. -/
def only (clause : Clause) (part : Part) : Clause := clause.keeping fun other => other = part

/-- The clause with all of its parts but one. -/
def without (clause : Clause) (part : Part) : Clause := clause.keeping fun other => other ≠ part

example (clause : Clause) :
    clause.only (.record .status) = { status := clause.status }
      ∧ clause.without .data = { clause with data := none } :=
  ⟨rfl, rfl⟩

variable {clause : Clause}

theorem criterion_keeping (clause : Clause) (keep : Part → Bool) (field : RecordField) :
    (clause.keeping keep).criterion field = if keep (.record field) then clause.criterion field else none := by
  rw [keeping, criterion_ofCriteria]

theorem honoured_keeping (clause : Clause) (keep : Part → Bool) (field : RecordField) :
    (clause.keeping keep).honoured field = if keep (.record field) then clause.honoured field else none := by
  unfold honoured
  rw [criterion_keeping]
  cases keep (.record field) with
  | false => cases field.role <;> rfl
  | true => rfl

theorem Declared.keeping (h : clause.Declared) (keep : Part → Bool) : (clause.keeping keep).Declared where
  record field criterion hcriterion := by
    rw [criterion_keeping, Option.ite_none_right_eq_some] at hcriterion
    exact h.record field criterion hcriterion.2
  data data hdata := by
    have hkept : (if keep .data then clause.data else none) = some data := hdata
    rw [Option.ite_none_right_eq_some] at hkept
    exact h.data data hkept.2

/-! ### The conditions of a part -/

section

variable (compiler : Compiler) (names : List String)

/-- The conditions of one part. -/
def partConditions (clause : Clause) : Part → List Condition
  | .eventType => clause.eventConditions
  | .record field => (clause.recordCondition? compiler field).toList
  | .data => (clause.data.getD []).filterMap (compiler.entryCondition? names)

theorem conditions_eq_flatMap (clause : Clause) :
    clause.conditions compiler names = Part.all.flatMap (clause.partConditions compiler names) := by
  have hall : Part.all = .eventType :: (RecordField.all.map .record ++ [.data]) := rfl
  rw [hall, List.flatMap_cons, List.flatMap_append, List.flatMap_map, List.flatMap_singleton, ← List.append_assoc,
    conditions, List.filterMap_eq_flatMap_toList]
  rfl

theorem partConditions_keeping (clause : Clause) (keep : Part → Bool) (part : Part) :
    (clause.keeping keep).partConditions compiler names part
      = if keep part then clause.partConditions compiler names part else [] := by
  cases part with
  | eventType =>
      change (clause.keeping keep).eventConditions = if keep .eventType then clause.eventConditions else []
      unfold eventConditions keeping ofCriteria
      cases keep .eventType <;> rfl
  | record field =>
      change ((clause.keeping keep).recordCondition? compiler field).toList
        = if keep (.record field) then (clause.recordCondition? compiler field).toList else []
      rw [recordCondition?, honoured_keeping]
      cases keep (.record field) <;> rfl
  | data =>
      unfold partConditions keeping ofCriteria
      cases keep .data <;> rfl

/-- Whatever parts are kept, their conditions are those that they have in the whole clause. -/
theorem conditions_keeping (clause : Clause) (keep : Part → Bool) :
    (clause.keeping keep).conditions compiler names
      = (Part.all.filter keep).flatMap (clause.partConditions compiler names) := by
  rw [conditions_eq_flatMap]
  -- Part by part: what a part has in the clause that is kept does not depend on the other parts.
  induction Part.all with
  | nil => rfl
  | cons part parts ih =>
      rw [List.flatMap_cons, partConditions_keeping, ih, List.filter_cons]
      cases keep part <;> rfl

theorem conditions_only (clause : Clause) (part : Part) :
    (clause.only part).conditions compiler names = clause.partConditions compiler names part := by
  rw [only, conditions_keeping, Part.filter_eq_all, List.flatMap_singleton]

theorem conditions_without (clause : Clause) {before after : List Part} {part : Part}
    (h : Part.all = before ++ part :: after) :
    (clause.without part).conditions compiler names
      = before.flatMap (clause.partConditions compiler names)
        ++ after.flatMap (clause.partConditions compiler names) := by
  rw [without, conditions_keeping, Part.filter_ne_all h, List.flatMap_append]

end

end Clause

/-! ### Entries of the declaration fields -/

namespace Compiler

variable (compiler : Compiler) (names : List String)

/-- The condition of an entry for a declaration field, if its criterion is one that such a field can be searched with. -/
def entryCondition (entry : String × Criterion) : Condition :=
  (compiler.entryCondition? names entry).getD default

variable {entry : String × Criterion} {entries : List (String × Criterion)}

theorem entryCondition?_eq_some (h : entry.2.IsOneOf Variant.field) :
    compiler.entryCondition? names entry = some (compiler.entryCondition names entry) := by
  obtain ⟨condition, -, hcondition⟩ := compiler.exists_entryCondition names h
  rw [entryCondition, hcondition, Option.getD_some]

theorem directField_eq_ok (h : entry.2.IsOneOf Variant.field) :
    compiler.directField names entry = .ok (compiler.entryCondition names entry) := by
  obtain ⟨condition, hdirect, hcondition⟩ := compiler.exists_entryCondition names h
  rw [hdirect, entryCondition, hcondition, Option.getD_some]

theorem filterMap_entryCondition? (h : ∀ entry ∈ entries, entry.2.IsOneOf Variant.field) :
    entries.filterMap (compiler.entryCondition? names) = entries.map (compiler.entryCondition names) := by
  rw [← List.filterMap_eq_map]
  apply List.filterMap_congr
  intro entry hentry
  exact compiler.entryCondition?_eq_some names (h entry hentry)

/-- Entries of declared variants are compiled without a look at the memo and without an entry in the log. -/
theorem compileFields_eq_pure (h : ∀ entry ∈ entries, entry.2.IsOneOf Variant.field) :
    compiler.compileFields names entries = pure (entries.map (compiler.entryCondition names)) := by
  induction entries with
  | nil => rfl
  | cons entry entries ih =>
      obtain ⟨hentry, hentries⟩ := List.forall_mem_cons.1 h
      have hfirst : compiler.compileField entry.1 entry.2 (names.contains entry.1)
          = pure (compiler.entryCondition names entry) := by
        rw [compileField, mapError_eq_ok.1 (compiler.directField_eq_ok names hentry)]
      rw [compileFields, hfirst, ih hentries]
      rfl

end Compiler

/-! ### What a compilation leaves behind -/

namespace Compilation

/-- Whatever the two compilations come to, from any memo they leave the same memo and the same log. -/
def SameTrace (c : Compilation α) (d : Compilation β) : Prop :=
  ∀ memo, (c.run memo).memo = (d.run memo).memo ∧ (c.run memo).log = (d.run memo).log

theorem SameTrace.bind {c : Compilation α} {next : α → Compilation β} {other : α → Compilation γ}
    (h : ∀ value, (next value).SameTrace (other value)) : (c >>= next).SameTrace (c >>= other) := by
  intro memo
  rw [run_bind, run_bind, Outcome.andThen, Outcome.andThen]
  cases (c.run memo).result with
  | error failure => exact ⟨rfl, rfl⟩
  | ok value =>
      obtain ⟨hmemo, hlog⟩ := h value (c.run memo).memo
      exact ⟨hmemo, congrArg _ hlog⟩

theorem sameTrace_map (c : Compilation α) (f : α → β) : (c >>= fun value => pure (f value)).SameTrace c := by
  intro memo
  rw [run_bind, Outcome.andThen]
  cases (c.run memo).result with
  | error failure => exact ⟨rfl, rfl⟩
  | ok value => exact ⟨rfl, List.append_nil _⟩

theorem SameTrace.map {c : Compilation α} {d : Compilation β} (h : c.SameTrace d) (f : α → γ) (g : β → δ) :
    (c >>= fun value => pure (f value)).SameTrace (d >>= fun value => pure (g value)) := by
  intro memo
  obtain ⟨hmemo, hlog⟩ := h memo
  obtain ⟨hmemoFirst, hlogFirst⟩ := sameTrace_map c f memo
  obtain ⟨hmemoSecond, hlogSecond⟩ := sameTrace_map d g memo
  exact ⟨by rw [hmemoFirst, hmemo, hmemoSecond], by rw [hlogFirst, hlog, hlogSecond]⟩

end Compilation

/-! ### Whole clauses -/

namespace Compiler

variable (compiler : Compiler) (catalog : Catalog)

/-- The conditions of a clause, gathered from its parts whether or not there are any. -/
def compileParts (clause : Clause) : Compilation (List Condition) := do
  let record ← clause.compileRecord RecordField.all
  let data ← compiler.compileDataMember catalog clause.data
  return clause.eventConditions ++ record ++ data

/-- Whatever the memo was asked before, the clause is compiled to these conditions. -/
def CompilesTo (clause : Clause) (conditions : List Condition) : Prop :=
  ∀ earlier : List (List Event),
    ((compiler.compileClause catalog clause).run (Memo.asked compiler.lookup earlier)).result = .ok conditions

end Compiler

namespace Clause

variable {clause : Clause} {compiler : Compiler} {catalog : Catalog}

theorem compileRecord_of_none (h : ∀ field, clause.criterion field = none) (fields : List RecordField) :
    clause.compileRecord fields = pure [] := by
  induction fields with
  | nil => rfl
  | cons field fields ih =>
      rw [compileRecord, compileMember, h field, ih]
      rfl

/-- Passing over a clause that searches on nothing comes to what gathering its parts comes to. -/
theorem compileClause_agrees (compiler : Compiler) (catalog : Catalog) (clause : Clause) (memo : Memo) :
    ((compiler.compileClause catalog clause).run memo).result
        = ((compiler.compileParts catalog clause).run memo).result
      ∧ ((compiler.compileClause catalog clause).run memo).memo
        = ((compiler.compileParts catalog clause).run memo).memo := by
  unfold Compiler.compileClause
  split
  · rename_i hempty
    obtain ⟨hevent, hrecord, hdata⟩ := isEmpty_iff.1 hempty
    rw [Compiler.compileParts, compileRecord_of_none hrecord, hdata, eventConditions, hevent]
    exact ⟨rfl, rfl⟩
  · exact ⟨rfl, rfl⟩

theorem Declared.compilesTo (h : clause.Declared) :
    compiler.CompilesTo catalog clause (clause.conditions compiler (nameFieldIds compiler.lookup catalog.events)) :=
  h.compileClause_result compiler catalog

theorem Declared.compilesTo_flatMap (h : clause.Declared) :
    compiler.CompilesTo catalog clause
      (Part.all.flatMap (clause.partConditions compiler (nameFieldIds compiler.lookup catalog.events))) := by
  rw [← conditions_eq_flatMap]
  exact h.compilesTo

theorem Declared.compilesTo_only (h : clause.Declared) (part : Part) :
    compiler.CompilesTo catalog (clause.only part)
      (clause.partConditions compiler (nameFieldIds compiler.lookup catalog.events) part) := by
  rw [← conditions_only]
  exact (h.keeping _).compilesTo

theorem Declared.compilesTo_without (h : clause.Declared) {before after : List Part} {part : Part}
    (hall : Part.all = before ++ part :: after) :
    let leaves := clause.partConditions compiler (nameFieldIds compiler.lookup catalog.events)
    compiler.CompilesTo catalog (clause.without part) (before.flatMap leaves ++ after.flatMap leaves) := by
  intro leaves
  rw [← clause.conditions_without compiler _ hall]
  exact (h.keeping _).compilesTo

/-! ### Another order of the entries -/

variable {entries others : List (String × Criterion)}

theorem Declared.with_data (h : clause.Declared) (hentries : ∀ entry ∈ entries, entry.2.IsOneOf Variant.field) :
    { clause with data := some entries }.Declared where
  record field criterion hcriterion := by
    rw [criterion_with_data] at hcriterion
    exact h.record field criterion hcriterion
  data data hdata := by
    cases hdata
    exact hentries

theorem compileRecord_with_data (clause : Clause) (data : Option (List (String × Criterion)))
    (fields : List RecordField) :
    { clause with data }.compileRecord fields = clause.compileRecord fields := by
  induction fields with
  | nil => rfl
  | cons field fields ih => rw [compileRecord, compileRecord, ih, compileMember, compileMember, criterion_with_data]

theorem compileClause_with_data (clause : Clause) (compiler : Compiler) (catalog : Catalog)
    (entries : List (String × Criterion)) :
    compiler.compileClause catalog { clause with data := some entries }
      = clause.compileRecord RecordField.all >>= fun record =>
          compiler.compileData catalog entries >>= fun data => pure (clause.eventConditions ++ record ++ data) := by
  have hempty : ¬ { clause with data := some entries }.isEmpty = true := by simp [isEmpty]
  rw [Compiler.compileClause, if_neg hempty, compileRecord_with_data]
  rfl

/-- The entries have no part in what a clause leaves behind, since none of them fails and the name fields are asked for before them. -/
theorem sameTrace_compileClause (clause : Clause) (compiler : Compiler) (catalog : Catalog)
    (hentries : ∀ entry ∈ entries, entry.2.IsOneOf Variant.field)
    (hothers : ∀ entry ∈ others, entry.2.IsOneOf Variant.field) :
    (compiler.compileClause catalog { clause with data := some entries }).SameTrace
      (compiler.compileClause catalog { clause with data := some others }) := by
  have hdata : (compiler.compileData catalog entries).SameTrace (compiler.compileData catalog others) := by
    refine .bind fun names => ?_
    rw [compiler.compileFields_eq_pure names hentries, compiler.compileFields_eq_pure names hothers]
    exact fun memo => ⟨rfl, rfl⟩
  -- The record fields come before the entries, so they end alike and leave the same behind.
  rw [compileClause_with_data, compileClause_with_data]
  exact .bind fun record => hdata.map _ _

theorem recordCondition?_with_data (clause : Clause) (compiler : Compiler) (data : Option (List (String × Criterion))) :
    { clause with data }.recordCondition? compiler = clause.recordCondition? compiler := by
  funext field
  unfold recordCondition? honoured
  rw [criterion_with_data]

/-- The conditions besides those on declaration fields stay, and the entries have theirs in their order. -/
theorem conditions_with_data (clause : Clause) (compiler : Compiler) (names : List String)
    (hentries : ∀ entry ∈ entries, entry.2.IsOneOf Variant.field) :
    { clause with data := some entries }.conditions compiler names
      = (clause.without .data).conditions compiler names ++ entries.map (compiler.entryCondition names) := by
  have hwithout : clause.without .data = { clause with data := none } := rfl
  rw [hwithout, ← compiler.filterMap_entryCondition? names hentries, conditions, conditions, recordCondition?_with_data,
    recordCondition?_with_data, Option.getD_none, List.filterMap_nil, List.append_nil]
  rfl

theorem Declared.compilesTo_with_data (h : clause.Declared)
    (hentries : ∀ entry ∈ entries, entry.2.IsOneOf Variant.field) :
    let names := nameFieldIds compiler.lookup catalog.events
    compiler.CompilesTo catalog { clause with data := some entries }
      ((clause.without .data).conditions compiler names ++ entries.map (compiler.entryCondition names)) := by
  intro names
  rw [← clause.conditions_with_data compiler names hentries]
  exact (h.with_data hentries).compilesTo

end Clause

/-- The conditions of a clause are those of its parts, each compiled alone, one part after the other. So a part that is added to a clause, or taken away, has its own conditions inserted or removed and changes no others. Declaration fields in another order have the same conditions in that order, each what it is for a clause with this entry alone; the other conditions, the memo and the log stay as they are. Passing over a clause without any part comes to the same as gathering the conditions of its parts. -/
theorem Clause.compiles_by_parts (compiler : Compiler) (catalog : Catalog) (clause : Clause) (h : clause.Declared) :
    (∃ leaves : Part → List Condition,
      (∀ part, compiler.CompilesTo catalog (clause.only part) (leaves part))
        ∧ compiler.CompilesTo catalog clause (Part.all.flatMap leaves)
        ∧ ∀ before part after, Part.all = before ++ part :: after →
          compiler.CompilesTo catalog (clause.without part) (before.flatMap leaves ++ after.flatMap leaves)
            ∧ compiler.CompilesTo catalog clause (before.flatMap leaves ++ leaves part ++ after.flatMap leaves))
      ∧ (∀ entries, clause.data = some entries → ∃ (others : List Condition) (leaf : String × Criterion → Condition),
        compiler.CompilesTo catalog (clause.without .data) others
          ∧ (∀ entry ∈ entries, compiler.CompilesTo catalog { data := some [entry] } [leaf entry])
          ∧ ∀ reordered, reordered.Perm entries →
            compiler.CompilesTo catalog { clause with data := some reordered } (others ++ reordered.map leaf)
              ∧ (compiler.compileClause catalog { clause with data := some reordered }).SameTrace
                (compiler.compileClause catalog clause))
      ∧ ∀ memo,
        ((compiler.compileClause catalog clause).run memo).result = ((compiler.compileParts catalog clause).run memo).result
          ∧ ((compiler.compileClause catalog clause).run memo).memo
            = ((compiler.compileParts catalog clause).run memo).memo := by
  refine ⟨⟨_, h.compilesTo_only, h.compilesTo_flatMap, fun before part after hall => ⟨h.compilesTo_without hall, ?_⟩⟩,
    fun entries hdata => ?_, clause.compileClause_agrees compiler catalog⟩
  · have hwhole : compiler.CompilesTo catalog clause _ := h.compilesTo_flatMap
    rw [hall, List.flatMap_append, List.flatMap_cons, ← List.append_assoc] at hwhole
    exact hwhole
  · have hentries := h.data entries hdata
    have hclause : { clause with data := some entries } = clause := by rw [← hdata]
    have hempty : ({} : Clause).Declared := by decide
    refine ⟨_, compiler.entryCondition (nameFieldIds compiler.lookup catalog.events), (h.keeping _).compilesTo,
      fun entry hentry => ?_, fun reordered hperm => ?_⟩
    · exact hempty.compilesTo_with_data (List.forall_mem_singleton.2 (hentries entry hentry))
    · have hreordered : ∀ entry ∈ reordered, entry.2.IsOneOf Variant.field :=
        fun entry hentry => hentries entry (hperm.mem_iff.1 hentry)
      have htrace := clause.sameTrace_compileClause compiler catalog hreordered hentries
      rw [hclause] at htrace
      exact ⟨h.compilesTo_with_data hreordered, htrace⟩

/-- A clause with a registration location that is passed over, two places and a field that is a name. -/
def informantClause : Clause where
  eventType := some "birth"
  registeredAtLocation := some (.within "1,9")
  createdAtLocation := some (.exact "Ibombo")
  updatedAtLocation := some (.within "1,9")
  data := some [("informant.name", .fuzzy "Bo"), ("child.dob", .range "2020-01-01" "2020-12-31")]

theorem Clause.compiles_by_parts_informantClause :
    informantClause.Declared
      ∧ ∃ leaves : Part → List Condition,
        Compiler.CompilesTo {} .redeclaring informantClause (Part.all.flatMap leaves)
          ∧ leaves (.record .registeredAtLocation) = []
          ∧ ∃ (others : List Condition) (leaf : String × Criterion → Condition),
            Compiler.CompilesTo {} .redeclaring
              { informantClause with
                data := some [("child.dob", .range "2020-01-01" "2020-12-31"), ("informant.name", .fuzzy "Bo")] }
              (others ++ [leaf ("child.dob", .range "2020-01-01" "2020-12-31"), leaf ("informant.name", .fuzzy "Bo")])
            ∧ leaf ("informant.name", .fuzzy "Bo") = .resembles "declaration.informant____name.__fullname" "Bo" "AUTO" := by
  have hdeclared : informantClause.Declared := by decide
  obtain ⟨⟨leaves, halone, hwhole, -⟩, hentries, -⟩ := informantClause.compiles_by_parts {} .redeclaring hdeclared
  obtain ⟨others, leaf, -, hleaf, hreordered⟩ := hentries _ rfl
  have hignored : ((Compiler.compileClause {} .redeclaring (informantClause.only (.record .registeredAtLocation))).run
      Memo.empty).result = .ok [] := by decide +kernel
  have hname : ((Compiler.compileClause {} .redeclaring { data := some [("informant.name", .fuzzy "Bo")] }).run
      Memo.empty).result = .ok [.resembles "declaration.informant____name.__fullname" "Bo" "AUTO"] := by decide +kernel
  have hfirst := Except.ok.inj ((halone (.record .registeredAtLocation) []).symm.trans hignored)
  have hsecond := Except.ok.inj ((hleaf _ List.mem_cons_self []).symm.trans hname)
  exact ⟨hdeclared, leaves, hwhole, hfirst, others, leaf, (hreordered _ (.swap ..)).1, (List.cons.inj hsecond).1⟩

end RegistrySearch
