import RegistrySearch.Proofs.Room
import RegistrySearch.Yaml.Document

/-!
# Documents read with more room

How deep calls can be nested decides whether a document is read at all, but not as what: with more room it has the same value, unless it was too deep before (`Yaml.document_of_le`). So a text means at most one value, whatever the room that it is read with (`Yaml.document_unique`).
-/

namespace RegistrySearch

namespace Yaml

abbrev SteadyReading {σ α : Type} (c : Nesting (StateT σ Outcome) α) : Prop :=
  Steady DocumentFault.tooDeep c

/-! ### Nodes -/

namespace NodeReader

theorem steady_addEmpty : SteadyReading addEmpty :=
  (Steady.lift _).nested

theorem steady_collection {content : NodeReader Content} (h : SteadyReading content) (anchor : Option String)
    (tag : Tag) : SteadyReading (collection anchor tag content) := by
  refine Steady.nested ?_
  refine (Steady.lift _).bind fun id => (Steady.lift _).bind fun _ => (Steady.modify _).bind fun _ => ?_
  exact h.bind fun content => (Steady.modify _).bind fun _ => .pure _

theorem steady_orEmpty {node : NodeReader NodeId} (h : SteadyReading node) (marks : List Token) :
    SteadyReading (orEmpty marks node) :=
  (Steady.lift _).bind fun _ => .ite steady_addEmpty h

theorem steady_valueOf {node : NodeReader NodeId} (h : SteadyReading node) (marks : List Token) :
    SteadyReading (valueOf marks node) :=
  (Steady.lift _).bind fun _ => .ite (steady_orEmpty h marks) steady_addEmpty

theorem steady_opened {content : NodeReader Content} (h : SteadyReading content) (anchor tag : Option String)
    (default : Tag) : SteadyReading (opened anchor tag default content) :=
  (Steady.lift _).bind fun _ => (Steady.lift _).bind fun _ => steady_collection h anchor _

/-- All readers of nodes and of their parts, with so many steps. -/
structure SteadyTo (steps : Nat) : Prop where
  node : ∀ blocks entries, SteadyReading (node blocks entries steps)
  blockItems : SteadyReading (blockItems steps)
  plainItems : SteadyReading (plainItems steps)
  blockEntries : SteadyReading (blockEntries steps)
  flowItems : ∀ first, SteadyReading (flowItems first steps)
  flowEntries : ∀ first, SteadyReading (flowEntries first steps)

variable {steps : Nat}

theorem SteadyTo.node_succ (h : SteadyTo steps) (blocks entries : Bool) :
    SteadyReading (NodeReader.node blocks entries (steps + 1)) := by
  refine Steady.nested ((Steady.lift _).bind fun name => ?_)
  split
  · exact .lift _
  · refine (Steady.lift _).bind fun properties => (Steady.lift _).bind fun token => ?_
    split
    · exact .lift _
    · exact steady_opened ((h.flowItems true).map _) _ _ _
    · exact steady_opened ((h.flowEntries true).map _) _ _ _
    · exact .ite (steady_opened (h.blockItems.map _) _ _ _) (.lift _)
    · exact .ite (steady_opened (h.blockEntries.map _) _ _ _) (.lift _)
    · exact .ite ((Steady.lift _).bind fun _ => steady_collection (h.plainItems.map _) _ _) (.lift _)
    · exact .lift _

theorem SteadyTo.blockItems_succ (h : SteadyTo steps) : SteadyReading (NodeReader.blockItems (steps + 1)) := by
  refine (Steady.lift _).bind fun _ => .ite ?_ ?_
  · exact (steady_orEmpty (h.node _ _) _).bind fun item => h.blockItems.bind fun rest => .pure _
  · exact (Steady.lift _).bind fun _ => .pure _

theorem SteadyTo.plainItems_succ (h : SteadyTo steps) : SteadyReading (NodeReader.plainItems (steps + 1)) := by
  refine (Steady.lift _).bind fun _ => .ite ?_ (.pure _)
  exact (steady_orEmpty (h.node _ _) _).bind fun item => h.plainItems.bind fun rest => .pure _

theorem SteadyTo.blockEntries_succ (h : SteadyTo steps) : SteadyReading (NodeReader.blockEntries (steps + 1)) := by
  refine (Steady.lift _).bind fun _ => .ite ?_ ?_
  · refine (steady_orEmpty (h.node _ _) _).bind fun key => ?_
    exact (steady_valueOf (h.node _ _) _).bind fun value => h.blockEntries.bind fun rest => .pure _
  · exact (Steady.lift _).bind fun _ => .pure _

theorem steady_flowItem {node : NodeReader NodeId} (h : SteadyReading node) : SteadyReading (flowItem node) := by
  refine (Steady.lift _).bind fun _ => .ite ?_ h
  refine Steady.nested (steady_collection ?_ _ _)
  exact (steady_orEmpty h _).bind fun key => (steady_valueOf h _).bind fun value => .pure _

theorem steady_flowEntry {node : NodeReader NodeId} (h : SteadyReading node) : SteadyReading (flowEntry node) := by
  refine (Steady.lift _).bind fun _ => .ite ?_ ?_
  · exact (steady_orEmpty h _).bind fun key => (steady_valueOf h _).bind fun value => .pure _
  · exact h.bind fun key => steady_addEmpty.bind fun value => .pure _

theorem SteadyTo.flowItems_succ (h : SteadyTo steps) (first : Bool) :
    SteadyReading (NodeReader.flowItems first (steps + 1)) := by
  refine (Steady.lift _).bind fun _ => .ite (.pure _) ?_
  exact (steady_flowItem (h.node _ _)).bind fun item => (h.flowItems _).bind fun rest => .pure _

theorem SteadyTo.flowEntries_succ (h : SteadyTo steps) (first : Bool) :
    SteadyReading (NodeReader.flowEntries first (steps + 1)) := by
  refine (Steady.lift _).bind fun _ => .ite (.pure _) ?_
  exact (steady_flowEntry (h.node _ _)).bind fun entry => (h.flowEntries _).bind fun rest => .pure _

theorem steadyTo (steps : Nat) : SteadyTo steps := by
  induction steps with
  | zero => exact ⟨fun _ _ => .throw _, .throw _, .throw _, .throw _, fun _ => .throw _, fun _ => .throw _⟩
  | succ steps ih =>
      exact ⟨ih.node_succ, ih.blockItems_succ, ih.plainItems_succ, ih.blockEntries_succ, ih.flowItems_succ,
        ih.flowEntries_succ⟩

theorem steady_marked {node : NodeReader NodeId} (h : SteadyReading node) (steps : Nat) : SteadyReading (marked node steps) := by
  refine (Steady.lift _).bind fun _ => (Steady.lift _).bind fun token => ?_
  split
  · exact steady_addEmpty
  · exact steady_orEmpty h _

theorem steady_root (steps : Nat) : SteadyReading (root steps) := by
  have hnode := (steadyTo steps).node true false
  refine (Steady.lift _).bind fun token => ?_
  split
  · exact .lift _
  · exact steady_marked hnode steps
  · exact steady_marked hnode steps
  · exact hnode

theorem steady_document (steps : Nat) : SteadyReading (document steps) :=
  (steady_root steps).bind fun _ => (Steady.lift _).bind fun _ => .pure _

end NodeReader

/-! ### Values -/

namespace Valuing

/-- Merging mappings into a mapping, with so many steps. -/
structure SteadyTo (steps : Nat) : Prop where
  flattenFrom : ∀ index merged id, SteadyReading (flattenFrom index merged id steps)
  mergedFrom : ∀ source, SteadyReading (mergedFrom source steps)

variable {steps : Nat}

theorem SteadyTo.flattenFrom_succ (h : SteadyTo steps) (index : Nat) (merged : List (NodeId × NodeId)) (id : NodeId) :
    SteadyReading (Valuing.flattenFrom index merged id (steps + 1)) := by
  refine (Steady.lift _).bind fun source => ?_
  split
  · exact .lift _
  · exact (Steady.lift _).bind fun _ => (h.mergedFrom _).bind fun entries => h.flattenFrom _ _ _

theorem SteadyTo.mergedFrom_succ (h : SteadyTo steps) (source : NodeId) :
    SteadyReading (Valuing.mergedFrom source (steps + 1)) := by
  have hflatten : ∀ id, SteadyReading (inner (Valuing.flattenFrom 0 [] id steps)) :=
    fun id => (h.flattenFrom 0 [] id).nested
  refine (Steady.lift _).bind fun node => ?_
  split
  · exact (hflatten _).bind fun _ => .lift _
  · refine (Steady.mapM (fun item => ?_) _).bind fun groups => .pure _
    exact (Steady.lift _).bind fun _ => (hflatten _).bind fun _ => .lift _
  · exact .throw _

theorem steadyTo (steps : Nat) : SteadyTo steps := by
  induction steps with
  | zero => exact ⟨fun _ _ _ => .throw _, fun _ => .throw _⟩
  | succ steps ih => exact ⟨ih.flattenFrom_succ, ih.mergedFrom_succ⟩

theorem steady_flatten (id : NodeId) : SteadyReading (flatten id) :=
  Steady.get.bind fun _ => (steadyTo _).flattenFrom _ _ _

theorem steady_text (steps : Nat) (id : NodeId) : SteadyReading (text id steps) := by
  induction steps generalizing id with
  | zero => exact .throw _
  | succ steps ih =>
      refine (Steady.lift _).bind fun textOrDefault => ?_
      split
      · exact .pure _
      · exact (ih _).nested

theorem steady_scalar (id : NodeId) (tag : Tag) : SteadyReading (scalar id tag) :=
  .ite (.throw _) (Steady.get.bind fun _ => (steady_text _ id).bind fun _ => .lift _)

theorem steady_value (id : NodeId) : SteadyReading (value id) := by
  refine Steady.get.bind fun _ => ?_
  split
  · exact .pure _
  · refine (Steady.lift _).bind fun node => ?_
    split
    iterate 4 exact .lift _
    exact (steady_scalar id _).bind fun scalar => (Steady.lift _).bind fun _ => .pure _

theorem steady_discard (id : NodeId) : SteadyReading (discard (value id)) :=
  (steady_value id).map fun _ => ()

theorem steady_valueEntries (before : List (Scalar × NodeId)) (entries : List (NodeId × NodeId)) :
    SteadyReading (valueEntries before entries) := by
  induction entries generalizing before with
  | nil => exact .pure _
  | cons entry rest ih =>
      refine (steady_value _).bind fun key => ?_
      split
      · exact (steady_discard _).bind fun _ => ih _
      · exact .throw _

theorem steady_mappingEntries (id : NodeId) : SteadyReading (mappingEntries id) :=
  (Steady.lift _).bind fun _ => (steady_flatten id).bind fun _ => (Steady.lift _).bind fun _ =>
    steady_valueEntries _ _

theorem steady_pair (id : NodeId) : SteadyReading (pair id) := by
  refine (Steady.lift _).bind fun entries => ?_
  split
  · exact (steady_discard _).bind fun _ => (steady_discard _).bind fun _ => .pure _
  · exact .throw _

theorem steady_complete (id : NodeId) : SteadyReading (complete id) := by
  refine (Steady.lift _).bind fun node => ?_
  split
  · exact (Steady.forM steady_discard _).bind fun _ => .lift _
  · exact (Steady.mapM steady_pair _).bind fun _ => .lift _
  · exact (steady_mappingEntries id).bind fun _ => .lift _
  · exact (steady_mappingEntries id).bind fun _ => .lift _
  · exact .throw _

theorem steady_completeAll (steps : Nat) : SteadyReading (completeAll steps) := by
  induction steps with
  | zero => exact .pure _
  | succ steps ih =>
      refine Steady.get.bind fun _ => .ite (.pure _) ?_
      exact (Steady.modify _).bind fun _ => (Steady.forM steady_complete _).bind fun _ => ih

theorem steady_all (graph : Graph) : SteadyReading (all graph) :=
  (steady_discard _).bind fun _ => steady_completeAll _

end Valuing

/-! ### Documents -/

variable {room more depth : Nat} {text : List Char} {value other : ConfigValue}

/-- One outcome is another one, unless it is the failure for lack of room. -/
def SameOrTooDeep {α : Type} (first second : Outcome α) : Prop :=
  first = .error .tooDeep ∨ first = second

theorem SameOrTooDeep.bind {α β : Type} {first second : Outcome α} {next other : α → Outcome β}
    (h : SameOrTooDeep first second) (hnext : ∀ a, SameOrTooDeep (next a) (other a)) :
    SameOrTooDeep (first >>= next) (second >>= other) := by
  rcases h with rfl | rfl
  · exact .inl rfl
  · cases first with
    | error fault => exact .inr rfl
    | ok a => exact hnext a

theorem ofTokens_of_le (h : room ≤ more) (tokens : Tokens) :
    SameOrTooDeep (Graph.ofTokens room tokens) (Graph.ofTokens more tokens) :=
  SameOrTooDeep.bind (NodeReader.steady_document _ h _) fun _ => .inr rfl

theorem value_of_le (h : room ≤ more) (graph : Graph) (depth : Nat) :
    SameOrTooDeep (graph.value room depth) (graph.value more depth) :=
  SameOrTooDeep.bind (Valuing.steady_all graph h _) fun _ => .inr rfl

/-- With more room a text is read as the same, unless it was too deep before. -/
theorem document_of_le (h : room ≤ more) (depth : Nat) (text : List Char) :
    SameOrTooDeep (document room depth text) (document more depth text) := by
  simp only [document]
  split
  · exact (ofTokens_of_le h _).bind fun graph => value_of_le h graph depth
  · exact .inr rfl

/-- With any room a text that means something is read as that, or it is too deep. -/
theorem document_eq_or_tooDeep (h : document room depth text = .ok value) (other : Nat) :
    SameOrTooDeep (document other depth text) (.ok value) := by
  rcases Nat.le_total other room with hle | hle
  · exact h ▸ document_of_le hle depth text
  · rcases document_of_le hle depth text with hdeep | hsame
    · cases h.symm.trans hdeep
    · exact .inr (hsame.symm.trans h)

theorem document_unique (h : document room depth text = .ok value) (hother : document more depth text = .ok other) :
    value = other := by
  rcases document_eq_or_tooDeep h more with hdeep | hsame
  · cases hother.symm.trans hdeep
  · exact Except.ok.inj (hsame.symm.trans hother)

end Yaml

end RegistrySearch
