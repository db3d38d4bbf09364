import RegistrySearch.Proofs.Catalog.NameFields

/-!
# The unique fields of an event

An event may declare an id many times. Its unique fields are what one pass over its fields keeps, which remembers the ids that it has seen and passes over a field whose id is among them. The invariant of the pass says two things of the fields visited so far: the ids seen are theirs, and the fields kept are the ones whose id no earlier field has (`FieldPass.Visited`). The first half decides whether the next field is kept, the second says what keeping it does.

So no two unique fields have one id, no id is lost, the order stays, and each id has its first declaration (`Event.uniqueFields_keep_first`). For the name fields this is a choice: looking at all fields finds every id that is a name somewhere in the event, and looking at the unique ones only those that are one at first.
-/

namespace RegistrySearch

section

variable {α β : Type} [DecidableEq β] (key : α → β)

theorem distinctBy_sublist (xs : List α) : (distinctBy key xs).Sublist xs := by
  induction xs with
  | nil => exact .slnil
  | cons x xs ih => exact (List.filter_sublist.trans ih).cons_cons x

/-- Leaving out repetitions loses no key. -/
theorem mem_map_distinctBy {k : β} {xs : List α} : k ∈ (distinctBy key xs).map key ↔ k ∈ xs.map key := by
  have hkeys : distinctBy id (xs.map key) = (distinctBy key xs).map key := distinctBy_map id key xs
  rw [← hkeys, mem_distinctBy_id]

/-- Of what comes later, only what has a new key is left. -/
theorem distinctBy_append (xs ys : List α) :
    distinctBy key (xs ++ ys) = distinctBy key xs ++ (distinctBy key ys).filter fun y => key y ∉ xs.map key := by
  induction xs with
  | nil => exact (List.filter_eq_self.2 fun y _ => decide_eq_true List.not_mem_nil).symm
  | cons x xs ih =>
      rw [List.cons_append, distinctBy, distinctBy, ih, List.filter_append, List.filter_filter, List.cons_append]
      simp [not_or]

variable {key} {xs : List α} {x : α}

theorem distinctBy_concat_of_mem (h : key x ∈ xs.map key) : distinctBy key (xs ++ [x]) = distinctBy key xs := by
  rw [distinctBy_append, List.append_right_eq_self, List.filter_eq_nil_iff]
  simpa [distinctBy] using h

theorem distinctBy_concat_of_not_mem (h : key x ∉ xs.map key) :
    distinctBy key (xs ++ [x]) = distinctBy key xs ++ [x] := by
  rw [distinctBy_append, List.append_cancel_left_eq, List.filter_eq_self.2]
  · rfl
  · simpa [distinctBy] using h

end

/-! ### One pass over the fields -/

/-- What a pass over fields has come to: the ids that it has seen and the fields that it has kept. -/
structure FieldPass where
  seen : List String := []
  kept : List Field := []

namespace FieldPass

/-- Looks at one more field, which is kept unless its id was seen before. -/
def visit (pass : FieldPass) (field : Field) : FieldPass :=
  if field.id ∈ pass.seen then pass
  else { seen := field.id :: pass.seen, kept := pass.kept ++ [field] }

/-- The pass has come to this by visiting the fields. -/
structure Visited (pass : FieldPass) (fields : List Field) : Prop where
  seen_iff : ∀ id, id ∈ pass.seen ↔ id ∈ fields.map Field.id
  kept_eq : pass.kept = distinctBy Field.id fields

variable {pass : FieldPass} {fields : List Field}

theorem visited_nil : Visited {} [] where
  seen_iff _ := Iff.rfl
  kept_eq := rfl

theorem Visited.visit (h : pass.Visited fields) (field : Field) : (pass.visit field).Visited (fields ++ [field]) := by
  unfold FieldPass.visit
  by_cases hseen : field.id ∈ pass.seen
  · have hfields := (h.seen_iff field.id).1 hseen
    rw [if_pos hseen]
    exact {
      seen_iff id := by
        rw [h.seen_iff, List.map_append, List.map_singleton, List.mem_append, List.mem_singleton]
        exact (or_iff_left_of_imp fun hid => hid ▸ hfields).symm
      kept_eq := by rw [distinctBy_concat_of_mem hfields, h.kept_eq] }
  · have hfields := mt (h.seen_iff field.id).2 hseen
    rw [if_neg hseen]
    exact {
      seen_iff id := by
        rw [List.mem_cons, h.seen_iff, List.map_append, List.map_singleton, List.mem_append, List.mem_singleton, or_comm]
      kept_eq := by rw [distinctBy_concat_of_not_mem hfields, h.kept_eq] }

theorem visited_foldl (fields : List Field) : (fields.foldl FieldPass.visit {}).Visited fields := by
  suffices h : ∀ (pass : FieldPass) (before : List Field), pass.Visited before →
      (fields.foldl FieldPass.visit pass).Visited (before ++ fields) from h {} [] visited_nil
  -- The induction is on the fields that are still to come, with those visited before them growing at the end.
  induction fields with
  | nil =>
      intro pass before h
      rwa [List.append_nil]
  | cons field fields ih =>
      intro pass before h
      have hnext := ih (pass.visit field) (before ++ [field]) (h.visit field)
      rwa [List.append_assoc] at hnext

end FieldPass

/-! ### Names that are found -/

namespace Event

variable {event : Event} {id : String}

/-- Some declaration of the id in the event is that of a name. -/
def DeclaresName (event : Event) (id : String) : Prop :=
  ∃ field ∈ event.fields, field.id = id ∧ (field.kind = .known .name ∨ field.kind = .named "NAME")

/-- The first declaration of the id in the event is that of a name. -/
def FirstDeclaresName (event : Event) (id : String) : Prop :=
  ∃ field, event.DeclaresFirst field ∧ field.id = id ∧ (field.kind = .known .name ∨ field.kind = .named "NAME")

theorem mem_nameFieldIds_fields : id ∈ nameFieldIds Event.fields [event] ↔ event.DeclaresName id := by
  simp only [mem_nameFieldIds, List.mem_singleton, exists_eq_left, FieldKind.isName_iff, DeclaresName]

theorem mem_nameFieldIds_unique : id ∈ nameFieldIds Event.uniqueFields [event] ↔ event.FirstDeclaresName id := by
  simp only [mem_nameFieldIds, List.mem_singleton, exists_eq_left, FieldKind.isName_iff, mem_uniqueFields,
    FirstDeclaresName]

theorem FirstDeclaresName.declaresName (h : event.FirstDeclaresName id) : event.DeclaresName id := by
  obtain ⟨field, hfirst, hid, hname⟩ := h
  exact ⟨field, (distinctBy_sublist Field.id event.fields).subset (mem_uniqueFields.2 hfirst), hid, hname⟩

/-- The unique fields of an event are those that one pass over its fields keeps. No two of them have one id, they have all ids of the event, they stand in the order of the pages and then of the actions, and each of them is the first declaration of its id. A name that is found among them is found among all fields; both find the same names exactly if every id that is declared as a name anywhere in the event is one in its first declaration. -/
theorem uniqueFields_keep_first (event : Event) :
    event.uniqueFields = (event.fields.foldl FieldPass.visit {}).kept
      ∧ (event.uniqueFields.map Field.id).Nodup
      ∧ (∀ id, id ∈ event.uniqueFields.map Field.id ↔ id ∈ event.fields.map Field.id)
      ∧ event.uniqueFields.Sublist (event.pages.flatMap Page.fields ++ event.actions.flatMap Action.fields)
      ∧ (∀ field, field ∈ event.uniqueFields ↔ event.DeclaresFirst field)
      ∧ nameFieldIds Event.uniqueFields [event] ⊆ nameFieldIds Event.fields [event]
      ∧ ((∀ id, id ∈ nameFieldIds Event.uniqueFields [event] ↔ id ∈ nameFieldIds Event.fields [event])
        ↔ ∀ id, event.DeclaresName id → event.FirstDeclaresName id) := by
  have hsubset : nameFieldIds Event.uniqueFields [event] ⊆ nameFieldIds Event.fields [event] := by
    intro id hid
    exact mem_nameFieldIds_fields.2 (mem_nameFieldIds_unique.1 hid).declaresName
  refine ⟨(FieldPass.visited_foldl event.fields).kept_eq.symm, nodup_map_distinctBy Field.id event.fields,
    fun id => mem_map_distinctBy Field.id, distinctBy_sublist Field.id event.fields, fun field => mem_uniqueFields,
    hsubset, ?_⟩
  constructor
  · intro h id hdeclared
    exact mem_nameFieldIds_unique.1 ((h id).2 (mem_nameFieldIds_fields.2 hdeclared))
  · intro h id
    exact ⟨fun hid => hsubset hid, fun hid => mem_nameFieldIds_unique.2 (h id (mem_nameFieldIds_fields.1 hid))⟩

/-- An id that is a text on the page and a name with the action is a name among all fields only. -/
example :
    let event : Event :=
      { id := "birth"
        pages := [{ id := "child", fields := [{ id := "child.name", kind := .known .text }] }]
        actions := [{ type := "REGISTER", fields := [{ id := "child.name", kind := .known .name }] }] }
    nameFieldIds Event.fields [event] = ["child.name"] ∧ nameFieldIds Event.uniqueFields [event] = [] := by
  decide

end Event

end RegistrySearch
