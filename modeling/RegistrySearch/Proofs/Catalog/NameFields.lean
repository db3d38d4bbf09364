import RegistrySearch.Catalog.NameFields

/-!
# Which ids are name fields

The list of the name fields of some events is made by collecting ids and leaving out repetitions. An id is in it exactly if some event has, among the fields that are looked at, a field of this id that holds a name.

The fields that are usually looked at are those whose id no earlier field of the event has. So an id is a name field exactly if its first declaration in some event has the type of names (`mem_nameFieldIds_uniqueFields`). What an event declares of it later does not count, nor do the first declarations in other events.
-/

namespace RegistrySearch

theorem mem_distinctBy_id {α : Type} [DecidableEq α] {x : α} {xs : List α} :
    x ∈ distinctBy id xs ↔ x ∈ xs := by
  induction xs with
  | nil => exact Iff.rfl
  | cons y xs ih =>
      rw [distinctBy, List.mem_cons, List.mem_filter, List.mem_cons, ih]
      by_cases h : x = y
      · simp [h]
      · simp [h]

/-- What is left of a list are the elements whose key no earlier element has. -/
theorem mem_distinctBy_iff {α β : Type} [DecidableEq β] {key : α → β} {x : α} {xs : List α} :
    x ∈ distinctBy key xs ↔ ∃ before after, xs = before ++ x :: after ∧ ∀ y ∈ before, key y ≠ key x := by
  induction xs with
  | nil => simp [distinctBy]
  | cons first xs ih =>
      rw [distinctBy, List.mem_cons, List.mem_filter, ih, decide_eq_true_iff]
      constructor
      · intro h
        rcases h with rfl | ⟨⟨before, after, rfl, hbefore⟩, hfirst⟩
        · exact ⟨[], xs, rfl, fun y hy => absurd hy List.not_mem_nil⟩
        · exact ⟨first :: before, after, rfl, List.forall_mem_cons.2 ⟨hfirst.symm, hbefore⟩⟩
      · intro h
        obtain ⟨before, after, hxs, hbefore⟩ := h
        cases before with
        | nil =>
            rw [List.nil_append, List.cons.injEq] at hxs
            exact .inl hxs.1.symm
        | cons y before =>
            rw [List.cons_append, List.cons.injEq] at hxs
            obtain ⟨rfl, rfl⟩ := hxs
            obtain ⟨hfirst, hbefore⟩ := List.forall_mem_cons.1 hbefore
            exact .inr ⟨⟨before, after, rfl, hbefore⟩, hfirst.symm⟩

/-- No two elements that are left have one key. -/
theorem nodup_map_distinctBy {α β : Type} [DecidableEq β] (key : α → β) (xs : List α) :
    ((distinctBy key xs).map key).Nodup := by
  induction xs with
  | nil => exact List.nodup_nil
  | cons x xs ih =>
      have hsub : (((distinctBy key xs).filter fun y => key y ≠ key x).map key).Sublist ((distinctBy key xs).map key) :=
        List.filter_sublist.map key
      rw [distinctBy, List.map_cons, List.nodup_cons]
      refine ⟨fun hmem => ?_, hsub.nodup ih⟩
      obtain ⟨y, hy, hkey⟩ := List.mem_map.1 hmem
      exact of_decide_eq_true (List.mem_filter.1 hy).2 hkey

theorem distinctBy_map {α β γ : Type} [DecidableEq γ] (key : β → γ) (f : α → β) (xs : List α) :
    distinctBy key (xs.map f) = (distinctBy (key ∘ f) xs).map f := by
  induction xs with
  | nil => rfl
  | cons x xs ih =>
      rw [List.map_cons, distinctBy, distinctBy, ih, List.map_cons, List.filter_map]
      rfl

theorem mem_nameFieldIds {lookup : FieldLookup} {events : List Event} {id : String} :
    id ∈ nameFieldIds lookup events
      ↔ ∃ event ∈ events, ∃ field ∈ lookup event, field.id = id ∧ field.kind.isName = true := by
  rw [nameFieldIds, mem_distinctBy_id]
  constructor
  · intro h
    obtain ⟨field, hfield, hid⟩ := List.mem_map.1 h
    obtain ⟨hfield, hname⟩ := List.mem_filter.1 hfield
    obtain ⟨event, hevent, hfield⟩ := List.mem_flatMap.1 hfield
    exact ⟨event, hevent, field, hfield, hid, hname⟩
  · intro h
    obtain ⟨event, hevent, field, hfield, hid, hname⟩ := h
    refine List.mem_map.2 ⟨field, List.mem_filter.2 ⟨?_, hname⟩, hid⟩
    exact List.mem_flatMap.2 ⟨event, hevent, hfield⟩

/-! ### First declarations -/

/-- The field is declared by the event, on a page or else with an action, and no field before it has its id. -/
def Event.DeclaresFirst (event : Event) (field : Field) : Prop :=
  ∃ before after, event.pages.flatMap Page.fields ++ event.actions.flatMap Action.fields = before ++ field :: after
    ∧ ∀ earlier ∈ before, earlier.id ≠ field.id

theorem Event.mem_uniqueFields {event : Event} {field : Field} :
    field ∈ event.uniqueFields ↔ event.DeclaresFirst field :=
  mem_distinctBy_iff

/-- The first declaration of the id in some event is that of a name, by a known type or by the bare name of it. -/
def Catalog.FirstDeclaresName (catalog : Catalog) (id : String) : Prop :=
  ∃ event ∈ catalog.events, ∃ field, event.DeclaresFirst field ∧ field.id = id
    ∧ (field.kind = .known .name ∨ field.kind = .named "NAME")

theorem FieldKind.isName_iff {kind : FieldKind} :
    kind.isName = true ↔ kind = .known .name ∨ kind = .named "NAME" := by
  cases kind with
  | known type => simp [isName]
  | named label =>
      rw [isName, decide_eq_true_iff]
      simp [FieldType.label]

theorem mem_nameFieldIds_uniqueFields {catalog : Catalog} {id : String} :
    id ∈ nameFieldIds Event.uniqueFields catalog.events ↔ catalog.FirstDeclaresName id := by
  simp only [mem_nameFieldIds, Event.mem_uniqueFields, FieldKind.isName_iff, Catalog.FirstDeclaresName]

end RegistrySearch
