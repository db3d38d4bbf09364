import RegistrySearch.Catalog.Payload
import RegistrySearch.Proofs.Catalog.Agreement
import RegistrySearch.Proofs.Catalog.Grammar

/-!
# Reading a catalog is the grammar

A decoded array is read as a catalog exactly if each of its elements is a well-formed event, and then as the events that they spell (`Catalog.parse_array_eq_ok_iff`). Each reader of a part is told by the relation between a value and what it spells (`Draft.Reads`); lists and objects keep this. An object is read in two passes, since first every member is checked and then the wanted ones are looked up. The first pass adds nothing: in an object without repeated keys a member that is looked up is the one that was checked, and other members are passed over.
-/

namespace RegistrySearch

namespace FieldType

theorem ofLabel?_label (type : FieldType) : ofLabel? type.label = some type := by
  cases type <;> decide

theorem ofLabel?_eq_some_iff {label : String} {type : FieldType} : ofLabel? label = some type ↔ label = type.label := by
  constructor
  · intro h
    unfold ofLabel? at h
    have hlabel := List.find?_some h
    exact (eq_of_beq hlabel).symm
  · rintro rfl
    exact ofLabel?_label type

end FieldType

namespace Draft

variable {α : Type} {read : Draft → Outcome α} {spells : Json → α → Prop}

/-- The reader takes a value exactly if it spells something, and gives what it spells. -/
def Reads (read : Draft → Outcome α) (spells : Json → α → Prop) : Prop :=
  ∀ v, v.DistinctKeys → ∀ x, read (ofJson v) = .ok x ↔ spells v x

/-! ### Single values -/

theorem reads_asText : Reads asText fun v s => v = .str s := by
  intro v _ s
  cases v <;> simp [ofJson, asText, textFor]

theorem reads_asTextOrNull : Reads asTextOrNull SpellsCaption := by
  intro v _ caption
  cases v <;> cases caption <;> simp [ofJson, asTextOrNull, textFor, SpellsCaption, Json.ofOption]

theorem reads_asFlag : Reads asFlag fun v flag => v = .bool flag := by
  intro v _ flag
  cases v <;> simp [ofJson, asFlag]

theorem reads_asFieldKind :
    Reads asFieldKind fun v kind => ∃ type : FieldType, v = .str type.label ∧ kind = .known type := by
  intro v hd kind
  simp only [asFieldKind, bind_eq_ok, reads_asText v hd]
  constructor
  · intro h
    obtain ⟨label, rfl, hkind⟩ := h
    split at hkind
    · rename_i type htype
      cases hkind
      exact ⟨type, congrArg Json.str (FieldType.ofLabel?_eq_some_iff.1 htype), rfl⟩
    · cases hkind
  · intro h
    obtain ⟨type, rfl, rfl⟩ := h
    refine ⟨type.label, rfl, ?_⟩
    rw [type.ofLabel?_label]
    rfl

/-- A part that the model does not know is passed over, whatever it is. -/
theorem ignore_ofJson {v : Json} (hd : v.DistinctKeys) : (ofJson v).ignore = .ok () := by
  have hfaults := (endsBy_value (ofJson v)).eq_nil (value_ofJson v hd)
  rw [ignore, (skip_of_faults _ hfaults).1]
  rfl

/-! ### Lists -/

theorem itemsFrom_eq_ok_iff (h : Reads read spells) {items : List Json} (hd : ∀ item ∈ items, item.DistinctKeys)
    {index : Nat} {xs : List α} :
    itemsFrom read index (ofItems items) = .ok xs ↔ List.Forall₂ spells items xs := by
  induction items generalizing index xs with
  | nil =>
      rw [List.forall₂_nil_left_iff]
      exact ⟨fun h => by cases h; rfl, fun h => by cases h; rfl⟩
  | cons item items ih =>
      obtain ⟨hitem, hitems⟩ := List.forall_mem_cons.1 hd
      rw [ofItems, itemsFrom, List.forall₂_cons_left_iff, bind_eq_ok]
      simp only [under, mapError_eq_ok, h item hitem, bind_eq_ok, ih hitems, pure_eq_ok]
      constructor
      · intro h
        obtain ⟨x, hx, rest, hrest, rfl⟩ := h
        exact ⟨x, rest, hx, hrest, rfl⟩
      · intro h
        obtain ⟨x, rest, hx, hrest, rfl⟩ := h
        exact ⟨x, hx, rest, hrest, rfl⟩

theorem Reads.asList (h : Reads read spells) : Reads (asList read) (SpellsList spells) := by
  intro v hd xs
  cases v with
  | arr items =>
      have hitems : itemsFrom read 0 (ofItems items) = .ok xs ↔ List.Forall₂ spells items xs :=
        itemsFrom_eq_ok_iff h (Json.distinctKeys_arr.1 hd)
      simp only [SpellsList, Json.arr.injEq, exists_eq_left', ← hitems]
      rw [ofJson, Draft.asList, bind_eq_ok]
      constructor
      · intro h
        obtain ⟨read, hread, hxs⟩ := h
        cases hxs
        exact hread
      · intro h
        exact ⟨xs, h, rfl⟩
  | _ =>
      refine iff_of_false (fun h => by cases h) fun h => ?_
      obtain ⟨items, hv, -⟩ := h
      cases hv

/-! ### Objects -/

theorem ofMembers_eq_map (members : List (String × Json)) :
    ofMembers members = members.map fun member => (some member.1, ofJson member.2) := by
  induction members with
  | nil => rfl
  | cons member members ih => rw [ofMembers, ih, List.map_cons]

theorem lookup_ofMembers (members : List (String × Json)) (key : String) :
    (ofMembers members).lookup (some key) = (Json.get? members key).map ofJson := by
  induction members with
  | nil => rfl
  | cons member members ih =>
      obtain ⟨k, v⟩ := member
      rw [ofMembers, List.lookup_cons, Json.get?, List.lookup_cons, ih, Option.some_beq_some]
      split <;> rfl

variable {members : List (String × Json)}

/-- In an object without repeated keys the last value of a key is the only one. -/
theorem last?_ofMembers (hd : (Json.obj members).DistinctKeys) (key : String) :
    last? (ofMembers members) key = (Json.get? members key).map ofJson := by
  have hreverse : (ofMembers members).reverse = ofMembers members.reverse := by
    rw [ofMembers_eq_map, ofMembers_eq_map, List.map_reverse]
  rw [last?, hreverse, lookup_ofMembers, Json.get?_of_perm members.reverse_perm.symm (Json.distinctKeys_obj.1 hd).1]

theorem Reads.required_eq_ok_iff (h : Reads read spells) (hd : (Json.obj members).DistinctKeys) {key : String} {x : α} :
    required read (ofMembers members) key = .ok x ↔ ∃ v, Json.get? members key = some v ∧ spells v x := by
  rw [required, last?_ofMembers hd]
  cases hget : Json.get? members key with
  | none => simp
  | some v =>
      simp only [Option.map_some, Option.some.injEq, exists_eq_left', ← h v (hd.get? hget)]
      exact mapError_eq_ok

theorem Reads.withDefault_eq_ok_iff (h : Reads read spells) (hd : (Json.obj members).DistinctKeys) {default : α}
    {key : String} {x : α} :
    withDefault default read (ofMembers members) key = .ok x
      ↔ Defaulted spells default (Json.get? members key) x := by
  rw [withDefault, last?_ofMembers hd]
  cases hget : Json.get? members key with
  | none =>
      constructor
      · intro h
        cases h
        exact .absent
      · intro h
        cases h
        rfl
  | some v =>
      rw [Defaulted.some_iff, ← h v (hd.get? hget)]
      exact mapError_eq_ok

/-- A member that spells something passes the check of its key. -/
theorem Reads.check_required (h : Reads read spells) (hd : (Json.obj members).DistinctKeys) {key : String} {v w : Json}
    (hget : Json.get? members key = some v) (hw : Json.get? members key = some w) {x : α} (hx : spells w x) :
    (read (ofJson v) *> .ok ()) = .ok () := by
  rw [hget] at hw
  cases hw
  exact seqRight_eq_ok.2 ⟨⟨x, (h v (hd.get? hget) x).2 hx⟩, rfl⟩

theorem Reads.check_withDefault (h : Reads read spells) (hd : (Json.obj members).DistinctKeys) {key : String} {v : Json}
    (hget : Json.get? members key = some v) {default x : α}
    (hx : Defaulted spells default (Json.get? members key) x) : (read (ofJson v) *> .ok ()) = .ok () := by
  rw [hget, Defaulted.some_iff] at hx
  exact h.check_required hd hget hget hx

theorem checkMembers_eq_ok {member : String → Draft → Outcome Unit}
    (h : ∀ entry ∈ members, member entry.1 (ofJson entry.2) = .ok ()) :
    checkMembers member (ofMembers members) = .ok () := by
  induction members with
  | nil => rfl
  | cons entry members ih =>
      obtain ⟨hentry, hmembers⟩ := List.forall_mem_cons.1 h
      rw [ofMembers, checkMembers, hentry]
      exact ih hmembers

/-- An object spells what its members do, if the members that are looked up pass the check. -/
theorem reads_asObject {member : String → Draft → Outcome Unit}
    {build : List (Option String × Draft) → Outcome α} {spells : List (String × Json) → α → Prop}
    (hbuild : ∀ members, (Json.obj members).DistinctKeys → ∀ x, build (ofMembers members) = .ok x ↔ spells members x)
    (hmember : ∀ members, (Json.obj members).DistinctKeys → ∀ x, spells members x →
      ∀ key v, Json.get? members key = some v → member key (ofJson v) = .ok ()) :
    Reads (asObject member build) fun v x => ∃ members, v = .obj members ∧ spells members x := by
  intro v hd x
  cases v with
  | obj members =>
      simp only [Json.obj.injEq, exists_eq_left', ← hbuild members hd]
      rw [ofJson, asObject, bind_eq_ok]
      constructor
      · intro h
        obtain ⟨_, -, hx⟩ := h
        exact hx
      · intro h
        refine ⟨(), checkMembers_eq_ok fun entry hentry => ?_, h⟩
        have hget := Json.get?_of_mem (Json.distinctKeys_obj.1 hd).1 hentry
        exact hmember members hd x ((hbuild members hd x).1 h) _ _ hget
  | _ =>
      refine iff_of_false (fun h => by cases h) fun h => ?_
      obtain ⟨members, hv, -⟩ := h
      cases hv

/-! ### The parts of a catalog -/

theorem reads_asField : Reads asField Field.SpelledBy := by
  refine reads_asObject (fun members hd field => ?_) fun members hd field h key v hget => ?_
  · simp only [bind_eq_ok, pure_eq_ok, reads_asText.required_eq_ok_iff hd, reads_asFieldKind.required_eq_ok_iff hd,
      reads_asTextOrNull.withDefault_eq_ok_iff hd, reads_asFlag.withDefault_eq_ok_iff hd]
    constructor
    · intro h
      obtain ⟨id, ⟨_, hid, rfl⟩, kind, ⟨_, hkind, type, rfl, rfl⟩, label, hlabel, required, hrequired, rfl⟩ := h
      exact ⟨hid, ⟨type, hkind, rfl⟩, hlabel, hrequired⟩
    · intro h
      obtain ⟨hid, ⟨type, htype, hkind⟩, hlabel, hrequired⟩ := h
      exact ⟨_, ⟨_, hid, rfl⟩, _, ⟨_, htype, type, rfl, hkind⟩, _, hlabel, _, hrequired, rfl⟩
  · obtain ⟨hid, ⟨type, htype, hkind⟩, hlabel, hrequired⟩ := h
    unfold fieldMember
    split
    · exact reads_asText.check_required hd hget hid rfl
    · exact reads_asFieldKind.check_required hd hget htype ⟨type, rfl, hkind⟩
    · exact reads_asTextOrNull.check_withDefault hd hget hlabel
    · exact reads_asFlag.check_withDefault hd hget hrequired
    · exact ignore_ofJson (hd.get? hget)

theorem reads_fields : Reads (asList asField) (SpellsList Field.SpelledBy) :=
  reads_asField.asList

theorem reads_asPage : Reads asPage Page.SpelledBy := by
  refine reads_asObject (fun members hd page => ?_) fun members hd page h key v hget => ?_
  · simp only [bind_eq_ok, pure_eq_ok, reads_asText.required_eq_ok_iff hd,
      reads_asTextOrNull.withDefault_eq_ok_iff hd, reads_fields.withDefault_eq_ok_iff hd]
    constructor
    · intro h
      obtain ⟨id, ⟨_, hid, rfl⟩, title, htitle, fields, hfields, rfl⟩ := h
      exact ⟨hid, htitle, hfields⟩
    · intro h
      exact ⟨_, ⟨_, h.name, rfl⟩, _, h.caption, _, h.fields, rfl⟩
  · unfold pageMember
    split
    · exact reads_asText.check_required hd hget h.name rfl
    · exact reads_asTextOrNull.check_withDefault hd hget h.caption
    · exact reads_fields.check_withDefault hd hget h.fields
    · exact ignore_ofJson (hd.get? hget)

theorem reads_asAction : Reads asAction Action.SpelledBy := by
  refine reads_asObject (fun members hd action => ?_) fun members hd action h key v hget => ?_
  · simp only [bind_eq_ok, pure_eq_ok, reads_asText.required_eq_ok_iff hd,
      reads_asTextOrNull.withDefault_eq_ok_iff hd, reads_fields.withDefault_eq_ok_iff hd]
    constructor
    · intro h
      obtain ⟨type, ⟨_, htype, rfl⟩, label, hlabel, fields, hfields, rfl⟩ := h
      exact ⟨htype, hlabel, hfields⟩
    · intro h
      exact ⟨_, ⟨_, h.name, rfl⟩, _, h.caption, _, h.fields, rfl⟩
  · unfold actionMember
    split
    · exact reads_asText.check_required hd hget h.name rfl
    · exact reads_asTextOrNull.check_withDefault hd hget h.caption
    · exact reads_fields.check_withDefault hd hget h.fields
    · exact ignore_ofJson (hd.get? hget)

theorem reads_pages : Reads (asList asPage) (SpellsList Page.SpelledBy) :=
  reads_asPage.asList

theorem reads_asDeclaration : Reads asDeclaration SpellsDeclaration := by
  refine reads_asObject (fun members hd pages => reads_pages.withDefault_eq_ok_iff hd)
    fun members hd pages h key v hget => ?_
  unfold declarationMember
  split
  · exact reads_pages.check_withDefault hd hget h
  · exact ignore_ofJson (hd.get? hget)

theorem reads_asEvent : Reads asEvent Event.SpelledBy := by
  have hactions := reads_asAction.asList
  refine reads_asObject (fun members hd event => ?_) fun members hd event h key v hget => ?_
  · simp only [bind_eq_ok, pure_eq_ok, reads_asText.required_eq_ok_iff hd,
      reads_asTextOrNull.withDefault_eq_ok_iff hd, reads_asDeclaration.withDefault_eq_ok_iff hd,
      hactions.withDefault_eq_ok_iff hd]
    constructor
    · intro h
      obtain ⟨id, ⟨_, hid, rfl⟩, label, hlabel, pages, hpages, actions, hactions, rfl⟩ := h
      exact ⟨hid, hlabel, hpages, hactions⟩
    · intro h
      exact ⟨_, ⟨_, h.id, rfl⟩, _, h.label, _, h.declaration, _, h.actions, rfl⟩
  · unfold eventMember
    split
    · exact reads_asText.check_required hd hget h.id rfl
    · exact reads_asTextOrNull.check_withDefault hd hget h.label
    · exact reads_asDeclaration.check_withDefault hd hget h.declaration
    · exact hactions.check_withDefault hd hget h.actions
    · exact ignore_ofJson (hd.get? hget)

end Draft

/-! ### Whole catalogs -/

namespace Catalog

variable {items : List Json} {spells : Json → Event → Prop}

/-- An array is read element by element, whichever way the reader of an event is told. -/
theorem parse_array_eq_ok_iff (h : Draft.Reads Draft.asEvent spells) (hd : (Json.arr items).DistinctKeys)
    {catalog : Catalog} :
    parse (.value (.arr items)) = .ok catalog ↔ List.Forall₂ spells items catalog.events ∧ catalog.editable = false := by
  have hevents := h.asList (.arr items) hd catalog.events
  simp only [SpellsList, Json.arr.injEq, exists_eq_left'] at hevents
  rw [parse, ofList, bind_eq_ok, ← hevents]
  constructor
  · intro h
    obtain ⟨events, hread, hcatalog⟩ := h
    cases hcatalog
    exact ⟨hread, rfl⟩
  · intro h
    obtain ⟨hread, heditable⟩ := h
    refine ⟨catalog.events, hread, pure_eq_ok.2 ?_⟩
    rw [← heditable]

theorem exists_parse_array_iff (h : Draft.Reads Draft.asEvent spells) (hd : (Json.arr items).DistinctKeys) :
    (∃ catalog, parse (.value (.arr items)) = .ok catalog) ↔ ∀ item ∈ items, ∃ event, spells item event := by
  simp only [parse_array_eq_ok_iff h hd, ← exists_forall₂_iff]
  constructor
  · intro h
    obtain ⟨catalog, hevents, -⟩ := h
    exact ⟨catalog.events, hevents⟩
  · intro h
    obtain ⟨events, hevents⟩ := h
    exact ⟨⟨events, false⟩, hevents, rfl⟩

/-- An array is read as a catalog exactly if every element is a well-formed event, and then as the events that the elements spell, one each and in their order. That is to say exactly if every element alone is read as an event, and then as these events. -/
theorem parse_array_iff (items : List Json) (hd : (Json.arr items).DistinctKeys) :
    ((∃ catalog, parse (.value (.arr items)) = .ok catalog) ↔ ∀ item ∈ items, Event.WellFormed item)
      ∧ (∀ catalog, parse (.value (.arr items)) = .ok catalog
          ↔ List.Forall₂ Event.SpelledBy items catalog.events ∧ catalog.editable = false)
      ∧ ((∃ catalog, parse (.value (.arr items)) = .ok catalog)
          ↔ ∀ item ∈ items, ∃ event, Event.ofJson item = .ok event)
      ∧ ∀ catalog, parse (.value (.arr items)) = .ok catalog
          ↔ List.Forall₂ (fun item event => Event.ofJson item = .ok event) items catalog.events
            ∧ catalog.editable = false := by
  have halone : Draft.Reads Draft.asEvent fun item event => Event.ofJson item = .ok event := fun v _ event => Iff.rfl
  simp only [Event.wellFormed_iff]
  exact ⟨exists_parse_array_iff Draft.reads_asEvent hd, fun catalog => parse_array_eq_ok_iff Draft.reads_asEvent hd,
    exists_parse_array_iff halone hd, fun catalog => parse_array_eq_ok_iff halone hd⟩

/-- Two events: one with nothing but what it needs, and one with null captions, an unknown key, an empty page and a field that is declared twice. -/
def sparseItems : List Json :=
  [.obj [("id", .str "adoption")],
    .obj [("version", .int 2), ("label", .null), ("actions", .arr [.obj [("fields", .arr [
        .obj [("required", .bool true), ("type", .str "DATE_RANGE"), ("id", .str "child.name")]]), ("type", .str "PRINT")]]),
      ("declaration", .obj [("pages", .arr [
        .obj [("id", .str "p")],
        .obj [("title", .str "Child"), ("id", .str "q"), ("fields", .arr [
          .obj [("id", .str "child.name"), ("type", .str "NAME"), ("label", .null)]])]])]),
      ("id", .str "birth")]]

def sparseEvents : List Event :=
  [⟨"adoption", none, [], []⟩,
    ⟨"birth", none, [⟨"p", none, []⟩, ⟨"q", some "Child", [⟨"child.name", .known .name, none, false⟩]⟩],
      [⟨"PRINT", none, [⟨"child.name", .known .dateRange, none, true⟩]⟩]⟩]

/-- With a null in the place of the declaration form the array is no catalog. -/
def nullDeclaration : List Json :=
  sparseItems ++ [.obj [("id", .str "death"), ("declaration", .null)]]

theorem parse_array_sparseItems :
    (Json.arr sparseItems).DistinctKeys ∧ (∀ item ∈ sparseItems, Event.WellFormed item)
      ∧ List.Forall₂ Event.SpelledBy sparseItems sparseEvents
      ∧ (Json.arr nullDeclaration).DistinctKeys ∧ ¬ ∀ item ∈ nullDeclaration, Event.WellFormed item := by
  have hd : (Json.arr sparseItems).DistinctKeys := by
    simp [sparseItems, Json.DistinctKeys, Json.DistinctKeysItems, Json.DistinctKeysMembers]
  have hnull : (Json.arr nullDeclaration).DistinctKeys := by
    simp [nullDeclaration, sparseItems, Json.DistinctKeys, Json.DistinctKeysItems, Json.DistinctKeysMembers]
  have hread : parse (.value (.arr sparseItems)) = .ok ⟨sparseEvents, false⟩ := by decide +kernel
  have hfails : parse (.value (.arr nullDeclaration)) = .error (.invalid ⟨.unexpected .map .null, [.item 2, .member "declaration"]⟩) := by
    decide +kernel
  obtain ⟨hwell, hspelled, -⟩ := parse_array_iff sparseItems hd
  refine ⟨hd, hwell.1 ⟨_, hread⟩, ((hspelled _).1 hread).1, hnull, fun hall => ?_⟩
  obtain ⟨catalog, hcatalog⟩ := (parse_array_iff nullDeclaration hnull).1.2 hall
  rw [hfails] at hcatalog
  cases hcatalog

end Catalog

end RegistrySearch
