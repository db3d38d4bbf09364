import RegistrySearch.Proofs.Catalog.NameFields
import RegistrySearch.Proofs.Catalog.Reading
import RegistrySearch.Proofs.Json.RoundTrip

/-!
# Written events read back

The record of an event leaves out what is null of the event itself and keeps the nulls of its parts. The one is read as a member that is absent and the other as a null, with the same result.

The types of fields are written by their names, so that a bare name is read back as the known type of this name, if there is one (`Event.spelledBy_toRecord_iff`). An event is the one that is read back exactly if all its types are known (`Event.ofJson_toRecord_self_iff`). The same holds of a catalog, as a value, as text or as octets, unless it is being edited (`Catalog.parse_written_self_iff`). Whether a field holds a name is the same before and after, so that reading a catalog back never changes its name fields.
-/

namespace RegistrySearch

/-! ### Types of fields -/

namespace FieldKind

/-- The known type of this name, if there is one. -/
def typed (kind : FieldKind) : FieldKind :=
  (FieldType.ofLabel? kind.label).elim kind .known

theorem typed_of_label {kind : FieldKind} {type : FieldType} (h : kind.label = type.label) :
    kind.typed = .known type := by
  rw [typed, h, type.ofLabel?_label]
  rfl

theorem label_typed (kind : FieldKind) : kind.typed.label = kind.label := by
  unfold typed
  cases hlabel : FieldType.ofLabel? kind.label with
  | none => rfl
  | some type => exact (FieldType.ofLabel?_eq_some_iff.1 hlabel).symm

/-- Whether a type is that of names can be told by its own name. -/
theorem isName_eq (kind : FieldKind) : kind.isName = decide (kind.label = FieldType.name.label) := by
  cases kind with
  | known type => cases type <;> rfl
  | named label => rfl

end FieldKind

namespace Field

/-- The type of the field is one of the known types, and not a bare name. -/
def Typed (field : Field) : Prop :=
  ∃ type, field.kind = .known type

/-- The type of the field has the name of a known type. -/
def NamesType (field : Field) : Prop :=
  ∃ type : FieldType, field.kind.label = type.label

def typed (field : Field) : Field :=
  { field with kind := field.kind.typed }

variable {field read : Field}

theorem Typed.namesType (h : field.Typed) : field.NamesType := by
  obtain ⟨type, htype⟩ := h
  exact ⟨type, congrArg FieldKind.label htype⟩

theorem Typed.typed_eq (h : field.Typed) : field.typed = field := by
  obtain ⟨type, htype⟩ := h
  rw [typed, FieldKind.typed_of_label (congrArg FieldKind.label htype), ← htype]

theorem typed_iff : field.Typed ↔ field.NamesType ∧ field.typed = field := by
  refine ⟨fun h => ⟨h.namesType, h.typed_eq⟩, ?_⟩
  rintro ⟨⟨type, htype⟩, hsame⟩
  refine ⟨type, ?_⟩
  rw [← congrArg Field.kind hsame]
  exact FieldKind.typed_of_label htype

theorem isName_typed (field : Field) : field.typed.kind.isName = field.kind.isName := by
  rw [FieldKind.isName_eq, FieldKind.isName_eq, typed, FieldKind.label_typed]

end Field

/-! ### Lists and captions -/

theorem spellsCaption_ofOption_iff {caption read : Option String} :
    SpellsCaption (Json.ofOption caption) read ↔ read = caption := by
  cases caption <;> cases read <;> simp [SpellsCaption, Json.ofOption, eq_comm]

/-- Written elements spell what each of them is read back as. -/
theorem spellsList_map_iff {α β : Type} {spells : Json → α → Prop} {write : β → Json} {P : β → Prop} {readBack : β → α}
    (h : ∀ y x, spells (write y) x ↔ P y ∧ x = readBack y) {ys : List β} {xs : List α} :
    SpellsList spells (.arr (ys.map write)) xs ↔ (∀ y ∈ ys, P y) ∧ xs = ys.map readBack := by
  have hread : List.Forall₂ (fun y x => x = readBack y) ys xs ↔ xs = ys.map readBack := by
    rw [← List.forall₂_eq_eq_eq, List.forall₂_map_right_iff]
    exact ⟨List.Forall₂.flip, List.Forall₂.flip⟩
  simp only [SpellsList, Json.arr.injEq, exists_eq_left', List.forall₂_map_left_iff, h, List.forall₂_and_left, hread]

theorem map_eq_self_iff {α : Type} {f : α → α} {xs : List α} : xs.map f = xs ↔ ∀ x ∈ xs, f x = x := by
  have hsame : xs.map f = xs.map id ↔ ∀ x ∈ xs, f x = id x := List.map_inj_left
  rwa [xs.map_id] at hsame

/-! ### Parts of an event -/

theorem Field.spelledBy_toJson_iff (field read : Field) :
    read.SpelledBy field.toJson ↔ field.NamesType ∧ read = field.typed := by
  constructor
  · intro h
    obtain ⟨members, hv, hid, ⟨type, htype, hkind⟩, hlabel, hrequired⟩ := h
    cases hv
    have hname : field.kind.label = type.label := Json.str.inj (Option.some.inj htype)
    have hlabel := spellsCaption_ofOption_iff.1 (Defaulted.some_iff.1 hlabel)
    refine ⟨⟨type, hname⟩, ?_⟩
    obtain ⟨id, kind, label, required⟩ := read
    cases hid
    cases hkind
    cases hlabel
    cases Defaulted.some_iff.1 hrequired
    rw [typed, FieldKind.typed_of_label hname]
  · rintro ⟨⟨type, htype⟩, rfl⟩
    refine ⟨_, rfl, rfl, ⟨type, ?_, FieldKind.typed_of_label htype⟩, .given rfl, .given rfl⟩
    rw [← htype]
    rfl

/-- A group that is written with its name, its caption and its fields. -/
theorem groupSpelledBy_iff {nameKey captionKey name readName : String} {members : List (String × Json)}
    {caption readCaption : Option String} {fields readFields : List Field}
    (hname : Json.get? members nameKey = some (.str name))
    (hcaption : Json.get? members captionKey = some (Json.ofOption caption))
    (hfields : Json.get? members "fields" = some (.arr (fields.map Field.toJson))) :
    GroupSpelledBy nameKey captionKey members readName readCaption readFields
      ↔ (∀ field ∈ fields, field.NamesType)
        ∧ readName = name ∧ readCaption = caption ∧ readFields = fields.map Field.typed := by
  have hspells : SpellsList Field.SpelledBy (.arr (fields.map Field.toJson)) readFields ↔ _ :=
    spellsList_map_iff Field.spelledBy_toJson_iff
  constructor
  · intro h
    obtain ⟨hreadName, hreadCaption, hreadFields⟩ := h
    rw [hname] at hreadName
    rw [hcaption, Defaulted.some_iff, spellsCaption_ofOption_iff] at hreadCaption
    rw [hfields, Defaulted.some_iff, hspells] at hreadFields
    cases hreadName
    exact ⟨hreadFields.1, rfl, hreadCaption, hreadFields.2⟩
  · rintro ⟨htypes, rfl, rfl, hreadFields⟩
    refine ⟨hname, ?_, ?_⟩
    · rw [hcaption]
      exact .given rfl
    · rw [hfields, Defaulted.some_iff, hspells]
      exact ⟨htypes, hreadFields⟩

theorem Page.spelledBy_toJson_iff (page read : Page) :
    read.SpelledBy page.toJson
      ↔ (∀ field ∈ page.fields, field.NamesType) ∧ read = { page with fields := page.fields.map Field.typed } := by
  obtain ⟨id, title, fields⟩ := read
  simp only [SpelledBy, toJson, Json.obj.injEq, exists_eq_left', Page.mk.injEq]
  exact groupSpelledBy_iff rfl rfl rfl

theorem Action.spelledBy_toJson_iff (action read : Action) :
    read.SpelledBy action.toJson
      ↔ (∀ field ∈ action.fields, field.NamesType)
        ∧ read = { action with fields := action.fields.map Field.typed } := by
  obtain ⟨type, label, fields⟩ := read
  simp only [SpelledBy, toJson, Json.obj.injEq, exists_eq_left', Action.mk.injEq]
  exact groupSpelledBy_iff rfl rfl rfl

/-! ### What is written has no numbers and no repeated keys -/

theorem Field.writable_toJson (field : Field) : field.toJson.Writable := by
  have hflag : (Json.bool field.required).Writable := ⟨trivial, trivial⟩
  exact Json.writable_obj (by simp) (by simp [Json.writable_str, Json.writable_ofOption, hflag])

theorem Page.writable_toJson (page : Page) : page.toJson.Writable := by
  have hfields := Json.writable_map fun field (_ : field ∈ page.fields) => field.writable_toJson
  exact Json.writable_obj (by simp) (by simp [Json.writable_str, Json.writable_ofOption, hfields])

theorem Action.writable_toJson (action : Action) : action.toJson.Writable := by
  have hfields := Json.writable_map fun field (_ : field ∈ action.fields) => field.writable_toJson
  exact Json.writable_obj (by simp) (by simp [Json.writable_str, Json.writable_ofOption, hfields])

theorem Event.writable_toJson (event : Event) : event.toJson.Writable := by
  have hpages := Json.writable_map fun page (_ : page ∈ event.pages) => page.writable_toJson
  have hactions := Json.writable_map fun action (_ : action ∈ event.actions) => action.writable_toJson
  have hdeclaration : (Json.obj [("pages", .arr (event.pages.map Page.toJson))]).Writable :=
    Json.writable_obj (by simp) (by simp [hpages])
  exact Json.writable_obj (by simp [members])
    (by simp [members, Json.writable_str, Json.writable_ofOption, hdeclaration, hactions])

theorem Event.writable_toRecord (event : Event) : event.toRecord.Writable :=
  event.writable_toJson.of_sublist List.filter_sublist

/-! ### Events -/

namespace Event

/-- The members of a record. Only the label can be missing. -/
def recordMembers (event : Event) : List (String × Json) :=
  event.members.filter fun member => member.2.kind ≠ .null

theorem get?_recordMembers (event : Event) :
    Json.get? event.recordMembers "id" = some (.str event.id)
      ∧ Json.get? event.recordMembers "label" = event.label.map .str
      ∧ Json.get? event.recordMembers "declaration"
        = some (.obj [("pages", .arr (event.pages.map Page.toJson))])
      ∧ Json.get? event.recordMembers "actions" = some (.arr (event.actions.map Action.toJson)) := by
  obtain ⟨id, label, pages, actions⟩ := event
  cases label <;> exact ⟨rfl, rfl, rfl, rfl⟩

theorem defaulted_caption_iff {caption read : Option String} :
    Defaulted SpellsCaption none (caption.map .str) read ↔ read = caption := by
  cases caption with
  | none =>
      constructor
      · intro h
        cases h
        rfl
      · rintro rfl
        exact .absent
  | some s =>
      have hcaption : SpellsCaption (Json.ofOption (some s)) read ↔ read = some s := spellsCaption_ofOption_iff
      exact Defaulted.some_iff.trans hcaption

theorem forall_mem_fields_iff {event : Event} {P : Field → Prop} :
    (∀ field ∈ event.fields, P field)
      ↔ (∀ page ∈ event.pages, ∀ field ∈ page.fields, P field)
        ∧ ∀ action ∈ event.actions, ∀ field ∈ action.fields, P field := by
  rw [fields, actionFields, List.forall_mem_append, List.forall_mem_flatMap, List.forall_mem_flatMap]

theorem spellsDeclaration_iff {pages read : List Page} :
    SpellsDeclaration (.obj [("pages", .arr (pages.map Page.toJson))]) read
      ↔ (∀ page ∈ pages, ∀ field ∈ page.fields, field.NamesType)
        ∧ read = pages.map fun page => { page with fields := page.fields.map Field.typed } := by
  simp only [SpellsDeclaration, Json.obj.injEq, exists_eq_left']
  exact Defaulted.some_iff.trans (spellsList_map_iff Page.spelledBy_toJson_iff)

/-- Each field of the event is read back with the type that its type has the name of. -/
theorem spelledBy_toRecord_iff (event read : Event) :
    read.SpelledBy event.toRecord
      ↔ (∀ field ∈ event.fields, field.NamesType) ∧ read = event.mapFields Field.typed := by
  have hactions : SpellsList Action.SpelledBy (.arr (event.actions.map Action.toJson)) read.actions ↔ _ :=
    spellsList_map_iff Action.spelledBy_toJson_iff
  obtain ⟨hgetId, hgetLabel, hgetPages, hgetActions⟩ := event.get?_recordMembers
  rw [forall_mem_fields_iff]
  constructor
  · intro h
    obtain ⟨members, hv, hid, hlabel, hpages, hread⟩ := h
    obtain rfl : event.recordMembers = members := Json.obj.inj hv
    rw [hgetId] at hid
    rw [hgetLabel, defaulted_caption_iff] at hlabel
    rw [hgetPages, Defaulted.some_iff, spellsDeclaration_iff] at hpages
    rw [hgetActions, Defaulted.some_iff, hactions] at hread
    refine ⟨⟨hpages.1, hread.1⟩, ?_⟩
    obtain ⟨id, label, pages, actions⟩ := read
    cases hid
    cases hlabel
    cases hpages.2
    cases hread.2
    rfl
  · rintro ⟨⟨hpages, hfields⟩, rfl⟩
    refine ⟨event.recordMembers, rfl, hgetId, ?_, ?_, ?_⟩
    · rw [hgetLabel, defaulted_caption_iff]
      rfl
    · rw [hgetPages, Defaulted.some_iff, spellsDeclaration_iff]
      exact ⟨hpages, rfl⟩
    · rw [hgetActions, Defaulted.some_iff, hactions]
      exact ⟨hfields, rfl⟩

/-- An event is read from its record exactly if each of its fields has the name of a type, and then with these types. -/
theorem ofJson_toRecord_eq_ok_iff {event read : Event} :
    ofJson event.toRecord = .ok read
      ↔ (∀ field ∈ event.fields, field.NamesType) ∧ read = event.mapFields Field.typed := by
  rw [← spelledBy_toRecord_iff]
  exact Draft.reads_asEvent _ event.writable_toRecord.distinctKeys read

/-- The types of all fields are known types, and not bare names. -/
def Typed (event : Event) : Prop :=
  ∀ field ∈ event.fields, field.Typed

theorem fields_mapFields (f : Field → Field) (event : Event) : (event.mapFields f).fields = event.fields.map f := by
  simp only [fields, actionFields, mapFields, List.map_append, List.map_flatMap, List.flatMap_map]

theorem mapFields_eq_self_iff {f : Field → Field} {event : Event} :
    event.mapFields f = event ↔ ∀ field ∈ event.fields, f field = field := by
  constructor
  · intro h
    rw [← map_eq_self_iff, ← fields_mapFields, h]
  · intro h
    obtain ⟨hpages, hactions⟩ := forall_mem_fields_iff.1 h
    have hpage : ∀ page ∈ event.pages, { page with fields := page.fields.map f } = page := by
      intro page hpage
      rw [map_eq_self_iff.2 (hpages page hpage)]
    have haction : ∀ action ∈ event.actions, { action with fields := action.fields.map f } = action := by
      intro action haction
      rw [map_eq_self_iff.2 (hactions action haction)]
    rw [mapFields, map_eq_self_iff.2 hpage, map_eq_self_iff.2 haction]

theorem typed_iff {event : Event} :
    event.Typed ↔ (∀ field ∈ event.fields, field.NamesType) ∧ event.mapFields Field.typed = event := by
  rw [mapFields_eq_self_iff, ← forall₂_and]
  exact forall₂_congr fun _ _ => Field.typed_iff

/-- An event is the one that is read from its record exactly if its types are known. -/
theorem ofJson_toRecord_self_iff {event : Event} : ofJson event.toRecord = .ok event ↔ event.Typed := by
  rw [ofJson_toRecord_eq_ok_iff, typed_iff, eq_comm]

end Event

/-! ### Catalogs -/

namespace Catalog

/-- The records of the events of a catalog. -/
def records (catalog : Catalog) : Json :=
  .arr (catalog.events.map Event.toRecord)

/-- The records as they are handed over: as a value, as text or as octets. -/
def written (catalog : Catalog) : List Payload :=
  [.value catalog.records, .text catalog.records.text, .octets (Utf8.encode catalog.records.text.toList)]

variable {catalog read : Catalog} {payload : Payload}

theorem writable_records (catalog : Catalog) : catalog.records.Writable :=
  Json.writable_map fun event _ => event.writable_toRecord

/-- The text of the records is read as the records are. -/
theorem parse_of_mem_written (h : payload ∈ catalog.written) : parse payload = parse (.value catalog.records) := by
  have hreading : ofReading (Json.reading (catalog.records.write.map some)) = parse (.value catalog.records) := by
    rw [Json.reading_write catalog.writable_records.numberFree]
    rfl
  simp only [written, List.mem_cons, List.not_mem_nil, or_false] at h
  rcases h with rfl | rfl | rfl
  · rfl
  · rw [parse, Json.symbols, Json.text, String.toList_ofList, hreading]
  · rw [parse, Utf8.pieces_encode, Json.text, String.toList_ofList, hreading]

/-- A catalog is read from what is written of it exactly if each of its fields has the name of a type, and then with these types. -/
theorem parse_written_eq_ok_iff (h : payload ∈ catalog.written) :
    parse payload = .ok read
      ↔ (∀ event ∈ catalog.events, ∀ field ∈ event.fields, field.NamesType)
        ∧ read.events = catalog.events.map (Event.mapFields Field.typed) ∧ read.editable = false := by
  have hevents : SpellsList Event.SpelledBy catalog.records read.events ↔ _ :=
    spellsList_map_iff Event.spelledBy_toRecord_iff
  simp only [SpellsList, records, Json.arr.injEq, exists_eq_left'] at hevents
  rw [parse_of_mem_written h, records, parse_array_eq_ok_iff Draft.reads_asEvent catalog.writable_records.distinctKeys,
    hevents, and_assoc]

/-- A catalog is the one that is read from what is written of it exactly if its types are known and it is not being edited. -/
theorem parse_written_self_iff (h : payload ∈ catalog.written) :
    parse payload = .ok catalog ↔ (∀ event ∈ catalog.events, event.Typed) ∧ catalog.editable = false := by
  rw [parse_written_eq_ok_iff h, ← and_assoc]
  refine and_congr_left' ?_
  rw [@eq_comm _ catalog.events, map_eq_self_iff, ← forall₂_and]
  exact forall₂_congr fun _ _ => Event.typed_iff.symm

end Catalog

/-! ### Name fields -/

theorem Event.uniqueFields_mapFields_typed (event : Event) :
    (event.mapFields Field.typed).uniqueFields = event.uniqueFields.map Field.typed := by
  rw [uniqueFields, fields_mapFields, distinctBy_map]
  rfl

/-- The name fields of a catalog do not depend on whether its types are bare names. -/
theorem nameFieldIds_map_typed (events : List Event) :
    nameFieldIds Event.uniqueFields (events.map (Event.mapFields Field.typed))
      = nameFieldIds Event.uniqueFields events := by
  have hname : (fun field : Field => field.kind.isName) ∘ Field.typed = fun field => field.kind.isName :=
    funext Field.isName_typed
  have hfields : (events.map (Event.mapFields Field.typed)).flatMap Event.uniqueFields
      = (events.flatMap Event.uniqueFields).map Field.typed := by
    simp only [List.flatMap_map, List.map_flatMap, Event.uniqueFields_mapFields_typed]
  rw [nameFieldIds, nameFieldIds, hfields, List.filter_map, List.map_map, hname]
  rfl

namespace Catalog

/-- An event is read back from its record exactly if its fields have known types. A catalog is read back from the records of its events, as a value, as text and as octets, exactly if all of them have and it is not being edited. Of any other catalog the copy that has the known types is read, as long as there are types of the names. And whenever a catalog is read, it has the name fields of the one that was written. -/
theorem records_read_back :
    (∀ event : Event, Event.ofJson event.toRecord = .ok event ↔ event.Typed)
      ∧ (∀ catalog : Catalog, ∀ payload ∈ catalog.written,
          parse payload = .ok catalog ↔ (∀ event ∈ catalog.events, event.Typed) ∧ catalog.editable = false)
      ∧ ∀ catalog : Catalog, ∀ payload ∈ catalog.written, ∀ read,
        (parse payload = .ok read
          ↔ (∀ event ∈ catalog.events, ∀ field ∈ event.fields, field.NamesType)
            ∧ read = ⟨catalog.events.map (Event.mapFields Field.typed), false⟩)
        ∧ (parse payload = .ok read →
          nameFieldIds Event.uniqueFields read.events = nameFieldIds Event.uniqueFields catalog.events) := by
  refine ⟨fun event => Event.ofJson_toRecord_self_iff, fun catalog payload h => parse_written_self_iff h, ?_⟩
  intro catalog payload h read
  have hread : parse payload = .ok read ↔ _ := parse_written_eq_ok_iff h
  refine ⟨?_, fun hparse => ?_⟩
  · obtain ⟨events, editable⟩ := read
    rw [hread, Catalog.mk.injEq]
  · rw [(hread.1 hparse).2.1, nameFieldIds_map_typed]

/-- A catalog with captions that are missing, an escaped character and a field that is declared again with another type. -/
def amendedCatalog : Catalog where
  events := [
    { id := "bi\"rth"
      pages := [⟨"p", none, [⟨"child.name", .known .name, none, true⟩]⟩, ⟨"q", some "Parents\n", []⟩]
      actions := [⟨"PRINT", none, [⟨"child.name", .known .dateRange, some "\u00e9", false⟩]⟩] },
    { id := "adoption", label := some "Adoption" }]

theorem records_read_back_amendedCatalog :
    (∀ event ∈ amendedCatalog.events, Event.ofJson event.toRecord = .ok event)
      ∧ (∀ payload ∈ amendedCatalog.written, parse payload = .ok amendedCatalog)
      ∧ Payload.value amendedCatalog.withNamedTypes.records ∈ amendedCatalog.withNamedTypes.written
      ∧ parse (.value amendedCatalog.withNamedTypes.records) = .ok amendedCatalog
      ∧ nameFieldIds Event.uniqueFields amendedCatalog.events
        = nameFieldIds Event.uniqueFields amendedCatalog.withNamedTypes.events := by
  obtain ⟨hevent, hcatalog, hread⟩ := records_read_back
  have htyped : ∀ event ∈ amendedCatalog.events, event.Typed := by
    simp [amendedCatalog, Event.Typed, Event.fields, Event.actionFields, Field.Typed]
  have hmem : Payload.value amendedCatalog.withNamedTypes.records ∈ amendedCatalog.withNamedTypes.written :=
    List.mem_cons_self
  have hparse : parse (.value amendedCatalog.withNamedTypes.records) = .ok amendedCatalog := by decide +kernel
  exact ⟨fun event h => (hevent event).2 (htyped event h),
    fun payload h => (hcatalog amendedCatalog payload h).2 ⟨htyped, rfl⟩, hmem, hparse, (hread _ _ hmem _).2 hparse⟩

/-- An event with a type that is a bare name. -/
def namedBirth (type : String) : Event where
  id := "birth"
  pages := [⟨"p", none, [⟨"child.name", .named type, none, false⟩]⟩]

/-- An event with a bare name as a type is read back with the type of this name, or not at all if there is none. So is a catalog with such an event. And a catalog that is being edited is read back as one that is not. -/
theorem namedBirth_not_read_back :
    Event.ofJson (namedBirth "NAME").toRecord = .ok ((namedBirth "NAME").mapFields Field.typed)
      ∧ (namedBirth "NAME").mapFields Field.typed ≠ namedBirth "NAME"
      ∧ parse (.value (records ⟨[namedBirth "NAME"], false⟩)) ≠ .ok ⟨[namedBirth "NAME"], false⟩
      ∧ (∀ event, Event.ofJson (namedBirth "SURNAME").toRecord ≠ .ok event)
      ∧ parse (.value amendedCatalog.edited.records) = .ok amendedCatalog
      ∧ amendedCatalog ≠ amendedCatalog.edited := by
  refine ⟨by decide +kernel, by decide +kernel, by decide +kernel, fun event h => ?_, by decide +kernel, by decide +kernel⟩
  have hfault : Event.ofJson (namedBirth "SURNAME").toRecord
      = .error (.invalid ⟨.unknownName "SURNAME",
        [.member "declaration", .member "pages", .item 0, .member "fields", .item 0, .member "type"]⟩) := by
    decide +kernel
  cases h.symm.trans hfault

end Catalog

end RegistrySearch
