import RegistrySearch.Catalog.Event
import RegistrySearch.Proofs.Except

/-!
# The grammar of event catalogs

What an event of a catalog has to look like, and which event it spells, without a reader. A member that can be absent has a default; where it is a caption, it can be null as well. Keys that the grammar does not know are passed over. Pages and actions are told in the same way: as a group of fields with a name and a caption, each under its own key.

`Event.WellFormed` is the grammar and `Event.SpelledBy` the event that a value spells. A value is well formed exactly if it spells an event (`Event.wellFormed_iff`).
-/

namespace RegistrySearch

/-! ### Members and lists -/

section

variable {α : Type} {spells : Json → α → Prop} {default : α}

/-- A member that spells something, or is absent and stands for a default. -/
inductive Defaulted (spells : Json → α → Prop) (default : α) : Option Json → α → Prop
  | absent : Defaulted spells default none default
  | given {v : Json} {x : α} (h : spells v x) : Defaulted spells default (some v) x

theorem Defaulted.some_iff {v : Json} {x : α} : Defaulted spells default (some v) x ↔ spells v x := by
  constructor
  · intro h
    cases h with
    | given h => exact h
  · exact .given

theorem Defaulted.exists_iff {member : Option Json} :
    (∃ x, Defaulted spells default member x) ↔ ∀ v, member = some v → ∃ x, spells v x := by
  cases member with
  | none => exact iff_of_true ⟨default, .absent⟩ fun v hv => by cases hv
  | some v => simp only [some_iff, Option.some.injEq, forall_eq']

/-- An array whose elements spell those of a list, one each and in their order. -/
def SpellsList (spells : Json → α → Prop) (v : Json) (xs : List α) : Prop :=
  ∃ items, v = .arr items ∧ List.Forall₂ spells items xs

theorem exists_spellsList_iff {v : Json} :
    (∃ xs, SpellsList spells v xs) ↔ ∃ items, v = .arr items ∧ ∀ item ∈ items, ∃ x, spells item x := by
  simp only [SpellsList, ← exists_forall₂_iff]
  constructor
  · intro h
    obtain ⟨xs, items, hv, hitems⟩ := h
    exact ⟨items, hv, xs, hitems⟩
  · intro h
    obtain ⟨items, hv, xs, hitems⟩ := h
    exact ⟨xs, items, hv, hitems⟩

end

/-- The text of a caption, or none if it is null. -/
def SpellsCaption (v : Json) (caption : Option String) : Prop :=
  v = Json.ofOption caption

theorem exists_caption_iff {member : Option Json} :
    (∃ caption, Defaulted SpellsCaption none member caption)
      ↔ ∀ v, member = some v → v = .null ∨ ∃ s, v = .str s := by
  have hcaption : ∀ v, (∃ caption, SpellsCaption v caption) ↔ v = .null ∨ ∃ s, v = .str s := by
    intro v
    rw [Option.exists]
    rfl
  simp only [Defaulted.exists_iff, hcaption]

/-! ### Fields -/

namespace Field

/-- The id is a text and the type one that is known; the rest can be absent. -/
structure MembersWellFormed (members : List (String × Json)) : Prop where
  id : ∃ id, Json.get? members "id" = some (.str id)
  type : ∃ type : FieldType, Json.get? members "type" = some (.str type.label)
  label : ∀ v, Json.get? members "label" = some v → v = .null ∨ ∃ label, v = .str label
  required : ∀ v, Json.get? members "required" = some v → ∃ flag, v = .bool flag

def WellFormed (v : Json) : Prop :=
  ∃ members, v = .obj members ∧ MembersWellFormed members

structure MembersSpelledBy (members : List (String × Json)) (field : Field) : Prop where
  id : Json.get? members "id" = some (.str field.id)
  kind : ∃ type : FieldType, Json.get? members "type" = some (.str type.label) ∧ field.kind = .known type
  label : Defaulted SpellsCaption none (Json.get? members "label") field.label
  required : Defaulted (fun v flag => v = .bool flag) false (Json.get? members "required") field.required

def SpelledBy (v : Json) (field : Field) : Prop :=
  ∃ members, v = .obj members ∧ field.MembersSpelledBy members

theorem membersWellFormed_iff {members : List (String × Json)} :
    MembersWellFormed members ↔ ∃ field : Field, field.MembersSpelledBy members := by
  constructor
  · intro h
    obtain ⟨⟨id, hid⟩, ⟨type, htype⟩, hlabel, hrequired⟩ := h
    obtain ⟨label, hlabel⟩ := exists_caption_iff.2 hlabel
    obtain ⟨required, hrequired⟩ := Defaulted.exists_iff.2 hrequired
    exact ⟨⟨id, .known type, label, required⟩, hid, ⟨type, htype, rfl⟩, hlabel, hrequired⟩
  · intro h
    obtain ⟨field, hid, ⟨type, htype, -⟩, hlabel, hrequired⟩ := h
    exact ⟨⟨field.id, hid⟩, ⟨type, htype⟩, exists_caption_iff.1 ⟨_, hlabel⟩, Defaulted.exists_iff.1 ⟨_, hrequired⟩⟩

theorem wellFormed_iff {v : Json} : WellFormed v ↔ ∃ field, SpelledBy v field := by
  simp only [WellFormed, SpelledBy, membersWellFormed_iff]
  rw [exists_comm]
  simp only [exists_and_left]

end Field

/-! ### Pages and actions -/

/-- A group of fields with a name and, if it is not left out, a caption. -/
structure GroupWellFormed (nameKey captionKey : String) (members : List (String × Json)) : Prop where
  name : ∃ name, Json.get? members nameKey = some (.str name)
  caption : ∀ v, Json.get? members captionKey = some v → v = .null ∨ ∃ caption, v = .str caption
  fields : ∀ v, Json.get? members "fields" = some v → ∃ items, v = .arr items ∧ ∀ item ∈ items, Field.WellFormed item

structure GroupSpelledBy (nameKey captionKey : String) (members : List (String × Json)) (name : String)
    (caption : Option String) (fields : List Field) : Prop where
  name : Json.get? members nameKey = some (.str name)
  caption : Defaulted SpellsCaption none (Json.get? members captionKey) caption
  fields : Defaulted (SpellsList Field.SpelledBy) [] (Json.get? members "fields") fields

theorem groupWellFormed_iff {nameKey captionKey : String} {members : List (String × Json)} :
    GroupWellFormed nameKey captionKey members
      ↔ ∃ name caption fields, GroupSpelledBy nameKey captionKey members name caption fields := by
  constructor
  · intro h
    obtain ⟨⟨name, hname⟩, hcaption, hfields⟩ := h
    simp only [Field.wellFormed_iff, ← exists_spellsList_iff] at hfields
    obtain ⟨caption, hcaption⟩ := exists_caption_iff.2 hcaption
    obtain ⟨fields, hfields⟩ := Defaulted.exists_iff.2 hfields
    exact ⟨name, caption, fields, hname, hcaption, hfields⟩
  · intro h
    obtain ⟨name, caption, fields, hname, hcaption, hfields⟩ := h
    refine ⟨⟨name, hname⟩, exists_caption_iff.1 ⟨_, hcaption⟩, ?_⟩
    simp only [Field.wellFormed_iff, ← exists_spellsList_iff]
    exact Defaulted.exists_iff.1 ⟨_, hfields⟩

namespace Page

def WellFormed (v : Json) : Prop :=
  ∃ members, v = .obj members ∧ GroupWellFormed "id" "title" members

def SpelledBy (v : Json) (page : Page) : Prop :=
  ∃ members, v = .obj members ∧ GroupSpelledBy "id" "title" members page.id page.title page.fields

theorem wellFormed_iff {v : Json} : WellFormed v ↔ ∃ page, SpelledBy v page := by
  simp only [WellFormed, SpelledBy, groupWellFormed_iff]
  constructor
  · intro h
    obtain ⟨members, hv, id, title, fields, h⟩ := h
    exact ⟨⟨id, title, fields⟩, members, hv, h⟩
  · intro h
    obtain ⟨page, members, hv, h⟩ := h
    exact ⟨members, hv, page.id, page.title, page.fields, h⟩

end Page

namespace Action

def WellFormed (v : Json) : Prop :=
  ∃ members, v = .obj members ∧ GroupWellFormed "type" "label" members

def SpelledBy (v : Json) (action : Action) : Prop :=
  ∃ members, v = .obj members ∧ GroupSpelledBy "type" "label" members action.type action.label action.fields

theorem wellFormed_iff {v : Json} : WellFormed v ↔ ∃ action, SpelledBy v action := by
  simp only [WellFormed, SpelledBy, groupWellFormed_iff]
  constructor
  · intro h
    obtain ⟨members, hv, type, label, fields, h⟩ := h
    exact ⟨⟨type, label, fields⟩, members, hv, h⟩
  · intro h
    obtain ⟨action, members, hv, h⟩ := h
    exact ⟨members, hv, action.type, action.label, action.fields, h⟩

end Action

/-! ### Events -/

/-- A declaration form, which has pages unless they are left out. -/
def DeclarationWellFormed (v : Json) : Prop :=
  ∃ members, v = .obj members ∧ ∀ w, Json.get? members "pages" = some w →
    ∃ items, w = .arr items ∧ ∀ item ∈ items, Page.WellFormed item

/-- The pages of a declaration form. -/
def SpellsDeclaration (v : Json) (pages : List Page) : Prop :=
  ∃ members, v = .obj members ∧ Defaulted (SpellsList Page.SpelledBy) [] (Json.get? members "pages") pages

theorem declarationWellFormed_iff {v : Json} : DeclarationWellFormed v ↔ ∃ pages, SpellsDeclaration v pages := by
  simp only [DeclarationWellFormed, SpellsDeclaration, Page.wellFormed_iff, ← exists_spellsList_iff]
  rw [exists_comm]
  simp only [exists_and_left, Defaulted.exists_iff]

namespace Event

structure MembersWellFormed (members : List (String × Json)) : Prop where
  id : ∃ id, Json.get? members "id" = some (.str id)
  label : ∀ v, Json.get? members "label" = some v → v = .null ∨ ∃ label, v = .str label
  declaration : ∀ v, Json.get? members "declaration" = some v → DeclarationWellFormed v
  actions : ∀ v, Json.get? members "actions" = some v →
    ∃ items, v = .arr items ∧ ∀ item ∈ items, Action.WellFormed item

def WellFormed (v : Json) : Prop :=
  ∃ members, v = .obj members ∧ MembersWellFormed members

structure MembersSpelledBy (members : List (String × Json)) (event : Event) : Prop where
  id : Json.get? members "id" = some (.str event.id)
  label : Defaulted SpellsCaption none (Json.get? members "label") event.label
  declaration : Defaulted SpellsDeclaration [] (Json.get? members "declaration") event.pages
  actions : Defaulted (SpellsList Action.SpelledBy) [] (Json.get? members "actions") event.actions

def SpelledBy (v : Json) (event : Event) : Prop :=
  ∃ members, v = .obj members ∧ event.MembersSpelledBy members

theorem membersWellFormed_iff {members : List (String × Json)} :
    MembersWellFormed members ↔ ∃ event : Event, event.MembersSpelledBy members := by
  constructor
  · intro h
    obtain ⟨⟨id, hid⟩, hlabel, hdeclaration, hactions⟩ := h
    simp only [declarationWellFormed_iff] at hdeclaration
    simp only [Action.wellFormed_iff, ← exists_spellsList_iff] at hactions
    obtain ⟨label, hlabel⟩ := exists_caption_iff.2 hlabel
    obtain ⟨pages, hpages⟩ := Defaulted.exists_iff.2 hdeclaration
    obtain ⟨actions, hactions⟩ := Defaulted.exists_iff.2 hactions
    exact ⟨⟨id, label, pages, actions⟩, hid, hlabel, hpages, hactions⟩
  · intro h
    obtain ⟨event, hid, hlabel, hpages, hactions⟩ := h
    refine ⟨⟨event.id, hid⟩, exists_caption_iff.1 ⟨_, hlabel⟩, ?_, ?_⟩
    · simp only [declarationWellFormed_iff]
      exact Defaulted.exists_iff.1 ⟨_, hpages⟩
    · simp only [Action.wellFormed_iff, ← exists_spellsList_iff]
      exact Defaulted.exists_iff.1 ⟨_, hactions⟩

theorem wellFormed_iff {v : Json} : WellFormed v ↔ ∃ event, SpelledBy v event := by
  simp only [WellFormed, SpelledBy, membersWellFormed_iff]
  rw [exists_comm]
  simp only [exists_and_left]

end Event

end RegistrySearch
