import RegistrySearch.Json.Basic
import RegistrySearch.Text.Quoted

/-!
# Event catalogs

An event, such as a birth, is configured by the form fields that are collected for it, on the pages of its declaration form and with the actions on it. A field id may be declared more than once. The first declaration counts, pages before actions (`Event.uniqueFields`).
-/

namespace RegistrySearch

inductive FieldType where
  | text
  | name
  | number
  | email
  | phone
  | id
  | date
  | dateRange
  | address
  | location
  | facility
  | office
  | administrativeArea
  | select
  | radioGroup
  | checkbox
  | file
  | signature
  | paragraph
  | divider
deriving DecidableEq, Repr

namespace FieldType

def all : List FieldType :=
  [text, name, number, email, phone, id, date, dateRange, address, location, facility, office,
    administrativeArea, select, radioGroup, checkbox, file, signature, paragraph, divider]

def label : FieldType → String
  | text => "TEXT"
  | name => "NAME"
  | number => "NUMBER"
  | email => "EMAIL"
  | phone => "PHONE"
  | id => "ID"
  | date => "DATE"
  | dateRange => "DATE_RANGE"
  | address => "ADDRESS"
  | location => "LOCATION"
  | facility => "FACILITY"
  | office => "OFFICE"
  | administrativeArea => "ADMINISTRATIVE_AREA"
  | select => "SELECT"
  | radioGroup => "RADIO_GROUP"
  | checkbox => "CHECKBOX"
  | file => "FILE"
  | signature => "SIGNATURE"
  | paragraph => "PARAGRAPH"
  | divider => "DIVIDER"

def ofLabel? (label : String) : Option FieldType :=
  all.find? fun type => type.label == label

def unknownMessage (label : String) : String :=
  Quoted.text label ++ " is not a valid FieldType"

end FieldType

/-- A known type, or a bare name that was not looked up. The two are never equal, even if the name is that of the type. -/
inductive FieldKind where
  | known (type : FieldType)
  | named (label : String)
deriving DecidableEq, Repr

namespace FieldKind

def label : FieldKind → String
  | known type => type.label
  | named label => label

def isName : FieldKind → Bool
  | known type => type = .name
  | named label => label = FieldType.name.label

end FieldKind

structure Field where
  id : String
  kind : FieldKind
  label : Option String := none
  required : Bool := false
deriving DecidableEq, Repr

structure Page where
  id : String
  title : Option String := none
  fields : List Field := []
deriving DecidableEq, Repr

structure Action where
  type : String
  label : Option String := none
  fields : List Field := []
deriving DecidableEq, Repr

structure Event where
  id : String
  label : Option String := none
  pages : List Page := []
  actions : List Action := []
deriving DecidableEq, Repr

/-- The elements of a list without those whose key an earlier element has. -/
def distinctBy {α β : Type} [DecidableEq β] (key : α → β) : List α → List α
  | [] => []
  | x :: rest => x :: (distinctBy key rest).filter fun y => key y ≠ key x

namespace Event

def actionFields (event : Event) : List Field :=
  event.actions.flatMap Action.fields

/-- Every field of an event, those of the declaration pages first. -/
def fields (event : Event) : List Field :=
  event.pages.flatMap Page.fields ++ event.actionFields

/-- The fields of an event, each id in its first declaration. -/
def uniqueFields (event : Event) : List Field :=
  distinctBy Field.id event.fields

def mapFields (f : Field → Field) (event : Event) : Event :=
  { event with
    pages := event.pages.map fun page => { page with fields := page.fields.map f }
    actions := event.actions.map fun action => { action with fields := action.fields.map f } }

end Event

/-- The collections of a catalog that is still being edited may change, so what is found out about it must not be remembered. -/
structure Catalog where
  events : List Event
  editable : Bool := false
deriving DecidableEq, Repr, Inhabited

namespace Catalog

def empty : Catalog := ⟨[], false⟩

/-- The catalog opened for editing. An empty one has no collections that could change. -/
def edited (catalog : Catalog) : Catalog :=
  { catalog with editable := !catalog.events.isEmpty }

def withNamedTypes (catalog : Catalog) : Catalog :=
  { catalog with
    events := catalog.events.map (Event.mapFields fun field => { field with kind := .named field.kind.label }) }

def concat (catalogs : List Catalog) : Catalog where
  events := catalogs.flatMap Catalog.events
  editable := catalogs.any Catalog.editable

end Catalog

/-! ### Wire form -/

namespace Field

def toJson (field : Field) : Json :=
  .obj [("id", .str field.id), ("type", .str field.kind.label), ("label", Json.ofOption field.label),
    ("required", .bool field.required)]

end Field

namespace Page

def toJson (page : Page) : Json :=
  .obj [("id", .str page.id), ("title", Json.ofOption page.title), ("fields", .arr (page.fields.map Field.toJson))]

end Page

namespace Action

def toJson (action : Action) : Json :=
  .obj [("type", .str action.type), ("label", Json.ofOption action.label),
    ("fields", .arr (action.fields.map Field.toJson))]

end Action

namespace Event

def members (event : Event) : List (String × Json) :=
  [("id", .str event.id), ("label", Json.ofOption event.label),
    ("declaration", .obj [("pages", .arr (event.pages.map Page.toJson))]),
    ("actions", .arr (event.actions.map Action.toJson))]

def toJson (event : Event) : Json :=
  .obj event.members

/-- The wire form without members of the event itself that are null; its parts keep theirs. -/
def toRecord (event : Event) : Json :=
  .obj (event.members.filter fun member => member.2.kind ≠ .null)

end Event

end RegistrySearch
