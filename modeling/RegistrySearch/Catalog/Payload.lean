import RegistrySearch.Catalog.Event
import RegistrySearch.Payload.Basic
import RegistrySearch.Payload.Fault

/-!
# Catalog payloads

Reading catalogs. A catalog that comes as text is checked while the text is read, so the first fault in the order of the text is the one reported, be it a misplaced value or the end of the JSON. A value that was decoded already is checked in the same way, as a draft that is complete. Of a repeated key every occurrence is checked and the last one counts; unknown keys are passed over, and so is what they hold.
-/

namespace RegistrySearch

inductive CatalogFailure where
  | unreadable (fault : TextFault)
  | invalid (fault : Fault)
  /-- A decoded payload has no parts that could be events. -/
  | noParts (kind : ValueKind)
deriving DecidableEq

namespace CatalogFailure

def message : CatalogFailure → String
  | unreadable _ => "Invalid event catalog"
  | invalid fault => "Invalid event catalog: " ++ fault.message
  | noParts kind => "'" ++ kind.tagName ++ "' object is not iterable"

/-- A failure of a part, as one of the whole. -/
def within (step : Step) : CatalogFailure → CatalogFailure
  | invalid fault => invalid (fault.within step)
  | failure => failure

end CatalogFailure

namespace Draft

abbrev Outcome (α : Type) := Except CatalogFailure α

def under {α : Type} (step : Step) (outcome : Outcome α) : Outcome α :=
  outcome.mapError (CatalogFailure.within step)

def misplaced (expected : Expectation) (d : Draft) : CatalogFailure :=
  match d.kind? with
  | some kind => .invalid (Fault.here (.unexpected expected kind))
  | none => .unreadable .notJson

def ignore (d : Draft) : Outcome Unit :=
  d.skip.mapError .unreadable

def textFor (expected : Expectation) : Draft → Outcome String
  | str (some s) => .ok s
  | str none => .error (.unreadable .notUtf8)
  | d => .error (d.misplaced expected)

def asText (d : Draft) : Outcome String :=
  d.textFor .text

def asTextOrNull : Draft → Outcome (Option String)
  | null => .ok none
  | d => some <$> d.textFor .textOrNull

def asFlag : Draft → Outcome Bool
  | bool b => .ok b
  | d => .error (d.misplaced .flag)

def asFieldKind (d : Draft) : Outcome FieldKind := do
  let label ← d.asText
  match FieldType.ofLabel? label with
  | some type => return .known type
  | none => throw (.invalid (Fault.here (.unknownName label)))

def itemsFrom {α : Type} (item : Draft → Outcome α) (index : Nat) : List Draft → Outcome (List α)
  | [] => .ok []
  | d :: rest => do
    let x ← under (.item index) (item d)
    let xs ← itemsFrom item (index + 1) rest
    return x :: xs

def asList {α : Type} (item : Draft → Outcome α) : Draft → Outcome (List α)
  | arr items closed => do
    let xs ← itemsFrom item 0 items
    (closing closed).mapError .unreadable
    return xs
  | d => .error (d.misplaced .list)

/-- Checks members in order. A key that is not UTF-8 is no key of a model. -/
def checkMembers (member : String → Draft → Outcome Unit) : List (Option String × Draft) → Outcome Unit
  | [] => .ok ()
  | (none, d) :: rest => do
    d.ignore
    checkMembers member rest
  | (some key, d) :: rest => do
    under (.member key) (member key d)
    checkMembers member rest

/-- The value of a key, the last one if it is repeated. -/
def last? (members : List (Option String × Draft)) (key : String) : Option Draft :=
  members.reverse.lookup (some key)

def required {α : Type} (read : Draft → Outcome α) (members : List (Option String × Draft)) (key : String) :
    Outcome α :=
  match last? members key with
  | none => .error (.invalid (Fault.here (.missing key)))
  | some d => under (.member key) (read d)

def withDefault {α : Type} (default : α) (read : Draft → Outcome α) (members : List (Option String × Draft))
    (key : String) : Outcome α :=
  match last? members key with
  | none => .ok default
  | some d => under (.member key) (read d)

/-- The object at this place: its members are checked in order, then `build` looks up what it needs. -/
def asObject {α : Type} (member : String → Draft → Outcome Unit)
    (build : List (Option String × Draft) → Outcome α) : Draft → Outcome α
  | obj members closed => do
    checkMembers member members
    (closing closed).mapError .unreadable
    build members
  | d => .error (d.misplaced .map)

/-! ### The parts of a catalog -/

def fieldMember (key : String) (d : Draft) : Outcome Unit :=
  match key with
  | "id" => d.asText *> .ok ()
  | "type" => d.asFieldKind *> .ok ()
  | "label" => d.asTextOrNull *> .ok ()
  | "required" => d.asFlag *> .ok ()
  | _ => d.ignore

def asField : Draft → Outcome Field :=
  asObject fieldMember fun members => do
    return {
      id := ← required asText members "id"
      kind := ← required asFieldKind members "type"
      label := ← withDefault none asTextOrNull members "label"
      required := ← withDefault false asFlag members "required" }

def pageMember (key : String) (d : Draft) : Outcome Unit :=
  match key with
  | "id" => d.asText *> .ok ()
  | "title" => d.asTextOrNull *> .ok ()
  | "fields" => d.asList asField *> .ok ()
  | _ => d.ignore

def asPage : Draft → Outcome Page :=
  asObject pageMember fun members => do
    return {
      id := ← required asText members "id"
      title := ← withDefault none asTextOrNull members "title"
      fields := ← withDefault [] (asList asField) members "fields" }

def declarationMember (key : String) (d : Draft) : Outcome Unit :=
  match key with
  | "pages" => d.asList asPage *> .ok ()
  | _ => d.ignore

def asDeclaration : Draft → Outcome (List Page) :=
  asObject declarationMember fun members => withDefault [] (asList asPage) members "pages"

def actionMember (key : String) (d : Draft) : Outcome Unit :=
  match key with
  | "type" => d.asText *> .ok ()
  | "label" => d.asTextOrNull *> .ok ()
  | "fields" => d.asList asField *> .ok ()
  | _ => d.ignore

def asAction : Draft → Outcome Action :=
  asObject actionMember fun members => do
    return {
      type := ← required asText members "type"
      label := ← withDefault none asTextOrNull members "label"
      fields := ← withDefault [] (asList asField) members "fields" }

def eventMember (key : String) (d : Draft) : Outcome Unit :=
  match key with
  | "id" => d.asText *> .ok ()
  | "label" => d.asTextOrNull *> .ok ()
  | "declaration" => d.asDeclaration *> .ok ()
  | "actions" => d.asList asAction *> .ok ()
  | _ => d.ignore

def asEvent : Draft → Outcome Event :=
  asObject eventMember fun members => do
    return {
      id := ← required asText members "id"
      label := ← withDefault none asTextOrNull members "label"
      pages := ← withDefault [] asDeclaration members "declaration"
      actions := ← withDefault [] (asList asAction) members "actions" }

def asEvents : Draft → Outcome (List Event) :=
  asList asEvent

end Draft

def Event.ofJson (v : Json) : Except CatalogFailure Event :=
  (Draft.ofJson v).asEvent

namespace Catalog

def ofReading (r : Json.Reading) : Except CatalogFailure Catalog := do
  let events ← r.draft.asEvents
  (Draft.closing r.clean).mapError .unreadable
  return ⟨events, false⟩

def ofList (items : List Json) : Except CatalogFailure Catalog := do
  let events ← (Draft.ofJson (.arr items)).asEvents
  return ⟨events, false⟩

/-- The catalog that a payload describes. The parts of a decoded object are its keys. -/
def parse : Payload → Except CatalogFailure Catalog
  | .text text => ofReading (Json.reading (Json.symbols text))
  | .octets octets => ofReading (Json.reading (Utf8.pieces octets))
  | .value (.str text) => ofReading (Json.reading (Json.symbols text))
  | .value (.arr items) => ofList items
  | .value (.obj members) => ofList (members.map fun member => .str member.1)
  | .value v => .error (.noParts v.kind)

end Catalog

end RegistrySearch
