import RegistrySearch.Json.Basic

/-!
# JSON text as far as it can be read

A catalog that comes as text is checked while it is read: a misplaced value is reported even if the text breaks off later, and every occurrence of a repeated key is checked. `Draft` is what a reading of a text yields, in the order of the text and with a mark at the place where the text stops being JSON. Two things can be done with it: take the value, if the text is complete (`Draft.value`), or check it against a model part by part.

A value that was decoded elsewhere is a draft too (`Draft.ofJson`), so that one set of checks serves both.
-/

namespace RegistrySearch

inductive TextFault where
  | notJson
  | notUtf8
deriving DecidableEq, Repr

/-- A text as far as it is JSON. A string that is not UTF-8 has no content. -/
inductive Draft where
  | null
  | bool (value : Bool)
  | int (value : Int)
  /-- An integer of a text that does not fit in 64 bits. -/
  | wideInt (value : Int)
  | float (value : Binary64)
  | str (content : Option String)
  | brokenString
  /-- The items of an array; it is closed unless the text breaks off in it. -/
  | arr (items : List Draft) (closed : Bool)
  | obj (members : List (Option String × Draft)) (closed : Bool)
  | broken
deriving Inhabited

namespace Draft

/-- The kind of a value that starts here, if one does: a string has to be one to its end. An integer of more than 64 bits is looked at as a number with a fraction is. -/
def kind? : Draft → Option ValueKind
  | null => some .null
  | bool _ => some .bool
  | int _ => some .int
  | wideInt _ => some .float
  | float _ => some .float
  | str _ => some .text
  | brokenString => none
  | arr .. => some .list
  | obj .. => some .map
  | broken => none

/-- The draft of an integer in a text. Without a sign 64 bits reach up to `2 ^ 64`, with one down to `-2 ^ 63`. -/
def ofInteger (n : Int) : Draft :=
  if -0x8000000000000000 ≤ n ∧ n < 0x10000000000000000 then int n else wideInt n

mutual

def ofJson : Json → Draft
  | .null => null
  | .bool b => bool b
  | .int n => int n
  | .float x => float x
  | .str s => str (some s)
  | .arr items => arr (ofItems items) true
  | .obj members => obj (ofMembers members) true

def ofItems : List Json → List Draft
  | [] => []
  | item :: rest => ofJson item :: ofItems rest

def ofMembers : List (String × Json) → List (Option String × Draft)
  | [] => []
  | (key, value) :: rest => (some key, ofJson value) :: ofMembers rest

end

def closing (closed : Bool) : Except TextFault Unit :=
  if closed then .ok () else .error .notJson

mutual

/-- The value of a complete text, or the first fault in the order of the text. A repeated key keeps its first place and its last value. -/
def value : Draft → Except TextFault Json
  | null => .ok .null
  | bool b => .ok (.bool b)
  | int n => .ok (.int n)
  | wideInt n => .ok (.int n)
  | float x => .ok (.float x)
  | str (some s) => .ok (.str s)
  | str none => .error .notUtf8
  | brokenString => .error .notJson
  | arr items closed => do
    let values ← itemValues items
    closing closed
    return .arr values
  | obj members closed => do
    let values ← memberValues [] members
    closing closed
    return .obj values
  | broken => .error .notJson

def itemValues : List Draft → Except TextFault (List Json)
  | [] => .ok []
  | item :: rest => do
    let v ← value item
    let vs ← itemValues rest
    return v :: vs

def memberValues (before : List (String × Json)) :
    List (Option String × Draft) → Except TextFault (List (String × Json))
  | [] => .ok before
  | (none, _) :: _ => .error .notUtf8
  | (some key, d) :: rest => do
    let v ← value d
    memberValues (Json.put before key v) rest

end

mutual

/-- Passes over a value that no model asks for. Its grammar counts, the content of its strings does not. -/
def skip : Draft → Except TextFault Unit
  | arr items closed => do
    skipItems items
    closing closed
  | obj members closed => do
    skipMembers members
    closing closed
  | brokenString => .error .notJson
  | broken => .error .notJson
  | _ => .ok ()

def skipItems : List Draft → Except TextFault Unit
  | [] => .ok ()
  | item :: rest => do
    skip item
    skipItems rest

def skipMembers : List (Option String × Draft) → Except TextFault Unit
  | [] => .ok ()
  | (_, d) :: rest => do
    skip d
    skipMembers rest

end

end Draft

end RegistrySearch
