import RegistrySearch.Number.Digit
import RegistrySearch.Text.Utf8
import RegistrySearch.Yaml.Cursor
import RegistrySearch.Yaml.Fault

/-!
# The text of tags and directives

A tag says what kind of thing a node is. It is written out in angle brackets, or as a handle, a name between exclamation marks that stands for the start of the tag, and the rest of it. Directives stand before a document, each in a line of its own: one gives the version of YAML, others say what handles stand for, and those with other names are passed over.
-/

namespace RegistrySearch

namespace Yaml

structure TagText where
  /-- The handle, if the tag is not written out. -/
  handle : Option String
  suffix : String
deriving DecidableEq, Repr

inductive Directive where
  | version (major minor : Nat)
  | handle (handle start : String)
  | unknown
deriving DecidableEq, Repr

/-- The tag that says nothing. -/
def TagText.bare : TagText := ⟨none, "!"⟩

/-- A character of the names of handles, directives, anchors and aliases. -/
def isNameCharacter (c : Char) : Bool :=
  c.isAlphanum || c = '-' || c = '_'

def isTagCharacter (c : Char) : Bool :=
  c.isAlphanum || c ∈ ['-', ';', '/', '?', ':', '@', '&', '=', '+', '$', ',', '_', '.', '!', '~', '*', '\'', '(', ')', '[', ']']

def isApart : Option Char → Bool
  | some c => c = ' ' || isBreak c
  | none => true

/-! ### Tags -/

def escapedOctets : (steps : Nat) → Cursor → Option (List UInt8 × Cursor)
  | 0, c => some ([], c)
  | steps + 1, c =>
    if c.peek? = some '%' then do
      let digits := c.next.rest.take 2
      if digits.length = 2 ∧ digits.all (Digit.value? · |>.isSome) then
        let (others, c) ← escapedOctets steps (c.forward 3)
        return (UInt8.ofNat (Digit.number 16 digits) :: others, c)
      else none
    else some ([], c)

def tagCharacters : (steps : Nat) → Cursor → Option (List Char × Cursor)
  | 0, _ => none
  | steps + 1, c =>
    let plain := c.run isTagCharacter
    let after := c.skip isTagCharacter
    if after.peek? = some '%' then do
      let (octets, c) ← escapedOctets after.rest.length after
      let escaped ← Utf8.decode? octets
      let (others, c) ← tagCharacters steps c
      return (plain ++ escaped ++ others, c)
    else some (plain, after)

def tagPart (c : Cursor) : Option (String × Cursor) := do
  let (text, after) ← tagCharacters (c.rest.length + 1) c
  if text.isEmpty then none else return (String.ofList text, after)

/-- The handle at this place: one exclamation mark before a space, or two with a name between them. -/
def handle (c : Cursor) : Option (String × Cursor) :=
  if c.peek? ≠ some '!' then none
  else if c.peekAt? 1 = some ' ' then some ("!", c.next)
  else
    let name := c.next.run isNameCharacter
    let after := c.next.skip isNameCharacter
    if after.peek? = some '!' then some (String.ofList ('!' :: name ++ ['!']), after.next) else none

/-- The tag at this place. A space or the end of a line has to follow. -/
def tagText (c : Cursor) : Option (TagText × Cursor) := do
  let (tag, c) ←
    if c.peekAt? 1 = some '<' then do
      let (suffix, c) ← tagPart (c.forward 2)
      if c.peek? = some '>' then some (⟨none, suffix⟩, c.next) else none
    else if isSpaceOrEnd (c.peekAt? 1) then some (TagText.bare, c.next)
    else if '!' ∈ c.next.run (fun ch => !isApart (some ch)) then do
      let (handle, c) ← handle c
      let (suffix, c) ← tagPart c
      some (⟨some handle, suffix⟩, c)
    else do
      let (suffix, c) ← tagPart c.next
      some (⟨some "!", suffix⟩, c)
  if isApart c.peek? then return (tag, c) else none

/-! ### Directives -/

def versionNumber (c : Cursor) : Outcome (Nat × Cursor) :=
  let digits := c.run Digit.isDecimal
  if digits.isEmpty then .error .malformed
  else if maxDigits < digits.length then .error (.tooManyDigits digits.length)
  else .ok (Digit.number 10 digits, c.skip Digit.isDecimal)

def versionDirective (c : Cursor) : Outcome (Directive × Cursor) := do
  let (major, c) ← versionNumber (c.skip (· = ' '))
  if c.peek? ≠ some '.' then throw .malformed
  let (minor, c) ← versionNumber c.next
  if isApart c.peek? then return (.version major minor, c) else throw .malformed

def handleDirective (c : Cursor) : Option (Directive × Cursor) := do
  let (handle, c) ← handle (c.skip (· = ' '))
  if c.peek? ≠ some ' ' then none
  let (start, c) ← tagPart (c.skip (· = ' '))
  if isApart c.peek? then return (.handle handle start, c) else none

/-- The directive after a percent sign, and the rest of its line, which may hold a comment. -/
def directive (c : Cursor) : Outcome (Directive × Cursor) := do
  let name := c.run isNameCharacter
  let after := c.skip isNameCharacter
  if name.isEmpty || !isApart after.peek? then throw .malformed
  let (directive, c) ← match String.ofList name with
    | "YAML" => versionDirective after
    | "TAG" => orMalformed (handleDirective after)
    | _ => pure (.unknown, after.skip fun ch => !isBreak ch)
  let c := c.skip (· = ' ')
  let c := if c.peek? = some '#' then c.skip fun ch => !isBreak ch else c
  if isBreakOrEnd c.peek? then
    return (directive, match c.lineBreak? with
      | some (_, c) => c
      | none => c)
  else throw .malformed

end Yaml

end RegistrySearch
