/-!
# A place in a YAML text

The rest of the text and how far the place is from the start of the text and of its line. Nesting in YAML is told by columns, and how far a key may reach by lines and distances, so every step forward keeps count.
-/

namespace RegistrySearch

namespace Yaml

def isBreak (c : Char) : Bool :=
  c = '\n' || c = '\x85' || c = '\u2028' || c = '\u2029'

def isBlank (c : Char) : Bool :=
  c = ' ' || c = '\t'

def isBreakOrEnd : Option Char → Bool
  | some c => isBreak c
  | none => true

def isSpaceOrEnd : Option Char → Bool
  | some c => isBlank c || isBreak c
  | none => true

/-- The mark that some texts start with; it has no width. -/
def byteOrderMark : Char := '\uFEFF'

structure Cursor where
  rest : List Char
  index : Nat := 0
  line : Nat := 0
  column : Nat := 0
deriving Repr, Inhabited

namespace Cursor

def peek? (c : Cursor) : Option Char := c.rest.head?

def peekAt? (c : Cursor) (n : Nat) : Option Char := c.rest[n]?

def next (c : Cursor) : Cursor :=
  match c.rest with
  | [] => c
  | ch :: rest =>
    if isBreak ch then ⟨rest, c.index + 1, c.line + 1, 0⟩
    else ⟨rest, c.index + 1, c.line, if ch = byteOrderMark then c.column else c.column + 1⟩

def forward : Nat → Cursor → Cursor
  | 0, c => c
  | n + 1, c => forward n c.next

/-- The characters up to the first one that fails a test. -/
def run (c : Cursor) (p : Char → Bool) : List Char := c.rest.takeWhile p

/-- The place after the characters that pass a test. -/
def skip (c : Cursor) (p : Char → Bool) : Cursor := c.forward (c.run p).length

/-- The line break at this place, as it counts in a text, and the place after it. -/
def lineBreak? (c : Cursor) : Option (Char × Cursor) :=
  match c.peek? with
  | some '\u2028' => some ('\u2028', c.next)
  | some '\u2029' => some ('\u2029', c.next)
  | some ch => if isBreak ch then some ('\n', c.next) else none
  | none => none

/-- A run of hyphens or dots that separates documents is here. -/
def isSeparator (c : Cursor) (mark : Char) : Bool :=
  c.rest.take 3 == [mark, mark, mark] && isSpaceOrEnd (c.peekAt? 3)

def isDocumentMark (c : Cursor) : Bool :=
  c.isSeparator '-' || c.isSeparator '.'

end Cursor

end Yaml

end RegistrySearch
