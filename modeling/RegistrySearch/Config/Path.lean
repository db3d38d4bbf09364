import RegistrySearch.Text.Split

/-!
# Paths

Paths of files in a normal form: empty and single-dot parts vanish, double-dot parts and tildes stay. A path with exactly two slashes in front is not the same as one with one slash.
-/

namespace RegistrySearch

/-- A path: the slashes in front, if it is absolute, and its parts. -/
structure Path where
  root : String
  parts : List String
deriving DecidableEq, Repr, Inhabited

namespace Path

/-- The slashes in front of a path, as far as they count. -/
def rootOf : List Char → String
  | '/' :: '/' :: '/' :: _ => "/"
  | '/' :: '/' :: _ => "//"
  | '/' :: _ => "/"
  | _ => ""

def ofText (text : String) : Path where
  root := rootOf text.toList
  parts := ((splitAtEach '/' text.toList).map String.ofList).filter fun part => part ≠ "" ∧ part ≠ "."

def isAbsolute (path : Path) : Bool := !path.root.isEmpty

def join (base path : Path) : Path :=
  if path.isAbsolute then path else { base with parts := base.parts ++ path.parts }

def text (path : Path) : String :=
  let joined := path.root ++ "/".intercalate path.parts
  if joined.isEmpty then "." else joined

end Path

end RegistrySearch
