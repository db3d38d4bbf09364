import RegistrySearch.Config.Path
import RegistrySearch.Text.Utf8

/-!
# Files

The files that configuration is read from: a tree, and the working folder in it, where paths begin that are not absolute. A path is followed part by part, so the first part that cannot be followed decides what is reported.
-/

namespace RegistrySearch

/-- What is allowed with a folder: to open it, and to look for its children. -/
structure FolderRights where
  mayRead : Bool := true
  maySearch : Bool := true
deriving DecidableEq, Repr, Inhabited

inductive FileTree where
  | file (octets : List UInt8)
  /-- A file that may not be read. -/
  | locked
  | folder (children : List (String × FileTree)) (rights : FolderRights := {})
  | link (target : Path)
deriving Inhabited

structure FileSystem where
  root : FileTree
  /-- The names that lead from the root to the working folder. If there is none at their end, it was removed. -/
  workingFolder : List String

inductive ReadFault where
  | missing
  | notAFolder
  | isAFolder
  | notAllowed
  | nameTooLong
  | tooManyLinks
  | nullInName
deriving DecidableEq, Repr

namespace ReadFault

def message : ReadFault → String
  | missing => "[Errno 2] No such file or directory"
  | notAFolder => "[Errno 20] Not a directory"
  | isAFolder => "[Errno 21] Is a directory"
  | notAllowed => "[Errno 13] Permission denied"
  | nameTooLong => "[Errno 36] File name too long"
  | tooManyLinks => "[Errno 40] Too many levels of symbolic links"
  | nullInName => "embedded null byte"

/-- The fault says that nothing lies at the path. After the others something may. -/
def isAbsence : ReadFault → Bool
  | missing | notAFolder | tooManyLinks | nullInName => true
  | isAFolder | notAllowed | nameTooLong => false

end ReadFault

/-- A place in a tree: what lies there, and the folders around it, innermost first. -/
structure Place where
  here : FileTree
  around : List FileTree

def maxPartSize : Nat := 255

def maxPathSize : Nat := 4095

def maxLinks : Nat := 40

def octetCount (text : String) : Nat := (Utf8.encode text.toList).length

namespace Place

def parent (place : Place) : Place :=
  match place.around with
  | [] => place
  | folder :: around => ⟨folder, around⟩

def child? (place : Place) (name : String) : Option Place :=
  match place.here with
  | .folder children _ => (children.lookup name).map fun child => ⟨child, place.here :: place.around⟩
  | _ => none

def enter (place : Place) (part : String) : Except ReadFault Place :=
  match place.here with
  | .folder _ rights =>
    if !rights.maySearch then .error .notAllowed
    else if maxPartSize < octetCount part then .error .nameTooLong
    else if part = ".." then .ok place.parent
    else match place.child? part with
      | some child => .ok child
      | none => .error .missing
  | _ => .error .notAFolder

/-- The place at the end of some parts of a path; `jump` goes on from a link with the parts behind it. -/
def walk (jump : Place → Path → List String → Except ReadFault Place) (place : Place) :
    List String → Except ReadFault Place
  | [] => .ok place
  | part :: rest => do
    let next ← place.enter part
    match next.here with
    | .link target => jump place target rest
    | _ => walk jump next rest

/-- The place at the end of some parts of a path, with the target of each link in its place. -/
def follow (root : Place) : (links : Nat) → Place → List String → Except ReadFault Place
  | 0 => walk fun _ _ _ => .error .tooManyLinks
  | links + 1 => walk fun folder target rest =>
    follow root links (if target.isAbsolute then root else folder) (target.parts ++ rest)

end Place

namespace FileSystem

def start (files : FileSystem) (path : Path) : Except ReadFault Place :=
  let root : Place := ⟨files.root, []⟩
  if path.isAbsolute then .ok root
  else match files.workingFolder.foldlM Place.child? root with
    | some place => .ok place
    | none => .error .missing

def find (files : FileSystem) (path : Path) : Except ReadFault FileTree :=
  if '\x00' ∈ path.text.toList then .error .nullInName
  else if maxPathSize < octetCount path.text then .error .nameTooLong
  else do
    let place ← Place.follow ⟨files.root, []⟩ maxLinks (← files.start path) path.parts
    return place.here

/-- Whether something lies at a path, unless that cannot be told. -/
def exists? (files : FileSystem) (path : Path) : Except ReadFault Bool :=
  match files.find path with
  | .ok _ => .ok true
  | .error fault => if fault.isAbsence then .ok false else .error fault

def read (files : FileSystem) (path : Path) : Except ReadFault (List UInt8) := do
  match ← files.find path with
  | .file octets => return octets
  | .locked => throw .notAllowed
  | .folder _ rights => throw (if rights.mayRead then .isAFolder else .notAllowed)
  | .link _ => throw .tooManyLinks

end FileSystem

end RegistrySearch
