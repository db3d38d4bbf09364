/-!
# UTF-8

Octets as characters. A reader of text has to know where octets are not UTF-8, because the same octets are a fault of one kind inside a quoted string and of another kind outside, so `pieces` keeps a mark for every octet that belongs to no character. An octet below 128 always stands for itself.
-/

namespace RegistrySearch

namespace Utf8

def leading (octets : List UInt8) : Option Char :=
  (octets.take 4).toByteArray.utf8DecodeChar? 0

/-- The characters of a sequence of octets after the first `skip` ones, with `none` for each octet that no character starts at or runs through. -/
def piecesAfter : (skip : Nat) → List UInt8 → List (Option Char)
  | _, [] => []
  | skip + 1, _ :: rest => piecesAfter skip rest
  | 0, octet :: rest =>
    match leading (octet :: rest) with
    | some c => some c :: piecesAfter (c.utf8Size - 1) rest
    | none => none :: piecesAfter 0 rest

def pieces (octets : List UInt8) : List (Option Char) :=
  piecesAfter 0 octets

/-- The characters of octets that are UTF-8 throughout. -/
def decode? (octets : List UInt8) : Option (List Char) :=
  (pieces octets).mapM id

def encode (text : List Char) : List UInt8 :=
  text.flatMap String.utf8EncodeChar

end Utf8

end RegistrySearch
