/-!
# Code points

A text whose escapes name code points may hold halves of surrogate pairs, which are no characters. `CodePoint` is a character or such a half. A text of them has a string if it holds no halves.
-/

namespace RegistrySearch

inductive CodePoint where
  | char (c : Char)
  /-- Half of a surrogate pair. -/
  | half (number : Nat)
deriving DecidableEq, Repr, Inhabited

namespace CodePoint

/-- The number after the greatest code point. -/
def bound : Nat := 0x110000

def ofNumber? (n : Nat) : Option CodePoint :=
  if n.isValidChar then some (char (Char.ofNat n))
  else if n < bound then some (half n)
  else none

def number : CodePoint → Nat
  | char c => c.toNat
  | half n => n

def char? : CodePoint → Option Char
  | char c => some c
  | half _ => none

def any (p : Char → Bool) : CodePoint → Bool
  | char c => p c
  | half _ => false

/-- A half that starts a pair. -/
def isHigh (n : Nat) : Bool := 0xD800 ≤ n && n < 0xDC00

/-- A half that ends a pair. -/
def isLow (n : Nat) : Bool := 0xDC00 ≤ n && n < 0xE000

def ofChars (text : List Char) : List CodePoint := text.map char

def chars? (text : List CodePoint) : Option (List Char) := text.mapM char?

end CodePoint

end RegistrySearch
