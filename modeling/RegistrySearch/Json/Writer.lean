import RegistrySearch.Json.Basic
import RegistrySearch.Number.Decimal

/-!
# Writing JSON text

The compact form: no white space, members in their order, and in strings only what must be escaped. A quote, a backslash and the control characters with a short escape get it, other control characters are written with four hexadecimal digits, and every other character stands for itself.
-/

namespace RegistrySearch

namespace Json

def writeChar (c : Char) : List Char :=
  if c = '"' then ['\\', '"']
  else if c = '\\' then ['\\', '\\']
  else if c = '\x08' then ['\\', 'b']
  else if c = '\x0c' then ['\\', 'f']
  else if c = '\n' then ['\\', 'n']
  else if c = '\r' then ['\\', 'r']
  else if c = '\t' then ['\\', 't']
  else if c.toNat < 0x20 then ['\\', 'u', '0', '0', Nat.digitChar (c.toNat / 16), Nat.digitChar (c.toNat % 16)]
  else [c]

def writeString (s : String) : List Char :=
  '"' :: (s.toList.flatMap writeChar ++ ['"'])

def writeInt (n : Int) : List Char :=
  if n < 0 then '-' :: Nat.toDigits 10 n.natAbs else Nat.toDigits 10 n.natAbs

/-- Numbers are written positionally from `10 ^ (-5)` up to below `10 ^ 16`, and otherwise with a bare exponent. -/
def numberLayout : Decimal.Layout where
  minPoint := -4
  maxPoint := 16
  exponentPlus := ""
  exponentWidth := 1

def writeFloat : Binary64 → List Char
  | .finite negative mantissa exponent => (numberLayout.number negative mantissa exponent).toList
  | _ => ['n', 'u', 'l', 'l']

mutual

def write : Json → List Char
  | null => ['n', 'u', 'l', 'l']
  | bool true => ['t', 'r', 'u', 'e']
  | bool false => ['f', 'a', 'l', 's', 'e']
  | int n => writeInt n
  | float x => writeFloat x
  | str s => writeString s
  | arr items => '[' :: (writeItems items ++ [']'])
  | obj members => '{' :: (writeMembers members ++ ['}'])

def writeItems : List Json → List Char
  | [] => []
  | [item] => write item
  | item :: rest => write item ++ ',' :: writeItems rest

def writeMembers : List (String × Json) → List Char
  | [] => []
  | [(key, value)] => writeString key ++ ':' :: write value
  | (key, value) :: rest => writeString key ++ ':' :: (write value ++ ',' :: writeMembers rest)

end

def text (v : Json) : String :=
  String.ofList v.write

end Json

end RegistrySearch
