import RegistrySearch.Json.Basic
import RegistrySearch.Number.Decimal
import RegistrySearch.Text.CodePoint
import RegistrySearch.Text.Printable

/-!
# Quoted form

How messages show a value. A string stands between single quotes, or between double quotes if it holds a single quote and no double one. The backslash, the quote in use and the characters that are not printable are escaped, the rest stands for itself. Other values are shown by their words `None`, `True` and `False`, their digits, or their parts in brackets.
-/

namespace RegistrySearch

namespace Quoted

/-- The last `width` hexadecimal digits of a number, in lower case. -/
def hexDigits : (width : Nat) → Nat → List Char
  | 0, _ => []
  | width + 1, n => hexDigits width (n / 16) ++ [Nat.digitChar (n % 16)]

def char (quote c : Char) : List Char :=
  if c = quote ∨ c = '\\' then ['\\', c]
  else if c = '\n' then ['\\', 'n']
  else if c = '\r' then ['\\', 'r']
  else if c = '\t' then ['\\', 't']
  else if Printable.isPrintable c then [c]
  else if c.toNat < 0x100 then '\\' :: 'x' :: hexDigits 2 c.toNat
  else if c.toNat < 0x10000 then '\\' :: 'u' :: hexDigits 4 c.toNat
  else '\\' :: 'U' :: hexDigits 8 c.toNat

/-- The quote that a string is put between. -/
def quoteOf (s : List Char) : Char :=
  if '\'' ∈ s ∧ '"' ∉ s then '"' else '\''

def text (s : String) : String :=
  let quote := quoteOf s.toList
  String.ofList (quote :: (s.toList.flatMap (char quote) ++ [quote]))

/-- A code point between quotes. Half of a pair is not printable. -/
def codePoint (quote : Char) : CodePoint → List Char
  | .char c => char quote c
  | .half n => '\\' :: 'u' :: hexDigits 4 n

def codePoints (s : List CodePoint) : String :=
  let quote := quoteOf (s.filterMap CodePoint.char?)
  String.ofList (quote :: (s.flatMap (codePoint quote) ++ [quote]))

/-- Numbers are shown positionally from `10 ^ (-4)` up to below `10 ^ 16`, and otherwise with a signed exponent of at least two digits. -/
def numberLayout : Decimal.Layout where
  minPoint := -3
  maxPoint := 16
  exponentPlus := "+"
  exponentWidth := 2

def float : Binary64 → String
  | .nan => "nan"
  | .infinite negative => if negative then "-inf" else "inf"
  | .finite negative mantissa exponent => numberLayout.number negative mantissa exponent

def joined (parts : List String) : String :=
  ", ".intercalate parts

mutual

def value : Json → String
  | .null => "None"
  | .bool true => "True"
  | .bool false => "False"
  | .int n => toString n
  | .float x => float x
  | .str s => text s
  | .arr items => "[" ++ joined (valueItems items) ++ "]"
  | .obj members => "\x7b" ++ joined (valueMembers members) ++ "\x7d"

def valueItems : List Json → List String
  | [] => []
  | item :: rest => value item :: valueItems rest

def valueMembers : List (String × Json) → List String
  | [] => []
  | (key, v) :: rest => (text key ++ ": " ++ value v) :: valueMembers rest

end

/-- A sequence of strings in parentheses, with a comma after a single one. -/
def texts : List String → String
  | [single] => "(" ++ text single ++ ",)"
  | several => "(" ++ joined (several.map text) ++ ")"

end Quoted

end RegistrySearch
