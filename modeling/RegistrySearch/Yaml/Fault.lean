import RegistrySearch.Config.Date
import RegistrySearch.Room
import RegistrySearch.Text.Quoted

/-!
# Why a YAML text has no value

A text that breaks the rules of YAML is malformed, whichever rule it breaks. Other faults lie in a single scalar: an escape that names no code point, or a text that its tag has no value for.
-/

namespace RegistrySearch

namespace Yaml

inductive DocumentFault where
  | malformed
  | codePoint (number : Nat)
  | tooManyDigits (count : Nat)
  | notAnInteger (base : Nat) (text : List CodePoint)
  | notANumber (text : List CodePoint)
  | notAFlag (text : List CodePoint)
  | emptyNumber
  /-- The place value of a digit in base sixty is beyond all binary64 numbers. -/
  | tooLarge
  | notADate
  /-- A mapping stands where the text of a date is wanted. -/
  | mappingForDate
  | date (fault : DateFault)
  /-- Nodes are nested deeper than the calls that read them can be. -/
  | tooDeep
deriving DecidableEq, Repr

def maxDigits : Nat := 4300

/-- A number above this one cannot even be looked up as a code point. -/
def maxCode : Nat := 0x7FFFFFFF

def DocumentFault.message : DocumentFault → String
  | malformed => "Invalid YAML in config file"
  | codePoint n =>
    if maxCode < n then "Python int too large to convert to C int" else "chr() arg not in range(0x110000)"
  | tooManyDigits count =>
    "Exceeds the limit (" ++ toString maxDigits ++ " digits) for integer string conversion: value has " ++
      toString count ++ " digits; use sys.set_int_max_str_digits() to increase the limit"
  | notAnInteger base text =>
    "invalid literal for int() with base " ++ toString base ++ ": " ++
      String.ofList ((Quoted.codePoints text).toList.take 200)
  | notANumber text => "could not convert string to float: " ++ Quoted.codePoints text
  | notAFlag text => Quoted.codePoints text
  | emptyNumber => "string index out of range"
  | tooLarge => "int too large to convert to float"
  | notADate => "'NoneType' object has no attribute 'groupdict'"
  | mappingForDate => "expected string or bytes-like object, got 'list'"
  | date fault => fault.message
  | tooDeep => "maximum recursion depth exceeded"

abbrev Outcome (α : Type) := Except DocumentFault α

def inner {σ α : Type} (reading : Nesting (StateT σ Outcome) α) : Nesting (StateT σ Outcome) α :=
  nested DocumentFault.tooDeep reading

def orMalformed {α : Type} : Option α → Outcome α
  | some a => .ok a
  | none => .error .malformed

end Yaml

end RegistrySearch
