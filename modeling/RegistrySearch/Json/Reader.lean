import RegistrySearch.Json.Draft
import RegistrySearch.Number.Digit
import RegistrySearch.Text.CodePoint
import RegistrySearch.Text.Utf8

/-!
# Reading JSON text

The strict grammar: white space is space, tab, line feed and carriage return; no leading zeros, trailing commas or comments; strings hold no control characters, and an escaped surrogate only as half of a pair. A number with a fraction or an exponent is a binary64 number, every other one an integer of any size.

The text is a list of symbols, a symbol being a character or the mark of an octet that belongs to none. Reading never fails: it returns a `Draft` that says how far the text is JSON, and what follows, if the value is complete.
-/

namespace RegistrySearch

namespace Json

abbrev Symbol := Option Char

def isSpace : Symbol → Bool
  | some c => c = ' ' || c = '\t' || c = '\n' || c = '\r'
  | none => false

def skipSpace (s : List Symbol) : List Symbol :=
  s.dropWhile isSpace

/-! ### Strings -/

def hexDigit? (s : Symbol) : Option Nat := s.bind Digit.value?

def hex4? (a b c d : Symbol) : Option Nat := do
  let a ← hexDigit? a
  let b ← hexDigit? b
  let c ← hexDigit? c
  let d ← hexDigit? d
  return ((a * 16 + b) * 16 + c) * 16 + d

def escaped? : Symbol → Option Char
  | some '"' => some '"'
  | some '\\' => some '\\'
  | some '/' => some '/'
  | some 'b' => some '\x08'
  | some 'f' => some '\x0c'
  | some 'n' => some '\n'
  | some 'r' => some '\r'
  | some 't' => some '\t'
  | _ => none

def consContent (c : Char) (rest : Option (Option (List Char) × List Symbol)) :
    Option (Option (List Char) × List Symbol) :=
  rest.map fun (content, after) => (content.map (c :: ·), after)

/-- The rest of a string after its opening quote: the content, which is missing if it is not UTF-8, and what follows the closing quote. -/
def stringBody : List Symbol → Option (Option (List Char) × List Symbol)
  | [] => none
  | some '"' :: rest => some (some [], rest)
  | some '\\' :: some 'u' :: a :: b :: c :: d :: rest =>
    match hex4? a b c d with
    | none => none
    | some high =>
      if CodePoint.isLow high then none
      else if CodePoint.isHigh high then
        match rest with
        | some '\\' :: some 'u' :: e :: f :: g :: h :: rest =>
          match hex4? e f g h with
          | none => none
          | some low =>
            if CodePoint.isLow low then
              consContent (Char.ofNat (0x10000 + (high - 0xD800) * 0x400 + (low - 0xDC00))) (stringBody rest)
            else none
        | _ => none
      else consContent (Char.ofNat high) (stringBody rest)
  | some '\\' :: e :: rest =>
    match escaped? e with
    | some c => consContent c (stringBody rest)
    | none => none
  | some '\\' :: [] => none
  | none :: rest => (stringBody rest).map fun (_, after) => (none, after)
  | some c :: rest => if c.toNat < 0x20 then none else consContent c (stringBody rest)

/-! ### Numbers -/

def isDigit (s : Symbol) : Bool := s.any Digit.isDecimal

/-- The longest run of digits at the start of a text, and what follows. -/
def digits (s : List Symbol) : List Char × List Symbol :=
  ((s.takeWhile isDigit).filterMap id, s.dropWhile isDigit)

/-- The digits after a decimal point, none if there is no point. -/
def fraction? : List Symbol → Option (List Char × List Symbol)
  | some '.' :: rest =>
    match digits rest with
    | ([], _) => none
    | (ds, after) => some (ds, after)
  | s => some ([], s)

/-- The digits of an exponent, with its sign. -/
def exponentDigits? (negative : Bool) (s : List Symbol) : Option (Option Int × List Symbol) :=
  match digits s with
  | ([], _) => none
  | (ds, after) => some (some (if negative then -(Digit.number 10 ds : Int) else Digit.number 10 ds), after)

def exponent? : List Symbol → Option (Option Int × List Symbol)
  | some 'e' :: rest | some 'E' :: rest =>
    match rest with
    | some '-' :: rest => exponentDigits? true rest
    | some '+' :: rest => exponentDigits? false rest
    | rest => exponentDigits? false rest
  | s => some (none, s)

/-- A number after its sign. -/
def unsigned (negative : Bool) (s : List Symbol) : Draft × Option (List Symbol) :=
  let (whole, s) := digits s
  if whole = [] ∨ (whole.head? = some '0' ∧ whole.length ≠ 1) then (.broken, none)
  else
    match fraction? s with
    | none => (.broken, none)
    | some (fraction, s) =>
      match exponent? s with
      | none => (.broken, none)
      | some (exponent, s) =>
        if fraction = [] ∧ exponent = none then
          (.ofInteger (if negative then -(Digit.number 10 whole : Int) else Digit.number 10 whole), some s)
        else
          let power := exponent.getD 0 - fraction.length
          (.float (.ofDecimal negative (Digit.number 10 (whole ++ fraction)) power), some s)

def number : List Symbol → Draft × Option (List Symbol)
  | some '-' :: rest => unsigned true rest
  | s => unsigned false s

/-! ### Values -/

def keyword? (word : List Char) (s : List Symbol) : Option (List Symbol) :=
  if (word.map some).isPrefixOf s then some (s.drop word.length) else none

def scalar (s : List Symbol) : Draft × Option (List Symbol) :=
  match keyword? ['n', 'u', 'l', 'l'] s with
  | some rest => (.null, some rest)
  | none =>
    match keyword? ['t', 'r', 'u', 'e'] s with
    | some rest => (.bool true, some rest)
    | none =>
      match keyword? ['f', 'a', 'l', 's', 'e'] s with
      | some rest => (.bool false, some rest)
      | none => number s

mutual

/-- The value at the start of a text, and what follows unless the text breaks off in it. A text of length `n` needs `steps` to be at least `2 * n + 1`. -/
def read : (steps : Nat) → List Symbol → Draft × Option (List Symbol)
  | 0, _ => (.broken, none)
  | steps + 1, s =>
    match skipSpace s with
    | some '"' :: rest =>
      match stringBody rest with
      | some (content, rest) => (.str (content.map String.ofList), some rest)
      | none => (.brokenString, none)
    | some '[' :: rest =>
      match skipSpace rest with
      | some ']' :: rest => (.arr [] true, some rest)
      | rest =>
        let (items, after) := readItems steps rest
        (.arr items after.isSome, after)
    | some '{' :: rest =>
      match skipSpace rest with
      | some '}' :: rest => (.obj [] true, some rest)
      | rest =>
        let (members, after) := readMembers steps rest
        (.obj members after.isSome, after)
    | s => scalar s

def readItems : (steps : Nat) → List Symbol → List Draft × Option (List Symbol)
  | 0, _ => ([.broken], none)
  | steps + 1, s =>
    match read steps s with
    | (item, none) => ([item], none)
    | (item, some rest) =>
      match skipSpace rest with
      | some ']' :: rest => ([item], some rest)
      | some ',' :: rest =>
        let (items, after) := readItems steps rest
        (item :: items, after)
      | _ => ([item], none)

def readMembers : (steps : Nat) → List Symbol → List (Option String × Draft) × Option (List Symbol)
  | 0, _ => ([], none)
  | steps + 1, s =>
    match skipSpace s with
    | some '"' :: rest =>
      match stringBody rest with
      | none => ([], none)
      | some (content, rest) =>
        let key := content.map String.ofList
        match skipSpace rest with
        | some ':' :: rest =>
          match read steps rest with
          | (value, none) => ([(key, value)], none)
          | (value, some rest) =>
            match skipSpace rest with
            | some '}' :: rest => ([(key, value)], some rest)
            | some ',' :: rest =>
              let (members, after) := readMembers steps rest
              ((key, value) :: members, after)
            | _ => ([(key, value)], none)
        | _ => ([(key, .broken)], none)
    | _ => ([], none)

end

/-! ### Whole texts -/

/-- A whole text: its value as far as it can be read, and whether nothing else follows it. -/
structure Reading where
  draft : Draft
  clean : Bool

def reading (s : List Symbol) : Reading :=
  match read (2 * s.length + 1) s with
  | (draft, none) => ⟨draft, true⟩
  | (draft, some rest) => ⟨draft, (skipSpace rest).isEmpty⟩

def Reading.value (r : Reading) : Except TextFault Json := do
  let v ← r.draft.value
  Draft.closing r.clean
  return v

def symbols (text : String) : List Symbol :=
  text.toList.map some

def ofText (text : String) : Except TextFault Json :=
  (reading (symbols text)).value

/-- The value of JSON text given as octets. -/
def ofOctets (octets : List UInt8) : Except TextFault Json :=
  (reading (Utf8.pieces octets)).value

end Json

end RegistrySearch
