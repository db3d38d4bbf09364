import RegistrySearch.Config.Value
import RegistrySearch.Number.Digit
import RegistrySearch.Text.Lowercase
import RegistrySearch.Text.Split
import RegistrySearch.Text.UniversalDigit
import RegistrySearch.Yaml.Fault
import RegistrySearch.Yaml.Tag

/-!
# What scalars stand for

The value of a text with a tag. Where the tag was found from the form of the text, the text nearly always has a value; where it was written in front of the text, the text may be anything. Numbers are then read leniently: in the digits of any script, with white space around them, and with a sign of their own behind the sign.
-/

namespace RegistrySearch

namespace Yaml

/-! ### Texts of numbers -/

def isNumberSpace (c : Char) : Bool :=
  c = ' ' || c = '\t' || c = '\n' || c = '\x0b' || c = '\x0c' || c = '\r'

/-- A text in the characters that numbers are made of; what has no place in a number is a question mark. -/
def numberText (text : List CodePoint) : List Char :=
  text.map fun p => (p.char?.bind UniversalDigit.plain?).getD '?'

def unsigned : List Char → Bool × List Char
  | '-' :: rest => (true, rest)
  | '+' :: rest => (false, rest)
  | text => (false, text)

def withoutBaseMark (base : Nat) : List Char → List Char
  | '0' :: mark :: rest =>
    let marks := if base = 16 then ['x', 'X'] else if base = 8 then ['o', 'O'] else if base = 2 then ['b', 'B'] else []
    if mark ∈ marks then rest else '0' :: mark :: rest
  | text => text

def integer (base : Nat) (text : List CodePoint) : Outcome Int :=
  let (negative, body) := unsigned ((numberText text).dropWhile isNumberSpace)
  let body := withoutBaseMark base body
  let digits := body.takeWhile fun c => (Digit.value? c).any (· < base)
  if base = 10 ∧ maxDigits < digits.length then .error (.tooManyDigits digits.length)
  else if digits.isEmpty || !(body.drop digits.length).all isNumberSpace then .error (.notAnInteger base text)
  else
    let n : Int := Digit.number base digits
    .ok (if negative then -n else n)

def exponent? : List Char → Option Int
  | [] => some 0
  | e :: rest =>
    let (negative, digits) := unsigned rest
    if (e = 'e' || e = 'E') && !digits.isEmpty && digits.all Digit.isDecimal then
      let n : Int := Digit.number 10 digits
      some (if negative then -n else n)
    else none

/-- The number with digits before or after a point, and with an exponent behind them. -/
def decimal? (negative : Bool) (text : List Char) : Option Binary64 :=
  let whole := text.takeWhile Digit.isDecimal
  let rest := text.drop whole.length
  let (fraction, rest) := match rest with
    | '.' :: rest => (rest.takeWhile Digit.isDecimal, rest.dropWhile Digit.isDecimal)
    | rest => ([], rest)
  if whole.isEmpty && fraction.isEmpty then none
  else (exponent? rest).map fun exponent =>
    .ofDecimal negative (Digit.number 10 (whole ++ fraction)) (exponent - fraction.length)

def number (text : List CodePoint) : Outcome Binary64 :=
  let stripped := (((numberText text).dropWhile isNumberSpace).reverse.dropWhile isNumberSpace).reverse
  let (negative, body) := unsigned stripped
  match String.ofList (body.map Char.toLower) with
  | "inf" | "infinity" => .ok (.infinite negative)
  | "nan" => .ok .nan
  | _ =>
    match decimal? negative body with
    | some x => .ok x
    | none => .error (.notANumber text)

/-! ### Numbers -/

def withoutUnderscores (text : List CodePoint) : List CodePoint :=
  text.filter (· ≠ .char '_')

def signed : List CodePoint → Outcome (Bool × List CodePoint)
  | [] => .error .emptyNumber
  | .char '-' :: rest => .ok (true, rest)
  | .char '+' :: rest => .ok (false, rest)
  | text => .ok (false, text)

/-- The magnitude of an integer: in base two, sixteen or eight after a zero, and in base sixty with colons. -/
def magnitude : List CodePoint → Outcome Int
  | [] => .error .emptyNumber
  | [.char '0'] => .ok 0
  | .char '0' :: .char 'b' :: rest => integer 2 rest
  | .char '0' :: .char 'x' :: rest => integer 16 rest
  | .char '0' :: rest => integer 8 (.char '0' :: rest)
  | text =>
    if .char ':' ∈ text then do
      let places ← (splitAtEach (.char ':') text).mapM (integer 10)
      return places.foldl (60 * · + ·) 0
    else integer 10 text

def intValue (text : List CodePoint) : Outcome Int := do
  let (negative, text) ← signed (withoutUnderscores text)
  let n ← magnitude text
  return if negative then -n else n

/-- A number in base sixty from its places, the last one first. The value of each place, each product and each sum is rounded. -/
def sixtieths (value : Binary64) (scale : Nat) : List Binary64 → Outcome Binary64
  | [] => .ok value
  | place :: rest =>
    match Binary64.ofNat scale with
    | .infinite _ => .error .tooLarge
    | unit => sixtieths (value.add (place.mul unit)) (60 * scale) rest

def floatMagnitude (text : List CodePoint) : Outcome Binary64 :=
  if text = CodePoint.ofChars ['.', 'i', 'n', 'f'] then .ok (.infinite false)
  else if text = CodePoint.ofChars ['.', 'n', 'a', 'n'] then .ok .nan
  else if .char ':' ∈ text then do
    let places ← (splitAtEach (.char ':') text).mapM number
    sixtieths (.zero false) 1 places.reverse
  else number text

def inSmallLetters (text : List CodePoint) : List CodePoint :=
  text.flatMap fun
    | .char c => CodePoint.ofChars (Lowercase.ofChar c)
    | .half n => [.half n]

def floatValue (text : List CodePoint) : Outcome Binary64 := do
  let (negative, text) ← signed (inSmallLetters (withoutUnderscores text))
  let x ← floatMagnitude text
  return if negative then x.negate else x

/-! ### Flags and octets -/

def flagWords : List (String × Bool) :=
  [("yes", true), ("no", false), ("true", true), ("false", false), ("on", true), ("off", false)]

def flagValue (text : List CodePoint) : Outcome Bool :=
  let word := inSmallLetters text
  match flagWords.find? fun (w, _) => CodePoint.ofChars w.toList = word with
  | some (_, b) => .ok b
  | none => .error (.notAFlag word)

/-- The six bits that a character of a text of octets stands for. -/
def sixBits? (c : Char) : Option Nat :=
  let n := c.toNat
  if 'A' ≤ c ∧ c ≤ 'Z' then some (n - 'A'.toNat)
  else if 'a' ≤ c ∧ c ≤ 'z' then some (n - 'a'.toNat + 26)
  else if '0' ≤ c ∧ c ≤ '9' then some (n - '0'.toNat + 52)
  else if c = '+' then some 62
  else if c = '/' then some 63
  else none

/-- The octets of a text in base sixty-four. Groups of four characters stand for three octets. `left` are the bits that make no octet yet, `place` is the place in the group, and `pads` the number of equals signs that fill the group so far. Other characters are passed over, and so is all that follows a full group with equals signs. -/
def octets? (left place pads : Nat) : List Char → Option (List UInt8)
  | [] => if place = 0 then some [] else none
  | c :: rest =>
    if c = '=' then
      if 2 ≤ place ∧ 4 ≤ place + pads + 1 then some []
      else octets? left place (if 2 ≤ place then pads + 1 else pads) rest
    else match sixBits? c with
      | none => octets? left place pads rest
      | some bits =>
        match place with
        | 0 => octets? bits 1 0 rest
        | 1 => (octets? (bits % 16) 2 0 rest).map (UInt8.ofNat (left * 4 + bits / 16) :: ·)
        | 2 => (octets? (bits % 4) 3 0 rest).map (UInt8.ofNat (left * 16 + bits / 4) :: ·)
        | _ => (octets? 0 0 0 rest).map (UInt8.ofNat (left * 64 + bits) :: ·)

def binaryValue (text : List CodePoint) : Outcome (List UInt8) :=
  if text.all (CodePoint.any (·.toNat < 0x80)) then
    orMalformed (octets? 0 0 0 (text.filterMap CodePoint.char?))
  else .error .malformed

/-! ### Dates -/

def digits? (least most : Nat) (text : List Char) : Option (Nat × List Char) :=
  let digits := (text.take most).takeWhile Digit.isDecimal
  if digits.length < least then none else some (Digit.number 10 digits, text.drop digits.length)

def after? (c : Char) : List Char → Option (List Char)
  | d :: rest => if d = c then some rest else none
  | [] => none

def isBlankCharacter (c : Char) : Bool := c = ' ' || c = '\t'

/-- What separates a date from the time of day: a letter or blanks. -/
def timeText? : List Char → Option (List Char)
  | 'T' :: rest | 't' :: rest => some rest
  | text =>
    let rest := text.dropWhile isBlankCharacter
    if rest.length < text.length then some rest else none

/-- A fraction of a second in millionths; further digits are cut off. -/
def millionths (digits : List Char) : Nat :=
  let kept := digits.take 6
  Digit.number 10 kept * Nat.pow 10 (6 - kept.length)

/-- The offset from universal time at the end of a text, if there is one, in minutes. -/
def offset? (text : List Char) : Option (Option Int) :=
  match text.dropWhile isBlankCharacter with
  | [] => if text.isEmpty then some none else none
  | ['Z'] => some (some 0)
  | sign :: rest => do
    let (hours, rest) ← digits? 1 2 rest
    let minutes ← match rest with
      | [] => some 0
      | ':' :: rest => do
        let (minutes, rest) ← digits? 2 2 rest
        if rest.isEmpty then some minutes else none
      | _ => none
    let span : Int := 60 * hours + minutes
    if sign = '+' then return some span
    else if sign = '-' then return some (-span)
    else none

def dateTime? (date : Date) (text : List Char) : Option DateTime := do
  let (hour, text) ← digits? 1 2 (← timeText? text)
  let (minute, text) ← digits? 2 2 (← after? ':' text)
  let (second, text) ← digits? 2 2 (← after? ':' text)
  let (fraction, text) := match text with
    | '.' :: rest => (rest.takeWhile Digit.isDecimal, rest.dropWhile Digit.isDecimal)
    | text => ([], text)
  let offset ← offset? text
  return { date, hour, minute, second, microsecond := millionths fraction, offset }

def date? (text : List Char) : Option (Date × List Char) := do
  let (year, text) ← digits? 4 4 text
  let (month, text) ← digits? 1 2 (← after? '-' text)
  let (day, text) ← digits? 1 2 (← after? '-' text)
  return (⟨year, month, day⟩, text)

def timestampValue (text : List CodePoint) : Outcome Scalar :=
  match (CodePoint.chars? text).bind fun cs => date? (Tag.withoutLineFeed cs) with
  | some (date, []) => (date.check.mapError .date).map fun _ => .date date
  | some (date, rest) =>
    match dateTime? date rest with
    | some t => (t.check.mapError .date).map fun _ => .dateTime t
    | none => .error .notADate
  | none => .error .notADate

/-! ### All tags -/

def scalarValue (tag : Tag) (text : List CodePoint) : Outcome Scalar :=
  match tag with
  | .null => .ok .null
  | .bool => (flagValue text).map .bool
  | .int => (intValue text).map .int
  | .float => (floatValue text).map .float
  | .binary => (binaryValue text).map .binary
  | .timestamp => timestampValue text
  | .str => .ok (.ofCodePoints text)
  | _ => .error .malformed

end Yaml

end RegistrySearch
