import RegistrySearch.Number.Binary64
import RegistrySearch.Number.Digit

/-!
# Decimal text of a number

A binary64 number is written with the fewest decimal digits that read back to it, and of several equally short ones with the nearest. How the digits are laid out is a separate choice, a `Layout`: which magnitudes are written without an exponent, and what an exponent looks like.
-/

namespace RegistrySearch

namespace Decimal

/-- The positive decimal number `0.d₁d₂… * 10 ^ point`, whose first and last digits are not zero. -/
structure Numeral where
  digits : List Char
  point : Int
deriving DecidableEq, Repr

structure Layout where
  /-- The least `point` that is written without an exponent. -/
  minPoint : Int
  maxPoint : Int
  exponentPlus : String
  exponentWidth : Nat

/-- The least `k` with `num / den < 10 ^ k` for a positive quotient; the lengths of the two numbers leave two choices. -/
def pointOf (num den : Nat) : Int :=
  let guess : Int := (Binary64.decimalLength num : Int) - Binary64.decimalLength den
  let below := if guess < 0 then num * Nat.pow 10 (-guess).toNat < den else num < den * Nat.pow 10 guess.toNat
  if below then guess else guess + 1

def inUnits (num den : Nat) (power : Int) : Nat × Nat :=
  if power < 0 then (num * Nat.pow 10 (-power).toNat, den) else (num, den * Nat.pow 10 power.toNat)

/-- The shortest decimal `n * 10 ^ power` for which `readsBack` holds, as `n` and `power`. Each count of digits has two candidates, the points of its grid on both sides of the number; the nearer one is preferred, and of two equally near ones the even one. After seventeen digits there is always one. -/
def shortest (readsBack : Nat → Int → Bool) (num den : Nat) (point : Int) : (count steps : Nat) → Nat × Int
  | count, 0 => (num / den, point - count)
  | count, steps + 1 =>
    let power := point - count
    let scaled := inUnits num den power
    let low := scaled.1 / scaled.2
    let lowIsNearer : Bool := Binary64.roundQuotient scaled.1 scaled.2 = low
    if readsBack low power && (lowIsNearer || !readsBack (low + 1) power) then (low, power)
    else if readsBack (low + 1) power then (low + 1, power)
    else shortest readsBack num den point (count + 1) steps

def Numeral.ofNat (n : Nat) (power : Int) : Numeral :=
  let digits := Nat.toDigits 10 n
  ⟨(digits.reverse.dropWhile (· == '0')).reverse, power + digits.length⟩

def Numeral.ofBinary (mantissa : Nat) (exponent : Int) : Numeral :=
  let r := Binary64.ratio mantissa exponent
  let readsBack (n : Nat) (power : Int) := Binary64.ofDecimal false n power == .finite false mantissa exponent
  let found := shortest readsBack r.1 r.2 (pointOf r.1 r.2) 1 17
  Numeral.ofNat found.1 found.2

/-- The text of a numeral: with a point and at least one digit on both sides of it, or with an exponent. -/
def Layout.text (layout : Layout) (x : Numeral) : List Char :=
  if layout.minPoint ≤ x.point ∧ x.point ≤ layout.maxPoint then
    if x.point ≤ 0 then '0' :: '.' :: List.replicate (-x.point).toNat '0' ++ x.digits
    else
      let whole := x.point.toNat
      let fraction := x.digits.drop whole
      x.digits.take whole ++ List.replicate (whole - x.digits.length) '0' ++
        '.' :: (if fraction.isEmpty then ['0'] else fraction)
  else
    let exponent := x.point - 1
    let sign := if exponent < 0 then ['-'] else layout.exponentPlus.toList
    let mantissa := match x.digits with
      | d :: e :: rest => d :: '.' :: e :: rest
      | digits => digits
    mantissa ++ 'e' :: sign ++ Digit.padded layout.exponentWidth exponent.natAbs

def Layout.number (layout : Layout) (negative : Bool) (mantissa : Nat) (exponent : Int) : String :=
  let magnitude := if mantissa = 0 then ['0', '.', '0'] else layout.text (.ofBinary mantissa exponent)
  String.ofList (if negative then '-' :: magnitude else magnitude)

end Decimal

end RegistrySearch
