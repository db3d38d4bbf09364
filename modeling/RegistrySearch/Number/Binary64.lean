/-!
# Binary floating-point numbers

A number with a fraction or an exponent is kept as the binary64 number nearest to it. Everything is exact natural-number arithmetic: a finite number is a sign, a mantissa and a power of two, and `ofRatio` rounds a quotient to the nearest such number, a tie to the even mantissa.
-/

namespace RegistrySearch

/-- A binary64 number. A finite one is `mantissa * 2 ^ exponent`, with the sign kept apart so that zero has one too. -/
inductive Binary64 where
  | nan
  | infinite (negative : Bool)
  | finite (negative : Bool) (mantissa : Nat) (exponent : Int)
deriving DecidableEq, Repr, Inhabited

namespace Binary64

def precision : Nat := 53

/-- The least exponent; a smaller number loses digits instead. -/
def minExponent : Int := -1074

/-- The greatest exponent; above it a number is infinite. -/
def maxExponent : Int := 971

def zero (negative : Bool) : Binary64 := .finite negative 0 minExponent

/-- A quotient rounded to the nearest natural number, a tie to the even one. -/
def roundQuotient (num den : Nat) : Nat :=
  let q := num / den
  let r := num % den
  if 2 * r < den then q else if den < 2 * r then q + 1 else q + q % 2

def inUnits (num den : Nat) (exponent : Int) : Nat × Nat :=
  if exponent < 0 then (num * Nat.pow 2 (-exponent).toNat, den) else (num, den * Nat.pow 2 exponent.toNat)

/-- The exponent that gives the positive quotient `num / den` a mantissa of full precision, or the least one. -/
def exponentOf (num den : Nat) : Int :=
  let guess : Int := (num.log2 : Int) - den.log2 - (precision - 1)
  let scaled := inUnits num den guess
  let full := if scaled.1 < scaled.2 * Nat.pow 2 (precision - 1) then guess - 1 else guess
  max full minExponent

def ofRatio (negative : Bool) (num den : Nat) : Binary64 :=
  if num = 0 then zero negative
  else
    let exponent := exponentOf num den
    let scaled := inUnits num den exponent
    let mantissa := roundQuotient scaled.1 scaled.2
    let carried := mantissa = Nat.pow 2 precision
    let mantissa := if carried then Nat.pow 2 (precision - 1) else mantissa
    let exponent := if carried then exponent + 1 else exponent
    if mantissa = 0 then zero negative
    else if exponent > maxExponent then .infinite negative
    else .finite negative mantissa exponent

def decimalLength (n : Nat) : Nat := (Nat.toDigits 10 n).length

/-- The binary64 number nearest to `digits * 10 ^ exponent`. A magnitude of `10 ^ 310` or more is infinite and one below `10 ^ (-330)` is zero, so the powers that are formed stay small. -/
def ofDecimal (negative : Bool) (digits : Nat) (exponent : Int) : Binary64 :=
  let top := exponent + decimalLength digits
  if digits = 0 then zero negative
  else if top > 310 then .infinite negative
  else if top < -330 then zero negative
  else if exponent < 0 then ofRatio negative digits (Nat.pow 10 (-exponent).toNat)
  else ofRatio negative (digits * Nat.pow 10 exponent.toNat) 1

def ratio (mantissa : Nat) (exponent : Int) : Nat × Nat :=
  if exponent < 0 then (mantissa, Nat.pow 2 (-exponent).toNat) else (mantissa * Nat.pow 2 exponent.toNat, 1)

def ofNat (n : Nat) : Binary64 := ofRatio false n 1

def mul : Binary64 → Binary64 → Binary64
  | .nan, _ | _, .nan => .nan
  | .infinite a, .infinite b => .infinite (a != b)
  | .infinite a, .finite b m _ | .finite b m _, .infinite a => if m = 0 then .nan else .infinite (a != b)
  | .finite a m e, .finite b n f =>
    let x := ratio m e
    let y := ratio n f
    ofRatio (a != b) (x.1 * y.1) (x.2 * y.2)

/-- The rounded sum. A sum of zero is negative only if both numbers are. -/
def add : Binary64 → Binary64 → Binary64
  | .nan, _ | _, .nan => .nan
  | .infinite a, .infinite b => if a = b then .infinite a else .nan
  | .infinite a, .finite .. | .finite .., .infinite a => .infinite a
  | .finite a m e, .finite b n f =>
    let x := ratio m e
    let y := ratio n f
    let left := x.1 * y.2
    let right := y.1 * x.2
    if a = b then ofRatio a (left + right) (x.2 * y.2)
    else if right ≤ left then ofRatio (a && left ≠ right) (left - right) (x.2 * y.2)
    else ofRatio b (right - left) (x.2 * y.2)

def negate : Binary64 → Binary64
  | .nan => .nan
  | .infinite negative => .infinite !negative
  | .finite negative m e => .finite (!negative) m e

end Binary64

end RegistrySearch
