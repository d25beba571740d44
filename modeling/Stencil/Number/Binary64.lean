/-!
# Binary floating-point numbers of 64 bits

A number is kept exactly, as an integer times a power of two, and every operation rounds the exact
result once, to the nearest number and to the even one of two nearest.
-/

namespace Stencil

/-- The quotient of two natural numbers, rounded to the nearest, a tie to the even neighbour. -/
def roundDiv (num den : Nat) : Nat :=
  let q := num / den
  let r := num % den
  if den < 2 * r || (2 * r = den && q % 2 = 1) then q + 1 else q

/-- A floating-point number with 53 bits of precision. -/
inductive Binary64 where
  /-- The number `mantissa` times two to the `exponent`, possibly negated. -/
  | finite (negative : Bool) (mantissa : Nat) (exponent : Int)
  | infinite (negative : Bool)
  | nan
deriving DecidableEq, Repr

namespace Binary64

def leastExponent : Int := -1074

def greatestExponent : Int := 971

def zero (negative : Bool) : Binary64 := .finite negative 0 leastExponent

/-- A ratio multiplied by two to the power `e`, as a ratio. -/
def scale (num den : Nat) (e : Int) : Nat × Nat :=
  if e < 0 then (num, den * Nat.pow 2 e.natAbs) else (num * Nat.pow 2 e.toNat, den)

/-- The nearest number to `num / den`, where `den` is not zero. -/
def ofRatio (negative : Bool) (num den : Nat) : Binary64 :=
  if num = 0 then zero negative
  else
    -- The quotient at the rough exponent lies between two to the power 52 and 54.
    let rough : Int := (num.log2 : Int) - den.log2 - 53
    let (n, d) := scale num den (-rough)
    let e := max leastExponent (if Nat.pow 2 53 ≤ n / d then rough + 1 else rough)
    let (n, d) := scale num den (-e)
    let q := roundDiv n d
    -- Rounding up may carry over into the next power of two.
    let (q, e) := if q = Nat.pow 2 53 then (Nat.pow 2 52, e + 1) else (q, e)
    if greatestExponent < e then .infinite negative else .finite negative q e

/-- The nearest number to `digits` times ten to the `exponent`.  Exponents far out of the range of
numbers are answered without computing the power. -/
def ofDecimal (negative : Bool) (digits : Nat) (exponent : Int) : Binary64 :=
  if digits = 0 then zero negative
  else
    let top := exponent + (Nat.toDigits 10 digits).length
    if 400 < top then .infinite negative
    else if top < -400 then zero negative
    else if exponent < 0 then ofRatio negative digits (Nat.pow 10 exponent.natAbs)
    else ofRatio negative (digits * Nat.pow 10 exponent.toNat) 1

def ofInt (n : Int) : Binary64 := ofRatio (n < 0) n.natAbs 1

def timesHundred : Binary64 → Binary64
  | .finite negative m e =>
    if e < 0 then ofRatio negative (m * 100) (Nat.pow 2 e.natAbs)
    else ofRatio negative (m * 100 * Nat.pow 2 e.toNat) 1
  | x => x

/-- Whether a number is zero, of either sign. -/
def isZero : Binary64 → Bool
  | .finite _ m _ => m = 0
  | _ => false

end Binary64
end Stencil
