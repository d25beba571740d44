import Stencil.Number.Binary64

/-!
# Decimal spellings of floating-point numbers

A positive number is written as decimal digits and an exponent in three ways: with the fewest digits
that read back as the number, with a given count of digits, and with a given count of places.
-/

namespace Stencil

/-- The number `digits` times ten to the `exponent`. -/
structure Decimal where
  digits : Nat
  exponent : Int
deriving DecidableEq, Repr

namespace Decimal

/-- The exponent of the power of ten that is the greatest one not above `num / den`. -/
def magnitude (num den : Nat) : Int :=
  if den ≤ num then (Nat.toDigits 10 (num / den)).length - 1
  else
    let length := (Nat.toDigits 10 (den / num)).length
    if den = num * Nat.pow 10 (length - 1) then -(length - 1 : Nat) else -(length : Int)

/-- The ratio `num / den` counted in units of ten to the power `e`. -/
def inUnits (num den : Nat) (e : Int) : Nat × Nat :=
  if e < 0 then (num * Nat.pow 10 e.natAbs, den) else (num, den * Nat.pow 10 e.toNat)

def ratio (mantissa : Nat) (exponent : Int) : Nat × Nat :=
  if exponent < 0 then (mantissa, Nat.pow 2 exponent.natAbs)
  else (mantissa * Nat.pow 2 exponent.toNat, 1)

/-! ### The shortest spelling -/

/-- The bounds between which a decimal reads back as `mantissa` times two to the `exponent`, in
quarters of that power of two.  Below a power of two the numbers lie twice as close. -/
def neighbourhood (mantissa : Nat) (exponent : Int) : Nat × Nat :=
  let below :=
    if mantissa = Nat.pow 2 52 && Binary64.leastExponent < exponent then 4 * mantissa - 1
    else 4 * mantissa - 2
  (below, 4 * mantissa + 2)

/-- Whether `d` units of ten to the power `e` read back as `mantissa` times two to the
`exponent`. -/
def readsBack (mantissa : Nat) (exponent : Int) (d : Nat) (e : Int) : Bool :=
  let (low, high) := neighbourhood mantissa exponent
  let (unit, den) := ratio 1 (exponent - 2)
  let (num, den) := inUnits unit den e
  if mantissa % 2 = 0 then low * num ≤ d * den && d * den ≤ high * num
  else low * num < d * den && d * den < high * num

/-- The spelling on the grid of ten to the power `e` that reads back and lies nearest, if one
does. -/
def onGrid? (mantissa : Nat) (exponent e : Int) : Option Decimal :=
  let (num, den) := ratio mantissa exponent
  let (num, den) := inUnits num den e
  let d := num / den
  -- The two points of the grid around the number, the nearer one first.
  let near := roundDiv num den
  let far := if near = d then d + 1 else d
  if readsBack mantissa exponent near e then some ⟨near, e⟩
  else if readsBack mantissa exponent far e then some ⟨far, e⟩
  else none

/-- A spelling without zeros at its end. -/
def normalize (d : Decimal) : Decimal :=
  let digits := (Nat.toDigits 10 d.digits).reverse
  let zeros := (digits.takeWhile (· = '0')).length
  if d.digits = 0 then d else ⟨d.digits / Nat.pow 10 zeros, d.exponent + zeros⟩

/-- The spelling with the fewest digits that reads back as `mantissa` times two to the `exponent`,
where the mantissa is positive; of two such spellings the nearer. -/
def shortest (mantissa : Nat) (exponent : Int) : Decimal :=
  let (num, den) := ratio mantissa exponent
  let top := magnitude num den
  -- Seventeen digits always suffice, so one of these grids has a spelling.
  let grids := (List.range 17).map fun (n : Nat) => top - n
  ((grids.findSome? (onGrid? mantissa exponent)).getD ⟨roundDiv num den, 0⟩).normalize

/-! ### Spellings of a given length -/

def significant (count mantissa : Nat) (exponent : Int) : Decimal :=
  let (num, den) := ratio mantissa exponent
  let e := magnitude num den - (count - 1 : Nat)
  let (num, den) := inUnits num den e
  let d := roundDiv num den
  -- Rounding up may give one digit more.
  if d = Nat.pow 10 count then ⟨d / 10, e + 1⟩ else ⟨d, e⟩

def places (places mantissa : Nat) (exponent : Int) : Decimal :=
  let (num, den) := ratio mantissa exponent
  ⟨roundDiv (num * Nat.pow 10 places) den, -(places : Int)⟩

end Decimal
end Stencil
