import Stencil.Number.Decimal
import Stencil.Text.Basic

/-!
# Floating-point numbers as texts

A floating-point number is written with the fewest digits that read back, with a number of
significant digits, or with a number of places, and either with the point among its digits or with
an exponent.
-/

namespace Stencil

/-- Which digits of a number are written. -/
inductive DigitChoice where
  /-- The fewest that read back. -/
  | shortest
  /-- That many significant digits, with an exponent for very large and very small numbers. -/
  | general (count : Nat)
  /-- That many digits after the point, and an exponent. -/
  | scientific (places : Nat)
  /-- That many digits after the point. -/
  | fixed (places : Nat)
deriving DecidableEq, Repr

/-- How a floating-point number is written. -/
structure RealStyle where
  digits : DigitChoice
  /-- Whether the point, and the zeros that fill up the significant digits, are kept. -/
  alternate : Bool
  /-- Whether a number without an exponent has at least one digit after the point. -/
  pointZero : Bool
deriving DecidableEq, Repr

/-- The digits of a number without zeros at the end, and how many stand before the point. -/
structure Figures where
  digits : Text
  point : Int
deriving DecidableEq, Repr

namespace Figures

def none : Figures := ⟨['0'], 1⟩

def isZero (f : Figures) : Bool := f.digits = ['0']

def ofDecimal (d : Decimal) : Figures :=
  if d.digits = 0 then none
  else
    let d := d.normalize
    let digits := Text.ofNat d.digits
    ⟨digits, d.exponent + digits.length⟩

/-- The digits that are written of `mantissa` times two to the `exponent`. -/
def choose (choice : DigitChoice) (mantissa : Nat) (exponent : Int) : Figures :=
  if mantissa = 0 then none
  else
    ofDecimal <|
      match choice with
      | .shortest => Decimal.shortest mantissa exponent
      | .general count => Decimal.significant count mantissa exponent
      | .scientific places => Decimal.significant (places + 1) mantissa exponent
      | .fixed places => Decimal.places places mantissa exponent

/-- The digits with the point among them, and at least `least` digits after it. -/
def positional (f : Figures) (least : Nat) (keepPoint : Bool) : Text :=
  let whole : Text :=
    if f.point ≤ 0 then ['0']
    else f.digits.take f.point.toNat ++ Text.pad '0' (f.point.toNat - f.digits.length)
  let fraction :=
    if f.point ≤ 0 then Text.pad '0' f.point.natAbs ++ f.digits else f.digits.drop f.point.toNat
  let fraction := fraction ++ Text.pad '0' (least - fraction.length)
  whole ++ (if fraction.isEmpty && !keepPoint then [] else '.' :: fraction)

/-- The mark of an exponent, its sign, and at least two digits. -/
def exponentText (e : Int) : Text :=
  let digits := Text.ofNat e.natAbs
  'e' :: (if e < 0 then '-' else '+') :: Text.pad '0' (2 - digits.length) ++ digits

end Figures

namespace RealStyle

/-- The plain style: the fewest digits that read back, at least one after the point. -/
def plain : RealStyle := ⟨.shortest, false, true⟩

/-- Whether a number with the given digits is written with an exponent. -/
def isScientific (s : RealStyle) (f : Figures) : Bool :=
  match s.digits with
  | .scientific _ => true
  | .fixed _ => false
  | .general count => f.point ≤ -4 || (if s.pointZero then (count : Int) - 1 else count) < f.point
  | .shortest => f.point ≤ -4 || 16 < f.point

/-- The least number of digits after the point. -/
def leastPlaces (s : RealStyle) (f : Figures) : Nat :=
  match s.digits with
  | .scientific places | .fixed places => places
  | .general count =>
    if s.alternate then if s.isScientific f then count - 1 else (count - f.point).toNat else 0
  | .shortest => 0

/-- The digits of a number as the style has them. -/
def write (s : RealStyle) (f : Figures) : Text :=
  if s.isScientific f then
    Figures.positional ⟨f.digits, 1⟩ (s.leastPlaces f) s.alternate
      ++ Figures.exponentText (f.point - 1)
  else
    let least := s.leastPlaces f
    f.positional (if s.pointZero then max 1 least else least) s.alternate

end RealStyle

/-- The plain spelling of a number, with the words for what is not a number and for infinity. -/
def Binary64.spelled (nanWord infinityWord : Text) : Binary64 → Text
  | .nan => nanWord
  | .infinite negative => (if negative then "-" else "") ++ infinityWord
  | .finite negative m e =>
    (if negative then "-" else "") ++ RealStyle.plain.write (Figures.choose .shortest m e)

end Stencil
