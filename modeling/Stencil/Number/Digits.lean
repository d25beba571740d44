import Stencil.Text.Numeral
import Stencil.Text.Quoted

/-!
# Numbers in decimal digits

The number that a run of digits spells.  The digits may belong to any script; a digit in the wide
sense that is no decimal digit spells nothing, and a run beyond a fixed length is refused.
-/

namespace Stencil

/-- The greatest count of digits that are read as a number. -/
def maxDigits : Nat := 4300

/-- Whether a number has more digits than are written. -/
def isLong (n : Int) : Bool := Nat.pow 10 maxDigits ≤ n.natAbs

/-- Why a run of digits is not read as a number. -/
inductive NumberFault where
  /-- The digits hold one that is no decimal digit. -/
  | notDecimal (digits : Text)
  /-- There are too many digits. -/
  | tooMany (count : Nat)
deriving DecidableEq, Repr

/-- The message of a refused number; of long digits only the start is shown. -/
def NumberFault.message : NumberFault → Text
  | .notDecimal digits => "invalid literal for int() with base 10: " ++ digits.quoted.take 200
  | .tooMany count =>
    "Exceeds the limit (" ++ Text.ofNat maxDigits
      ++ " digits) for integer string conversion: value has " ++ Text.ofNat count
      ++ " digits; use sys.set_int_max_str_digits() to increase the limit"

/-- The value of a run of decimal digits, `none` if some character is not one. -/
def decimalNumber? (digits : Text) : Option Nat :=
  digits.foldlM (fun n c => (decimalValue? c).map (10 * n + ·)) 0

/-- The number that a run of digits spells.  The length that counts is that of the decimal digits
at its start. -/
def readNumber (digits : Text) : Except NumberFault Nat :=
  let count := (digits.takeWhile isDecimal).length
  if maxDigits < count then .error (.tooMany count)
  else
    match decimalNumber? digits with
    | some n => .ok n
    | none => .error (.notDecimal digits)

end Stencil
