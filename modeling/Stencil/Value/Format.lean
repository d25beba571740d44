import Stencil.Value.Basic
import Stencil.Value.Layout

/-!
# Values in layouts

The text of a value in the layout that a format string spells.  Without a format string a value is
written plainly.
-/

namespace Stencil

namespace Layout

/-! ### Texts -/

/-- A text in a layout: cut to the precision, then padded. -/
def ofText (layout t : Text) : Except LayoutFault Text := do
  let l ← read "str" (some 's') .left layout
  if l.type ≠ some 's' then throw (.unknownType (l.type.getD 's') "str")
  if let some c := l.sign then throw (if c = ' ' then .textWithSpace else .textWithSign)
  if l.zeroCoercion then throw .textWithZeroCoercion
  if l.alternate then throw .textWithAlternate
  if l.side = .inner then throw .textWithInnerPadding
  return l.pad (l.precision.elim t t.take)

/-! ### Numbers -/

def precisionLimit : Nat := Nat.pow 2 31

def upper (t : Text) : Text := t.map Char.toUpper

/-- The style of floating-point numbers for the type of a layout. -/
def realStyle (l : Layout) : RealStyle :=
  let choice :=
    match l.type, l.precision with
    | none, none => .shortest
    | none, some n => .general (max 1 n)
    | some c, n =>
      let n := n.getD 6
      if c = 'e' || c = 'E' then .scientific n
      else if c = 'f' || c = 'F' || c = '%' then .fixed n
      else .general (max 1 n)
  ⟨choice, l.alternate, l.type.isNone⟩

def real (l : Layout) (x : Binary64) : Except LayoutFault Text := do
  if precisionLimit ≤ l.precision.getD 0 then throw .precisionTooLarge
  let x := if l.type = some '%' then x.timesHundred else x
  let percent : Text := if l.type = some '%' then ['%'] else []
  let style := l.realStyle
  let (negative, text) : Bool × Text :=
    match x with
    | .nan => (false, "nan")
    | .infinite negative => (negative, "inf")
    | .finite negative m e =>
      let f := Figures.choose style.digits m e
      (negative && !(l.zeroCoercion && f.isZero), style.write f)
  let text := if l.type.any fun c => "EFG".toList.contains c then upper text else text
  -- Only the digits before the point are grouped; the words for no number have none.
  let digits := text.takeWhile isAsciiDigit
  return l.number negative [] digits (text.drop digits.length ++ percent)

/-- A floating-point number in the layout that a text spells.  The null character as the type means
that no type is given. -/
def ofReal (layout : Text) (x : Binary64) : Except LayoutFault Text := do
  let l ← read "float" none .right layout
  let l := if l.type = some '\x00' then { l with type := none } else l
  if let some c := l.type then
    if !"eEfFgGn%".toList.contains c then throw (.unknownType c "float")
  l.real x

/-- The character with the given code, in a layout. -/
def character (l : Layout) (n : Int) : Except LayoutFault Text := do
  if l.sign.isSome then throw .characterWithSign
  if l.alternate then throw .characterWithAlternate
  if n < -(countLimit : Int) || (countLimit : Int) ≤ n then throw .tooLargeForCharacter
  if n < 0 || 0x110000 ≤ n then throw .noCharacter
  if 0xd800 ≤ n && n < 0xe000 then throw (.halfCharacter n)
  return l.number false [] [] [Char.ofNat n.toNat]

/-- The mark and the base of the numbers of a type. -/
def baseOf (c : Char) : Text × Nat :=
  if c = 'b' then ("0b", 2) else if c = 'o' then ("0o", 8)
  else if c = 'x' || c = 'X' then ("0x", 16) else ([], 10)

def integer (l : Layout) (n : Int) : Except LayoutFault Text := do
  if l.precision.isSome then throw .integerWithPrecision
  if l.zeroCoercion then throw .integerWithZeroCoercion
  let type := l.type.getD 'd'
  if type = 'c' then l.character n
  else
    let (mark, base) := baseOf type
    if base = 10 && isLong n then throw .longInteger
    let mark := if l.alternate then mark else []
    let digits := Nat.toDigits base n.natAbs
    let inCase := if type = 'X' then upper else id
    return l.number (n < 0) (inCase mark) (inCase digits) []

/-- An integer, of the given kind, in the layout that a text spells. -/
def ofInt (kind layout : Text) (n : Int) : Except LayoutFault Text := do
  let l ← read kind (some 'd') .right layout
  let type := l.type.getD 'd'
  if "bcdoxXn".toList.contains type then l.integer n
  else if "eEfFgG%".toList.contains type then
    match Binary64.ofInt n with
    | .infinite _ => throw .tooLargeForReal
    | x => l.real x
  else throw (.unknownType type kind)

end Layout

namespace Value

/-- A value in the layout that a text spells. -/
def format (layout : Text) (v : Value) : Except LayoutFault Text :=
  match v with
  | .text t => Layout.ofText layout t
  | v =>
    if layout.isEmpty then if v.hasLongInteger then .error .longInteger else .ok v.shown
    else
      match v with
      | .int n => Layout.ofInt "int" layout n
      | .bool b => Layout.ofInt "bool" layout (if b then 1 else 0)
      | .real x => Layout.ofReal layout x
      | v => .error (.unsupported v.kind)

end Value
end Stencil
