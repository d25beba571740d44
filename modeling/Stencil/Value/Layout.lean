import Stencil.Number.Digits

/-!
# Layouts

How a value is laid out: the fill character and the side of the padding, the sign, the alternate
form, the width, the separator between groups of digits, the precision and the type.  A layout is
read from a text, and which of its parts a value admits depends on the kind of the value.
-/

namespace Stencil

/-- Where the padding of a value stands. -/
inductive Side where
  /-- After the value. -/
  | left
  /-- On both sides. -/
  | center
  /-- Before the value. -/
  | right
  /-- Between the sign and the digits. -/
  | inner
deriving DecidableEq, Repr

def Side.ofChar? (c : Char) : Option Side :=
  if c = '<' then some .left else if c = '^' then some .center else if c = '>' then some .right
  else if c = '=' then some .inner else none

/-- Why a value is not laid out. -/
inductive LayoutFault where
  /-- The text of a layout goes on after its type. -/
  | malformed (layout kind : Text)
  | tooManyDigits
  | missingPrecision
  | twoSeparators
  | separatorWithType (separator type : Char)
  | unknownType (type : Char) (kind : Text)
  | textWithSpace
  | textWithSign
  | textWithZeroCoercion
  | textWithAlternate
  | textWithInnerPadding
  | integerWithPrecision
  | integerWithZeroCoercion
  | characterWithSign
  | characterWithAlternate
  /-- An integer that is the code of no character. -/
  | noCharacter
  /-- An integer that is too large to be looked up as a character. -/
  | tooLargeForCharacter
  /-- An integer that is the code of half a character, which is no text of this library. -/
  | halfCharacter (code : Int)
  | tooLargeForReal
  | longInteger
  | precisionTooLarge
  /-- A value of a kind that has no layouts. -/
  | unsupported (kind : Text)
deriving DecidableEq, Repr

namespace LayoutFault

/-- A type as a message shows it. -/
def typeText (c : Char) : Text :=
  if 32 < c.toNat && c.toNat < 128 then [c] else "\\x" ++ Text.hex 0 c.toNat

def message : LayoutFault → Text
  | .malformed layout kind =>
    "Invalid format specifier '" ++ layout ++ "' for object of type '" ++ kind ++ "'"
  | .tooManyDigits => "Too many decimal digits in format string"
  | .missingPrecision => "Format specifier missing precision"
  | .twoSeparators => "Cannot specify both ',' and '_'."
  | .separatorWithType separator type =>
    "Cannot specify '" ++ [separator] ++ "' with '" ++ typeText type ++ "'."
  | .unknownType type kind =>
    "Unknown format code '" ++ typeText type ++ "' for object of type '" ++ kind ++ "'"
  | .textWithSpace => "Space not allowed in string format specifier"
  | .textWithSign => "Sign not allowed in string format specifier"
  | .textWithZeroCoercion => "Negative zero coercion (z) not allowed in string format specifier"
  | .textWithAlternate => "Alternate form (#) not allowed in string format specifier"
  | .textWithInnerPadding => "'=' alignment not allowed in string format specifier"
  | .integerWithPrecision => "Precision not allowed in integer format specifier"
  | .integerWithZeroCoercion =>
    "Negative zero coercion (z) not allowed in integer format specifier"
  | .characterWithSign => "Sign not allowed with integer format specifier 'c'"
  | .characterWithAlternate =>
    "Alternate form (#) not allowed with integer format specifier 'c'"
  | .noCharacter => "%c arg not in range(0x110000)"
  | .tooLargeForCharacter => "Python int too large to convert to C long"
  | .halfCharacter code => "host code: chr(" ++ Text.ofInt code ++ ")"
  | .tooLargeForReal => "int too large to convert to float"
  | .longInteger =>
    "Exceeds the limit (" ++ Text.ofNat maxDigits ++ " digits) for integer string conversion; "
      ++ "use sys.set_int_max_str_digits() to increase the limit"
  | .precisionTooLarge => "precision too big"
  | .unsupported kind => "unsupported format string passed to " ++ kind ++ ".__format__"

end LayoutFault

structure Layout where
  fill : Char
  side : Side
  /-- A plus, a minus or a space. -/
  sign : Option Char
  /-- Whether a zero never has a minus sign. -/
  zeroCoercion : Bool
  alternate : Bool
  width : Option Nat
  separator : Option Char
  precision : Option Nat
  type : Option Char
deriving DecidableEq, Repr

namespace Layout

/-! ### Reading -/

/-- The numbers from here on are too large for a layout. -/
def countLimit : Nat := Nat.pow 2 63

/-- The decimal number at the start of a text, if there is one, and the rest. -/
def readCount (t : Text) : Except LayoutFault (Option Nat × Text) :=
  let digits := t.takeWhile isDecimal
  let n := digits.foldl (fun n c => 10 * n + (decimalValue? c).getD 0) 0
  if digits.isEmpty then .ok (none, t)
  else if countLimit ≤ n then .error .tooManyDigits
  else .ok (some n, t.drop digits.length)

/-- The fill character and the side at the start of a text, and the rest. -/
def readSide : Text → Option Char × Option Side × Text
  | [] => (none, none, [])
  | c :: t =>
    match t.head?.bind Side.ofChar? with
    | some side => (some c, some side, t.drop 1)
    | none =>
      match Side.ofChar? c with
      | some side => (none, some side, t)
      | none => (none, none, c :: t)

/-- Whether the character `c` stands at the start of a text, and the rest. -/
def readMark (c : Char) : Text → Bool × Text
  | [] => (false, [])
  | b :: t => if b = c then (true, t) else (false, b :: t)

def readSign : Text → Option Char × Text
  | [] => (none, [])
  | c :: t => if c = '+' || c = '-' || c = ' ' then (some c, t) else (none, c :: t)

def readSeparator (t : Text) : Except LayoutFault (Option Char × Text) :=
  let (comma, rest) := readMark ',' t
  let (underscore, rest) := readMark '_' rest
  if underscore && (comma || rest.head? = some ',') then .error .twoSeparators
  else .ok (if comma then some ',' else if underscore then some '_' else none, rest)

/-- The types that admit a separator, the comma or the underscore. -/
def admitsSeparator (separator type : Char) : Bool :=
  "defgEG%F\x00".toList.contains type || (separator = '_' && "boxX".toList.contains type)

/-- The layout that a text spells, for values of the given kind, whose type is `otherwise` and whose
padding stands on the given side unless the text says something else. -/
def read (kind : Text) (otherwise : Option Char) (side : Side) (t : Text) :
    Except LayoutFault Layout := do
  let (fill, ownSide, rest) := readSide t
  let (sign, rest) := readSign rest
  let (zeroCoercion, rest) := readMark 'z' rest
  let (alternate, rest) := readMark '#' rest
  -- After a fill character a zero is the first digit of the width.
  let (padZero, rest) := if fill.isSome then (false, rest) else readMark '0' rest
  let inner := padZero && ownSide.isNone && side = .right
  let (width, rest) ← readCount rest
  let (separator, rest) ← readSeparator rest
  let (precision, rest) ←
    match rest with
    | '.' :: more =>
      match ← readCount more with
      | (none, _) => throw .missingPrecision
      | found => pure found
    | _ => pure (none, rest)
  let type ←
    match rest with
    | [] => pure otherwise
    | [c] => pure (some c)
    | _ => throw (.malformed t kind)
  if let (some s, some c) := (separator, type) then
    if !admitsSeparator s c then throw (.separatorWithType s c)
  return {
    fill := if padZero then '0' else fill.getD ' '
    side := if inner then .inner else ownSide.getD side
    sign, zeroCoercion, alternate, width, separator, precision, type }

/-! ### Padding -/

/-- A text between its padding. -/
def pad (l : Layout) (t : Text) : Text :=
  let missing := l.width.getD 0 - t.length
  match l.side with
  | .right => Text.pad l.fill missing ++ t
  | .center => Text.pad l.fill (missing / 2) ++ t ++ Text.pad l.fill (missing - missing / 2)
  | .left | .inner => t ++ Text.pad l.fill missing

/-- Digits, given from the last one, in groups of the given size.  Zeros are put in front until the
digits with their separators take up `least` characters. -/
def groupsFrom (size : Nat) (separator : Char) : (fuel least : Nat) → Text → Text
  | 0, _, digits => digits
  | fuel + 1, least, digits =>
    -- The group in front may be shorter than the others.
    let count := min size (max (max digits.length least) 1)
    let here := digits.take count ++ Text.pad '0' (count - digits.length)
    let later := digits.drop count
    if later.isEmpty && least ≤ count then here
    else here ++ separator :: groupsFrom size separator fuel (least - count - 1) later

def groupSize (l : Layout) : Nat :=
  if l.type.any fun c => "boxX".toList.contains c then 4 else 3

/-- Digits with zeros in front and with separators, so that they take up at least `least`
characters. -/
def grouped (l : Layout) (least : Nat) (digits : Text) : Text :=
  match l.separator with
  | none => Text.pad '0' (least - digits.length) ++ digits
  | some separator =>
    (groupsFrom l.groupSize separator (digits.length + least + 1) least digits.reverse).reverse

/-- A number from its sign, the mark of its base, its digits before the point, and the rest. -/
def number (l : Layout) (negative : Bool) (mark digits rest : Text) : Text :=
  let sign : Text :=
    if negative then ['-'] else if l.sign = some '+' then ['+']
    else if l.sign = some ' ' then [' '] else []
  let lead := sign ++ mark
  let width := l.width.getD 0
  -- Zeros between the sign and the digits are grouped like digits.
  let least := if l.fill = '0' && l.side = .inner then width - (lead.length + rest.length) else 0
  let digits := if digits.isEmpty then [] else l.grouped least digits
  match l.side with
  | .inner =>
    lead ++ Text.pad l.fill (width - (lead.length + digits.length + rest.length)) ++ digits ++ rest
  | _ => l.pad (lead ++ digits ++ rest)

end Layout
end Stencil
