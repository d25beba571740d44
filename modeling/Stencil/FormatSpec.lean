import Stencil.Fault
import Stencil.Dialect.Basic
import Stencil.Text.Letter

/-!
# Format specifiers

A format specifier says how the value of an expression is written: an alignment with a fill
character, a sign, the alternate form, zero padding, a width, a precision and a type.  Each part may
be left out, and the parts stand in this order.
-/

namespace Stencil

/-- On which side of a value its padding stands. -/
inductive Alignment where
  | left
  | center
  | right
deriving DecidableEq, Repr

def Alignment.char : Alignment → Char
  | .left => '<'
  | .center => '^'
  | .right => '>'

/-- The alignment that a marker stands for. -/
def Alignment.ofChar? (c : Char) : Option Alignment :=
  if c = '<' then some .left else if c = '^' then some .center else if c = '>' then some .right
  else none

inductive Sign where
  /-- All of them. -/
  | plus
  /-- The negative ones only. -/
  | minus
deriving DecidableEq, Repr

def Sign.char : Sign → Char
  | .plus => '+'
  | .minus => '-'

/-- The sign that a flag stands for. -/
def Sign.ofChar? (c : Char) : Option Sign :=
  if c = '+' then some .plus else if c = '-' then some .minus else none

/-- A format specifier in its parts. -/
structure FormatSpec where
  /-- The text that it was read from. -/
  raw : Text
  fill : Option Char
  align : Option Alignment
  sign : Option Sign
  alternate : Bool
  padZero : Bool
  width : Option Nat
  precision : Option Nat
  typeFlag : Text
deriving DecidableEq, Repr

/-- How a value is spelled before it is padded. -/
inductive Mode where
  | display
  | debug
  | pretty
deriving DecidableEq, Repr

def Mode.name : Mode → Text
  | .display => "display"
  | .debug => "debug"
  | .pretty => "pretty"

namespace FormatSpec

/-- Whether the type asks for the debug spelling. -/
def isDebug (s : FormatSpec) : Bool := s.typeFlag.endsWith ['?']

/-- Whether the debug spelling is laid out over lines. -/
def isPretty (s : FormatSpec) : Bool := s.isDebug && s.alternate

def mode (s : FormatSpec) : Mode :=
  if s.isDebug then if s.alternate then .pretty else .debug else .display

def toJson (s : FormatSpec) : Json :=
  .obj [("raw", .str s.raw), ("fill", Json.ofText? (s.fill.map ([·]))),
    ("align", Json.ofText? (s.align.map ([·.char]))),
    ("sign", Json.ofText? (s.sign.map ([·.char]))),
    ("alternate", .bool s.alternate), ("zero", .bool s.padZero),
    ("width", s.width.elim .null (fun (n : Nat) => .int n)),
    ("precision", s.precision.elim .null (fun (n : Nat) => .int n)), ("type", .str s.typeFlag)]

/-! ### Reading -/

/-- The fill character and the alignment at the start of a text, and the rest. -/
def readAlignment : Text → Option Char × Option Alignment × Text
  | [] => (none, none, [])
  | c :: t =>
    match t.head?.bind Alignment.ofChar? with
    | some align => (some c, some align, t.drop 1)
    | none =>
      match Alignment.ofChar? c with
      | some align => (none, some align, t)
      | none => (none, none, c :: t)

def readSign : Text → Option Sign × Text
  | [] => (none, [])
  | c :: t =>
    match Sign.ofChar? c with
    | some sign => (some sign, t)
    | none => (none, c :: t)

/-- Whether the flag `c` stands at the start of a text, and the rest. -/
def readFlag (c : Char) : Text → Bool × Text
  | [] => (false, [])
  | b :: t => if b = c then (true, t) else (false, b :: t)

def readCount (t : Text) : Except NumberFault (Option Nat × Text) := do
  let digits := t.takeWhile isDigit
  let rest := t.dropWhile isDigit
  if digits.isEmpty then return (none, rest)
  return (some (← readNumber digits), rest)

/-- Why `rest`, which comes after the precision of a format specifier, is no type. -/
def rejection (s : FormatSpec) (rest : Text) : SpecFault :=
  match rest with
  | [] => .unknownType rest
  | head :: more =>
    if rest.contains '$' || rest.contains '*' then .indirectNumber rest
    else if (Sign.ofChar? head).isSome then
      if s.sign.isSome then .duplicateSign head else .lateSign head
    else if head = '#' then if s.alternate then .duplicateAlternate else .lateAlternate
    else if (Alignment.ofChar? head).isSome then .lateAlignment head
    else if head = '.' then .duplicatePrecision
    else if isDigit head then .digitsAfterPrecision rest
    else if s.width.isNone && s.precision.isNone && isLetter head && !more.isEmpty then
      .wordForWidth rest
    else .unknownType rest

/-- The format specifier that a text at `offset` of a template spells. -/
def read (d : Dialect) (offset : Int) (t : Text) : Except Failure FormatSpec := do
  let place (rest : Text) : Int := offset + (t.length - rest.length : Int)
  let refuse {α : Type} (fault : SpecFault) (offset : Int) : Except Failure α :=
    throw (.template ⟨.spec fault, offset⟩)
  let (fill, align, rest) := readAlignment t
  if let some c := fill then
    if c = '{' || c = '}' then refuse (.braceFill c) offset
  let (sign, rest) := readSign rest
  if let (some again, _) := (if sign.isSome then readSign rest else (none, [])) then
    refuse (.duplicateSign again.char) (place rest)
  let (alternate, rest) := readFlag '#' rest
  if alternate && (readFlag '#' rest).1 then refuse .duplicateAlternate (place rest)
  let (padZero, rest) := readFlag '0' rest
  if padZero && (readFlag '0' rest).1 then refuse .duplicateZero (place rest)
  if padZero && align.isSome then refuse .zeroWithAlignment offset
  let (width, rest) ← (readCount rest).mapError .number
  let (precision, rest) ←
    match rest with
    | '.' :: more =>
      match ← (readCount more).mapError .number with
      | (none, _) => refuse .missingPrecision (place rest)
      | found => pure found
    | _ => pure (none, rest)
  let spec : FormatSpec :=
    { raw := t, fill, align, sign, alternate, padZero, width, precision, typeFlag := [] }
  -- What is left has to be a type of the dialect, all of it.
  if d.typeFlags.contains rest then
    if let some s := sign then
      if rest.endsWith ['?'] && !d.debugAcceptsSign then refuse (.signWithDebug s.char) offset
    return { spec with typeFlag := rest }
  refuse (spec.rejection rest) (place rest)

/-! ### Writing for Python -/

/-- The format specifier as Python writes it.  In a debug mode the value is a text already, so that
the sign, the alternate form and the type are left out. -/
def toPython (s : FormatSpec) : Text :=
  let display := s.mode = .display
  s.align.elim [] (fun a => s.fill.toList ++ [a.char])
    ++ (if display then s.sign.elim [] ([·.char]) else [])
    ++ (if display && s.alternate then ['#'] else [])
    ++ (if s.padZero then ['0'] else [])
    ++ s.width.elim [] Text.ofNat
    ++ s.precision.elim [] ('.' :: Text.ofNat ·)
    ++ (if display then s.typeFlag else [])

end FormatSpec
end Stencil
