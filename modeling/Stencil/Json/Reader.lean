import Stencil.Json.Basic
import Stencil.Number.Digits

/-!
# Reading JSON

The value that a text spells, when the whole text is one value with white space around it.  Besides
the words of the standard, `NaN`, `Infinity` and `-Infinity` are numbers; a string holds no bare
control character; and an integer has at most a fixed number of digits.
-/

namespace Stencil

/-- Why a text is not read as a JSON value. -/
inductive JsonFault where
  /-- The text is not JSON. -/
  | malformed
  /-- An integer is not read as a number. -/
  | number (fault : NumberFault)
deriving DecidableEq, Repr

namespace Json

/-- A text without the white space of JSON at its start. -/
def skipSpace (t : Text) : Text := t.dropWhile [' ', '\t', '\n', '\r'].contains

/-- The rest of a text after `word`, if it begins with it. -/
def after? (word t : Text) : Option Text :=
  if word.isPrefixOf t then some (t.drop word.length) else none

/-! ### Strings -/

/-- The value of a hexadecimal digit. -/
def hexValue? (c : Char) : Option Nat :=
  if '0' ≤ c && c ≤ '9' then some (c.toNat - '0'.toNat)
  else if 'a' ≤ c && c ≤ 'f' then some (c.toNat - 'a'.toNat + 10)
  else if 'A' ≤ c && c ≤ 'F' then some (c.toNat - 'A'.toNat + 10)
  else none

/-- The number that four hexadecimal digits stand for. -/
def fourDigits? (a b c d : Char) : Option Nat := do
  let a ← hexValue? a
  let b ← hexValue? b
  let c ← hexValue? c
  let d ← hexValue? d
  return ((a * 16 + b) * 16 + c) * 16 + d

/-- The character that a one-letter escape stands for. -/
def shortEscape? (c : Char) : Option Char :=
  match c with
  | '"' => some '"'
  | '\\' => some '\\'
  | '/' => some '/'
  | 'b' => some '\x08'
  | 'f' => some '\x0c'
  | 'n' => some '\n'
  | 'r' => some '\r'
  | 't' => some '\t'
  | _ => none

/-- The character with a code point; a surrogate, which is no character, reads as the replacement
character. -/
def unitChar (n : Nat) : Char := if 0xd800 ≤ n && n < 0xe000 then '\ufffd' else Char.ofNat n

/-- The characters that code units stand for: a high surrogate and the low one after it make one
character. -/
def joinSurrogates : List Nat → Text
  | [] => []
  | [a] => [unitChar a]
  | a :: b :: rest =>
    if 0xd800 ≤ a && a < 0xdc00 && 0xdc00 ≤ b && b < 0xe000 then
      Char.ofNat (0x10000 + (a - 0xd800) * 0x400 + (b - 0xdc00)) :: joinSurrogates rest
    else unitChar a :: joinSurrogates (b :: rest)

/-- The code units of a string after its opening quote, and the rest of the text after its closing
one. -/
def stringBody : Text → Option (List Nat × Text)
  | [] => none
  | '"' :: t => some ([], t)
  | '\\' :: 'u' :: a :: b :: c :: d :: t => do
    let unit ← fourDigits? a b c d
    let (units, rest) ← stringBody t
    return (unit :: units, rest)
  | '\\' :: c :: t => do
    let escaped ← shortEscape? c
    let (units, rest) ← stringBody t
    return (escaped.toNat :: units, rest)
  | c :: t =>
    if c.toNat < 0x20 || c = '\\' then none
    else do
      let (units, rest) ← stringBody t
      return (c.toNat :: units, rest)

/-! ### Numbers -/

/-- The number that a run of digits `0` to `9` stands for. -/
def digitsValue (digits : Text) : Nat := digits.foldl (fun n c => 10 * n + (c.toNat - '0'.toNat)) 0

def fraction : Text → Text × Text
  | '.' :: t =>
    let digits := t.takeWhile isAsciiDigit
    if digits.isEmpty then ([], '.' :: t) else (digits, t.dropWhile isAsciiDigit)
  | t => ([], t)

/-- An optional exponent, and the rest of the text. -/
def exponentPart (t : Text) : Option Int × Text :=
  match t with
  | [] => (none, t)
  | c :: u =>
    if c = 'e' || c = 'E' then
      let (negative, u) := match u with
        | '-' :: v => (true, v)
        | '+' :: v => (false, v)
        | v => (false, v)
      let digits := u.takeWhile isAsciiDigit
      if digits.isEmpty then (none, t)
      else
        let e : Int := digitsValue digits
        (some (if negative then -e else e), u.dropWhile isAsciiDigit)
    else (none, t)

/-- A number whose sign has been read, and the rest of the text. -/
def number (negative : Bool) (t : Text) : Except JsonFault (Json × Text) :=
  let whole := match t with
    | '0' :: _ => ['0']
    | t => t.takeWhile isAsciiDigit
  if whole.isEmpty then .error .malformed
  else
    let (places, rest) := fraction (t.drop whole.length)
    let (exponent, rest) := exponentPart rest
    if places.isEmpty && exponent.isNone then
      if maxDigits < whole.length then .error (.number (.tooMany whole.length))
      else
        let n : Int := digitsValue whole
        .ok (.int (if negative then -n else n), rest)
    else
      .ok (.real (Binary64.ofDecimal negative (digitsValue (whole ++ places))
        (exponent.getD 0 - places.length)), rest)

/-! ### Values -/

mutual

/-- A value at the start of a text, and the rest of the text.  Each step into an array or an object
takes one from `fuel`. -/
def value (fuel : Nat) (t : Text) : Except JsonFault (Json × Text) :=
  match fuel with
  | 0 => .error .malformed
  | fuel + 1 =>
    match t with
    | '"' :: t =>
      match stringBody t with
      | some (units, rest) => .ok (.str (joinSurrogates units), rest)
      | none => .error .malformed
    | '[' :: t =>
      match skipSpace t with
      | ']' :: rest => .ok (.arr [], rest)
      | t => items fuel [] t
    | '{' :: t =>
      match skipSpace t with
      | '}' :: rest => .ok (.obj [], rest)
      | t => members fuel [] t
    | t =>
      match after? "null" t, after? "true" t, after? "false" t, after? "NaN" t,
        after? "Infinity" t, after? "-Infinity" t with
      | some rest, _, _, _, _, _ => .ok (.null, rest)
      | _, some rest, _, _, _, _ => .ok (.bool true, rest)
      | _, _, some rest, _, _, _ => .ok (.bool false, rest)
      | _, _, _, some rest, _, _ => .ok (.real .nan, rest)
      | _, _, _, _, some rest, _ => .ok (.real (.infinite false), rest)
      | _, _, _, _, _, some rest => .ok (.real (.infinite true), rest)
      | _, _, _, _, _, _ =>
        match t with
        | '-' :: t => number true t
        | t => number false t

/-- The items of an array from one of them on, after those in `before`, which stand in reverse. -/
def items (fuel : Nat) (before : List Json) (t : Text) : Except JsonFault (Json × Text) :=
  match fuel with
  | 0 => .error .malformed
  | fuel + 1 =>
    match value fuel t with
    | .error fault => .error fault
    | .ok (j, rest) =>
      match skipSpace rest with
      | ',' :: rest => items fuel (j :: before) (skipSpace rest)
      | ']' :: rest => .ok (.arr (j :: before).reverse, rest)
      | _ => .error .malformed

/-- The members of an object from one of them on, after those in `before`. -/
def members (fuel : Nat) (before : List (Text × Json)) (t : Text) :
    Except JsonFault (Json × Text) :=
  match fuel with
  | 0 => .error .malformed
  | fuel + 1 =>
    match t with
    | '"' :: t =>
      match stringBody t with
      | none => .error .malformed
      | some (units, rest) =>
        match skipSpace rest with
        | ':' :: rest =>
          match value fuel (skipSpace rest) with
          | .error fault => .error fault
          | .ok (j, rest) =>
            let before := put (joinSurrogates units) j before
            match skipSpace rest with
            | ',' :: rest => members fuel before (skipSpace rest)
            | '}' :: rest => .ok (.obj before, rest)
            | _ => .error .malformed
        | _ => .error .malformed
    | _ => .error .malformed

end

def read (t : Text) : Except JsonFault Json :=
  match value (t.length + 1) (skipSpace t) with
  | .error fault => .error fault
  | .ok (j, rest) => if (skipSpace rest).isEmpty then .ok j else .error .malformed

end Json
end Stencil
