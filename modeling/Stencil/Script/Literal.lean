import Stencil.Json.Reader

/-!
# Literals

The integers and the texts that a script spells.  A text stands between single or double quotes, one
or three of them at either end, and a backslash in it begins an escape.
-/

namespace Stencil.Script

/-! ### Integers -/

/-- Digits without the underscores between them, if each underscore stands between two digits. -/
def withoutUnderscores : Text → Option Text
  | [] => some []
  | ['_'] => none
  | '_' :: '_' :: _ => none
  | '_' :: t => withoutUnderscores t
  | c :: t => (withoutUnderscores t).map (c :: ·)

/-- The number that digits of the given base spell. -/
def digitsIn? (base : Nat) (digits : Text) : Option Nat :=
  if digits.isEmpty then none
  else
    digits.foldlM (fun n c => do
      let v ← Json.hexValue? c
      if v < base then return base * n + v else none) 0

/-- The number that digits with underscores spell. -/
def spacedDigitsIn? (base : Nat) (digits : Text) : Option Nat :=
  if digits.head? = some '_' then none else (withoutUnderscores digits).bind (digitsIn? base)

/-- The base that the character behind a zero marks. -/
def markedBase (c : Char) : Nat :=
  if c.toLower = 'x' then 16 else if c.toLower = 'o' then 8 else if c.toLower = 'b' then 2 else 10

/-- The number that a text spells: decimal digits without zeros in front, or a mark of the base and
digits of it, with or without an underscore between. -/
def integer? (t : Text) : Option Nat :=
  match t with
  | '0' :: c :: rest =>
    if markedBase c = 10 then (spacedDigitsIn? 10 t).filter (· = 0)
    else spacedDigitsIn? (markedBase c) (if rest.head? = some '_' then rest.drop 1 else rest)
  | t => spacedDigitsIn? 10 t

/-- Whether a text has nothing but decimal digits and underscores. -/
def isDecimalNumber (t : Text) : Bool := t.all fun c => isAsciiDigit c || c = '_'

/-- Whether a number has more decimal digits than are read. -/
def hasTooManyDigits (t : Text) : Bool :=
  isDecimalNumber t && decide (maxDigits < (t.filter (· ≠ '_')).length)

/-! ### The extent of a text -/

def isQuote (c : Char) : Bool := c = '\'' || c = '"'

/-- The number of characters up to the end of the `size` quotes that close a text, of which `seen`
have been passed; `escaped` says whether a backslash stands before the text.  A text between single
quotes does not go on over a line feed. -/
def closing (quote : Char) (size : Nat) : (seen : Nat) → (escaped : Bool) → Text → Option Nat
  | _, _, [] => none
  | _, true, _ :: t => (closing quote size 0 false t).map (· + 1)
  | seen, false, c :: t =>
    if c = quote then
      if seen + 1 = size then some 1 else (closing quote size (seen + 1) false t).map (· + 1)
    else if size = 1 && c = '\n' then none
    else (closing quote size 0 (c = '\\') t).map (· + 1)

/-- The length of the text literal, with its quotes, that a text begins with. -/
def textLength? : Text → Option Nat
  | [] => none
  | quote :: t =>
    if [quote, quote].isPrefixOf t then (closing quote 3 0 false (t.drop 2)).map (· + 3)
    else (closing quote 1 0 false t).map (· + 1)

/-- What stands between the quotes of a text literal. -/
def content : Text → Text
  | [] => []
  | quote :: t =>
    if [quote, quote].isPrefixOf t && 5 ≤ t.length then (t.drop 2).take (t.length - 5)
    else t.dropLast

/-! ### Escapes -/

/-- Why an escape stands for no text. -/
inductive EscapeFault (F : Type) where
  | malformed
  /-- The character cannot be looked up by its name. -/
  | host (fault : F)

/-- What a backslash and one character stand for. -/
def letterEscape? (c : Char) : Option Text :=
  if c = '\n' then some []
  else if c = '\\' || c = '\'' || c = '"' then some [c]
  else if c = 'n' then some ['\n']
  else if c = 'r' then some ['\r']
  else if c = 't' then some ['\t']
  else if c = 'a' then some ['\x07']
  else if c = 'b' then some ['\x08']
  else if c = 'f' then some ['\x0c']
  else if c = 'v' then some ['\x0b']
  else none

/-- The number of hexadecimal digits after a backslash and the given character. -/
def hexLength? (c : Char) : Option Nat :=
  if c = 'x' then some 2 else if c = 'u' then some 4 else if c = 'U' then some 8 else none

def isOctalDigit (c : Char) : Bool := '0' ≤ c && c ≤ '7'

variable {F : Type}

/-- The code points of a text. -/
def codesOf (t : Text) : List Nat := t.map Char.toNat

/-- The one code point that an escape spells. -/
def codePoint (code : Nat) : Except (EscapeFault F) (List Nat) :=
  if 0x110000 ≤ code then .error .malformed else .ok [code]

/-- The character with the name between the braces that `t` begins with, and the number of
characters up to the closing one. -/
def namedCharacter (named : Text → Except F (Option Char)) (t : Text) :
    Except (EscapeFault F) (List Nat × Nat) :=
  let name := (t.drop 1).takeWhile (· ≠ '}')
  if t.head? ≠ some '{' || name.isEmpty || t.length ≤ name.length + 1 then .error .malformed
  else
    match named name with
    | .ok (some c) => .ok ([c.toNat], name.length + 2)
    | .ok none => .error .malformed
    | .error fault => .error (.host fault)

/-- The code points that a backslash in front of `t` stands for, and the number of characters of `t`
that belong to the escape.  A backslash that begins no escape stands for itself. -/
def escape (named : Text → Except F (Option Char)) (t : Text) :
    Except (EscapeFault F) (List Nat × Nat) :=
  match t with
  | [] => .error .malformed
  | c :: rest =>
    match letterEscape? c, hexLength? c with
    | some u, _ => .ok (codesOf u, 1)
    | none, some n =>
      match digitsIn? 16 (rest.take n) with
      | some code => if n ≤ rest.length then (codePoint code).map (·, n + 1) else .error .malformed
      | none => .error .malformed
    | none, none =>
      if c = 'N' then (namedCharacter named rest).map fun (u, n) => (u, n + 1)
      else
        let octal := (t.take 3).takeWhile isOctalDigit
        match digitsIn? 8 octal with
        | some code => (codePoint code).map (·, octal.length)
        | none => .ok (codesOf ['\\'], 0)

/-- The code points of a text with its escapes resolved, after `skip` characters that belong to an
escape. -/
def unescapeFrom (named : Text → Except F (Option Char)) :
    (skip : Nat) → Text → Except (EscapeFault F) (List Nat)
  | _, [] => .ok []
  | skip + 1, _ :: t => unescapeFrom named skip t
  | 0, c :: t =>
    if c = '\\' then do
      let (u, n) ← escape named t
      return u ++ (← unescapeFrom named n t)
    else (unescapeFrom named 0 t).map (c.toNat :: ·)

/-- The code points of the text that a literal spells.  An escape may spell half of a surrogate
pair, which makes no character. -/
def codesOfLiteral (named : Text → Except F (Option Char)) (literal : Text) :
    Except (EscapeFault F) (List Nat) :=
  unescapeFrom named 0 (content literal)

end Stencil.Script
