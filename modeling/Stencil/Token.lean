import Stencil.Dialect.Basic
import Stencil.Fault
import Stencil.Text.Blank
import Stencil.Text.Casing
import Stencil.Text.Word

/-!
# Opaque tokens

Strings, character literals and comments are the tokens inside which no brace, colon or terminator
counts.  A token is told at a place from the text that begins there, from the character before it,
and from the dialect.  Only its kind and its length are of interest, so a reader of a token answers
with a length, and every statement about it is one on the texts before and after.
-/

namespace Stencil

namespace Token

/-- The kinds of opaque tokens. -/
inductive Kind where
  | string
  | char
  | comment
deriving DecidableEq, Repr

def Kind.name : Kind → Text
  | .string => "string"
  | .char => "char"
  | .comment => "comment"

end Token

/-- An opaque token at the start of a text. -/
structure Token where
  kind : Token.Kind
  /-- The number of characters that it covers. -/
  length : Nat
deriving DecidableEq, Repr

namespace Token

/-! ### Comments -/

/-- Whether a comment marker, right after a colon, is part of a format specifier: from it on, `t`
goes without a blank and without a brace up to the brace that closes the block. -/
def isSpecFlag (d : Dialect) (marker : Text) (before : Option Char) (t : Text) : Bool :=
  d.specMarkers.contains marker && before == some ':' &&
    match ((t.drop marker.length).dropWhile
        (fun c => !(isBlank c || c = '{' || c = '}'))).dropWhile isBlank with
    | [] => true
    | c :: _ => c = '}'

/-- The length of the line comment at the start of `t`, if one of the markers opens one. -/
def lineComment (d : Dialect) (before : Option Char) (t : Text) :
    List Entry → Except LexFault (Option Nat)
  | [] => .ok none
  | .other value :: _ => .error (.marker value)
  | .text marker :: markers =>
    if marker.isPrefixOf t && !isSpecFlag d marker before t then
      .ok (some (t.takeWhile (· ≠ '\n')).length)
    else lineComment d before t markers

/-- The length of a text up to the end of the block comment that it continues.  `depth` counts the
comments around the innermost one, and `skip` the characters of a delimiter that is being passed. -/
def blockEnd (opener closer : Text) (nested : Bool) : (depth skip : Nat) → Text → Option Nat
  | _, _, [] => none
  | depth, skip + 1, _ :: t => (blockEnd opener closer nested depth skip t).map (· + 1)
  | depth, 0, c :: t =>
    if nested && opener.isPrefixOf (c :: t) then
      (blockEnd opener closer nested (depth + 1) (opener.length - 1) t).map (· + 1)
    else if closer.isPrefixOf (c :: t) then
      match depth with
      | 0 => some closer.length
      | depth + 1 => (blockEnd opener closer nested depth (closer.length - 1) t).map (· + 1)
    else (blockEnd opener closer nested depth 0 t).map (· + 1)

/-- The length of the block comment at the start of `t`, if there is one. -/
def blockComment (d : Dialect) (t : Text) : Except LexFault (Option Nat) :=
  match d.blockComment with
  | none => .ok none
  | some (opener, closer) =>
    if opener.isPrefixOf t then
      match blockEnd opener closer d.nestedComments 0 0 (t.drop opener.length) with
      | some n => .ok (some (opener.length + n))
      | none => .error (.unclosed .comment)
    else .ok none

/-! ### Strings -/

/-- The length of a text up to the end of the quoted string that it continues.  Where `escapes`
holds, a backslash takes the character after it along. -/
def quotedEnd (quote : Text) (escapes multiline : Bool) : Text → Except Unclosed Nat
  | [] => .error .string
  | c :: t =>
    if quote.isPrefixOf (c :: t) then .ok quote.length
    else if c = '\\' && escapes then
      match t with
      | [] => .error .string
      | _ :: t => (quotedEnd quote escapes multiline t).map (· + 2)
    else if c = '\n' && !multiline then .error .lineString
    else (quotedEnd quote escapes multiline t).map (· + 1)

/-- The length of the raw string with hashes that `t` continues after its first letter, if it is
one: as many hashes as stand before the quote have to stand after the quote that closes it. -/
def hashedEnd (t : Text) : Except Unclosed (Option Nat) :=
  let hashes := (t.takeWhile (· = '#')).length
  match t.drop hashes with
  | '"' :: body =>
    match Text.offsetOf? ('"' :: Text.pad '#' hashes) body with
    | some n => .ok (some (hashes + 1 + n + (1 + hashes)))
    | none => .error .rawString
  | _ => .ok none

/-- What stands before the quote of a string. -/
structure Lead where
  length : Nat
  /-- Whether it makes the string raw. -/
  raw : Bool
deriving DecidableEq, Repr

/-- Whether a string, after its lead, goes on at the start of `t`. -/
def opensString (d : Dialect) : Text → Bool
  | [] => false
  | c :: _ => d.isQuote c || (d.rawHashes && c = 'r')

/-- The first of the given prefixes that stands at the start of `t`, in any case, and has a string
after it. -/
def leadAmong (d : Dialect) (t : Text) : List Entry → Lead
  | [] => ⟨0, false⟩
  | .other _ :: entries => leadAmong d t entries
  | .text p :: entries =>
    if Text.lower (t.take p.length) = p && opensString d (t.drop p.length) then
      ⟨p.length, p.contains 'r'⟩
    else leadAmong d t entries

/-- What stands before the quote of a string at the start of `t`.  Inside a word there is no
lead. -/
def lead (d : Dialect) (before : Option Char) (t : Text) : Lead :=
  if before.any isWordChar then ⟨0, false⟩ else leadAmong d t d.stringPrefixes

/-- The quote of a string that opens with the character `c` before `t`: three of them where the
dialect has such strings. -/
def quoteOf (d : Dialect) (c : Char) (t : Text) : Text :=
  if d.tripleQuotes && [c, c, c].isPrefixOf (c :: t) then [c, c, c] else [c]

/-- The length of the raw string with hashes at the start of `t`, if there is one. -/
def hashedString (d : Dialect) (before : Option Char) (t : Text) : Except Unclosed (Option Nat) :=
  let lead := lead d before t
  match t.drop lead.length with
  | c :: body =>
    if d.rawHashes && c = 'r' && (0 < lead.length || !before.any isWordChar) then
      (hashedEnd body).map (·.map (lead.length + 1 + ·))
    else .ok none
  | [] => .ok none

/-- The length of the quoted string at the start of `t`, if there is one. -/
def quotedString (d : Dialect) (before : Option Char) (t : Text) : Except Unclosed (Option Nat) :=
  let lead := lead d before t
  match t.drop lead.length with
  | c :: body =>
    if d.isQuote c then
      let quote := quoteOf d c body
      -- A raw string ends at its first quote only in a dialect that has hashes to put after it;
      -- elsewhere a backslash still takes a quote along.
      (quotedEnd quote (!(lead.raw && d.rawHashes)) (d.multilineStrings || quote.length = 3)
        ((c :: body).drop quote.length)).map (fun n => some (lead.length + quote.length + n))
    else .ok none
  | [] => .ok none

/-! ### Character literals -/

/-- The length of the character literal that `t` continues after its quote, if it is one.  A quote
with no second one right after the next character opens no literal. -/
def charEnd (quote : Char) : Text → Except Unclosed (Option Nat)
  | [] => .ok none
  | '\\' :: t =>
    -- The escaped character is taken even if it is a quote; more may follow it, as in `'\u{41}'`.
    let inner := (t.drop 1).takeWhile (fun c => c ≠ quote && c ≠ '\n')
    match (t.drop 1).drop inner.length with
    | [] => .error .char
    | c :: _ => if c = quote then .ok (some (1 + 1 + inner.length + 1)) else .error .char
  -- Without an escape a quote may also open a lifetime, which is no token.
  | [_] => .ok none
  | c :: q :: _ => .ok (if q = quote && c ≠ '\n' then some 2 else none)

/-- The length of the character literal at the start of `t`, if there is one. -/
def charLiteral (d : Dialect) : Text → Except Unclosed (Option Nat)
  | [] => .ok none
  | c :: t =>
    if d.charQuote = some c then (charEnd c t).map (·.map (1 + ·)) else .ok none

/-! ### Tokens -/

/-- The token at the start of `t`, which follows the character `before`: a line comment before a
block comment, a raw string before a quoted one, a character literal last. -/
def at? (d : Dialect) (before : Option Char) (t : Text) : Except LexFault (Option Token) := do
  if let some n ← lineComment d before t d.lineComments then return some ⟨.comment, n⟩
  if let some n ← blockComment d t then return some ⟨.comment, n⟩
  if let some n ← (hashedString d before t).mapError .unclosed then return some ⟨.string, n⟩
  if let some n ← (quotedString d before t).mapError .unclosed then return some ⟨.string, n⟩
  if let some n ← (charLiteral d t).mapError .unclosed then return some ⟨.char, n⟩
  return none

end Token
end Stencil
