import Stencil.Script.Literal
import Stencil.Text.Line
import Stencil.Text.Word

/-!
# Tokens of scripts

A script is read as a list of lines, each with its indentation and its tokens.  A line goes on over
a line feed between parentheses and in a text, and a line without tokens does not count.  The rest
of the language, such as brackets, operators and prefixed texts, is foreign to this library.
-/

namespace Stencil.Script

/-- What makes a script unreadable. -/
inductive Flaw where
  /-- There is a null character in it. -/
  | null
  /-- It breaks the rules of the language on the line with the given number. -/
  | invalid (line : Nat)
  /-- It holds code that this library does not read. -/
  | foreign (code : Text)
deriving DecidableEq, Repr

/-- The smallest piece of an expression, as it is spelled. -/
inductive Atom where
  | word (t : Text)
  | number (t : Text)
  | text (t : Text)
deriving DecidableEq, Repr

inductive Token where
  | atom (a : Atom)
  | opening
  | closing
  | comma
  | colon
  | equals
  | dot
deriving DecidableEq, Repr

/-- A line of a script; the first one has the number one. -/
structure Line where
  number : Nat
  indent : Nat
  tokens : List Token
deriving DecidableEq, Repr

/-- Whether a character may stand in a word or a number. -/
def isNameChar (c : Char) : Bool := isPlainChar c || 0x80 ≤ c.toNat

/-- Where the reading of lines stands. -/
structure Scan where
  /-- The number of characters that belong to what was read last. -/
  skip : Nat
  /-- The number of open parentheses. -/
  depth : Nat
  /-- The number of the line at hand, not regarding tokens that go on over lines. -/
  feed : Nat
  /-- The line at hand, its tokens from the last one. -/
  line : Line
  /-- The lines before it, from the last one. -/
  lines : List Line
deriving DecidableEq, Repr

def indentOf (t : Text) : Nat := (t.takeWhile (· = ' ')).length

namespace Scan

def start (t : Text) : Scan := ⟨0, 0, 1, ⟨1, indentOf t, []⟩, []⟩

def finished (s : Scan) : List Line := { s.line with tokens := s.line.tokens.reverse } :: s.lines

/-- A token of the given length has been read. -/
def push (s : Scan) (token : Token) (length : Nat) : Scan :=
  { s with skip := length - 1, line := { s.line with tokens := token :: s.line.tokens } }

/-- The line ends, and `t` comes after it. -/
def wrap (s : Scan) (t : Text) : Scan :=
  { s with feed := s.feed + 1, line := ⟨s.feed + 1, indentOf t, []⟩, lines := s.finished }

/-- A word or a number stands at the start of `t`. -/
def word (s : Scan) (t : Text) : Except Flaw Scan :=
  let word := t.takeWhile isNameChar
  let next := t[word.length]?
  let isNumber := t.head?.any isAsciiDigit
  -- What looks like a word may be the prefix of a text, and a number may go on after a point.
  if next.any isQuote || (isNumber && next = some '.') then .error (.foreign word)
  else .ok (s.push (.atom (if isNumber then .number word else .word word)) word.length)

/-- What is read at the character `c`, which stands before `t`. -/
def next (s : Scan) (c : Char) (t : Text) : Except Flaw Scan :=
  if 0 < s.skip then
    .ok { s with skip := s.skip - 1, feed := if c = '\n' then s.feed + 1 else s.feed }
  else if c = ' ' then .ok s
  else if c = '\n' then .ok (if s.depth = 0 then s.wrap t else { s with feed := s.feed + 1 })
  else if c = '#' then .ok { s with skip := (t.takeWhile (· ≠ '\n')).length }
  else if isQuote c then
    match textLength? (c :: t) with
    | some n => .ok (s.push (.atom (.text ((c :: t).take n))) n)
    | none => .error (.invalid s.feed)
  else if isNameChar c then s.word (c :: t)
  else if c = '(' then .ok { s.push .opening 1 with depth := s.depth + 1 }
  else if c = ')' then
    if s.depth = 0 then .error (.invalid s.feed)
    else .ok { s.push .closing 1 with depth := s.depth - 1 }
  else if c = ',' then .ok (s.push .comma 1)
  else if c = ':' then .ok (s.push .colon 1)
  else if c = '=' then .ok (s.push .equals 1)
  else if c = '.' then .ok (s.push .dot 1)
  else .error (.foreign [c])

/-- Where the reading stands behind a text. -/
def run (s : Scan) : Text → Except Flaw Scan
  | [] => .ok s
  | c :: t => do (← s.next c t).run t

end Scan

/-- The lines of a script that have tokens. -/
def linesOf (t : Text) : Except Flaw (List Line) := do
  let s ← (Scan.start t).run t
  if s.depth ≠ 0 then throw (.invalid s.feed)
  return s.finished.reverse.filter (!·.tokens.isEmpty)

end Stencil.Script
