import Stencil.Json.Printer
import Stencil.Sha256
import Stencil.Text.Line

/-!
# Template sources and diagnostics

A source is the text of a template with its path.  A place in it is shown by its byte offset, its
line and its column; a diagnostic is a message about such a place.
-/

namespace Stencil

/-- The text of a template and its path. -/
structure Source where
  path : Text
  text : Text
deriving DecidableEq, Repr

structure Location where
  /-- The number of bytes before the place in UTF-8. -/
  byte : Nat
  /-- The number of the line, from one. -/
  line : Nat
  /-- The number of the column, from one. -/
  column : Nat
deriving DecidableEq, Repr

/-- A message about a place in a template. -/
structure Diagnostic where
  code : Text
  severity : Text
  message : Text
  path : Text
  location : Location
  /-- The text of the line, if it is known. -/
  excerpt : Text
deriving DecidableEq, Repr

namespace Diagnostic

def error : Text := "error"

def warning : Text := "warning"

def isError (d : Diagnostic) : Bool := d.severity = error

def toJson (d : Diagnostic) : Json :=
  .obj [("code", .str d.code), ("severity", .str d.severity), ("message", .str d.message),
    ("path", .str d.path), ("offset", .int d.location.byte), ("line", .int d.location.line),
    ("col", .int d.location.column)]

/-- The place of a diagnostic, as `path:line:column`. -/
def place (d : Diagnostic) : Text :=
  d.path ++ ":" ++ Text.ofNat d.location.line ++ ":" ++ Text.ofNat d.location.column

/-- A diagnostic for its reader, with the line and a caret under the column. -/
def render (d : Diagnostic) : Text :=
  let head := d.place ++ ": " ++ d.severity ++ "[" ++ d.code ++ "]: " ++ d.message
  if d.excerpt.isEmpty then head
  else
    head ++ "\n  " ++ d.excerpt ++ "\n  " ++ Text.pad ' ' (d.location.column - 1) ++ "^"

def summary (d : Diagnostic) : Text := d.code ++ ": " ++ d.message

end Diagnostic

namespace Source

/-- The fingerprint of a source: the digest of its text with universal newlines. -/
def fingerprint (s : Source) : Text :=
  "sha256:" ++ Sha256.hexDigest s.text.unifyNewlines.toUtf8

/-! ### Lines -/

/-- The offsets at which lines begin after the line feeds of a text that stands at `offset`. -/
def lineStartsFrom (offset : Nat) : Text → List Nat
  | [] => []
  | c :: t =>
    if c = '\n' then (offset + 1) :: lineStartsFrom (offset + 1) t
    else lineStartsFrom (offset + 1) t

def lineStarts (t : Text) : List Nat := 0 :: lineStartsFrom 0 t

/-- An offset moved to the nearest one that lies in a text or at its end. -/
def clamp (t : Text) (offset : Int) : Nat := min offset.toNat t.length

/-- The line starts up to an offset. -/
def startsUpTo (t : Text) (offset : Nat) : List Nat := (lineStarts t).takeWhile (· ≤ offset)

def locate (s : Source) (offset : Int) : Location :=
  let o := clamp s.text offset
  let starts := startsUpTo s.text o
  ⟨Text.utf8Size (s.text.take o), starts.length, o - starts.getLast?.getD 0 + 1⟩

/-- The text of a line, without its end and without carriage returns before it. -/
def lineText (s : Source) (line : Nat) : Text :=
  let rest := s.text.drop ((lineStarts s.text)[line - 1]?.getD 0)
  ((rest.takeWhile (· ≠ '\n')).reverse.dropWhile (· = '\r')).reverse

/-! ### Diagnostics -/

def diagnostic (s : Source) (code message : Text) (offset : Int) (severity : Text) : Diagnostic :=
  let location := s.locate offset
  ⟨code, severity, message, s.path, location, s.lineText location.line⟩

end Source
end Stencil
