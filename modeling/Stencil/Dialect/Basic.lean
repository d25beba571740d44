import Stencil.Value.Basic
import Stencil.Pattern.Basic

/-!
# Dialects

The lexical profile of the language that stands in the code blocks of a template.  Only the bounds
of tokens are described; the grammar of the language is never consulted.
-/

namespace Stencil

/-- The language of the routines that are generated. -/
inductive Target where
  | rust
  | python
deriving DecidableEq, Repr

def Target.name : Target → Text
  | .rust => "rust"
  | .python => "python"

/-- An entry of a list in a dialect record.  Some lists are taken as they come, so that an entry may
be no text at all; it then never equals a part of a template. -/
inductive Entry where
  | text (t : Text)
  | other (value : Json)

/-- Whether an entry is a given text. -/
def Entry.isText (e : Entry) (t : Text) : Bool :=
  match e with
  | .text s => s = t
  | .other _ => false

def Entry.toJson : Entry → Json
  | .text t => .str t
  | .other value => value

/-- The lexical profile of a language. -/
structure Dialect where
  name : Text
  /-- The language of the routines generated from templates in this dialect. -/
  target : Target
  /-- The characters between which strings stand. -/
  quotes : List Entry
  /-- What may stand before the quote of a string, the longest first. -/
  stringPrefixes : List Entry
  /-- Whether three quotes in a row open a string of their own. -/
  tripleQuotes : Bool
  /-- Whether a string between single quotes may go on over the end of a line. -/
  multilineStrings : Bool
  /-- Whether strings may be written raw, between quotes with any number of hashes. -/
  rawHashes : Bool
  /-- The quote of character literals. -/
  charQuote : Option Char
  /-- What opens a comment up to the end of the line. -/
  lineComments : List Entry
  /-- What opens and what closes a comment that may go on over lines. -/
  blockComment : Option (Text × Text)
  /-- Whether such comments may stand in each other. -/
  nestedComments : Bool
  /-- The character that ends a statement. -/
  terminator : Char
  /-- The tokens that hold a colon and do not introduce a format specifier. -/
  compoundColons : List Text
  /-- The types that a format specifier may name. -/
  typeFlags : List Text
  keywords : List Text
  builtins : List Text
  /-- The names that generated routines bring along. -/
  implicitNames : List Text
  /-- What stands before a name that belongs to another. -/
  memberPrefixes : List Text
  /-- What follows a name that is not a variable. -/
  skipFollowers : List Pattern
  /-- How statements and expressions bind names, in the group `names`. -/
  bindingPatterns : List Pattern
  /-- Whether names that begin with a capital letter are no variables. -/
  ignoreCapitalized : Bool
  /-- The openings of line comments that may also stand in a format specifier. -/
  specMarkers : List Text
  /-- Whether a format specifier may have a sign along with a debug type. -/
  debugAcceptsSign : Bool

def Dialect.isQuote (d : Dialect) (c : Char) : Bool := d.quotes.any (·.isText [c])

end Stencil
