import Stencil.Text.Blank
import Stencil.Text.Line
import Stencil.Value.Order

/-!
# Values over lines

A value that does not fit on a line is laid out over several: one item of a list or one entry of a
dictionary on each, and a long text in pieces, cut after its lines and its words.
-/

namespace Stencil

namespace Text

/-- The line that `current` holds in reverse and the lines after it, each with its end. -/
def fullLinesFrom (current : Text) : Text → List Text
  | [] => if current.isEmpty then [] else [current.reverse]
  | '\r' :: '\n' :: t => ('\n' :: '\r' :: current).reverse :: fullLinesFrom [] t
  | c :: t =>
    if isLineEnd c then (c :: current).reverse :: fullLinesFrom [] t
    else fullLinesFrom (c :: current) t

def fullLines (t : Text) : List Text := fullLinesFrom [] t

/-- The word that `current` holds in reverse, with the blanks after it, and the words after it;
`spaced` says whether there are blanks in it already. -/
def wordsFrom (spaced : Bool) (current : Text) : Text → List Text
  | [] => if current.isEmpty then [] else [current.reverse]
  | c :: t =>
    if isBlank c then wordsFrom true (c :: current) t
    else if spaced then current.reverse :: wordsFrom false [c] t
    else wordsFrom false (c :: current) t

/-- The words of a text, each with the blanks after it; blanks at the start are a word of their
own. -/
def words (t : Text) : List Text := wordsFrom false [] t

end Text

namespace Value

def lineWidth : Nat := 80

def fits (indent allowance : Nat) (t : Text) : Bool := indent + t.length + allowance ≤ lineWidth

def newLine (indent : Nat) : Text := '\n' :: Text.pad ' ' indent

/-! ### Long texts -/

/-- The pieces, between quotes, that words are gathered into after `current`, each as long as it
may be; `allowance` more characters follow the last word. -/
def gather (indent allowance : Nat) (current : Text) : List Text → List Text
  | [] => if current.isEmpty then [] else [current.quoted]
  | word :: words =>
    -- What follows the text only matters for the piece that holds the last word.
    let candidate := current ++ word
    if fits indent (if words.isEmpty then allowance else 0) candidate.quoted then
      gather indent allowance candidate words
    else
      (if current.isEmpty then [] else [current.quoted]) ++ gather indent allowance word words

/-- The pieces, between quotes, of the lines of a text. -/
def pieces (indent allowance : Nat) : List Text → List Text
  | [] => []
  | line :: lines =>
    let after := if lines.isEmpty then allowance else 0
    (if fits indent after line.quoted then [line.quoted] else gather indent after [] line.words)
      ++ pieces indent allowance lines

/-- A text in pieces, each on a line of its own.  A text that stands alone is put between
parentheses. -/
def longText (indent allowance : Nat) (alone : Bool) (t : Text) : Text :=
  let extra := if alone then 1 else 0
  match pieces (indent + extra) (allowance + extra) t.fullLines with
  | [] => t.quoted
  | [piece] => piece
  | found =>
    let body := Text.join (newLine (indent + extra)) found
    if alone then '(' :: body ++ [')'] else body

/-! ### Lists and dictionaries -/

mutual

/-- A value after `indent` characters and before `allowance` more. -/
def prettyAt (indent allowance : Nat) (alone : Bool) : Value → Text
  | .list items =>
    let flat := spelled (.list items)
    if fits indent allowance flat then flat
    else '[' :: prettyItems (indent + 1) (allowance + 1) items ++ [']']
  | .dict entries =>
    let flat := spelled (.dict entries)
    if fits indent allowance flat then flat
    else '{' :: prettyEntries (indent + 1) (allowance + 1) entries ++ ['}']
  | .text t =>
    if fits indent allowance t.quoted then t.quoted else longText indent allowance alone t
  | v => v.spelled
termination_by structural v => v

def prettyItems (indent allowance : Nat) : List Value → Text
  | [] => []
  | v :: vs =>
    prettyAt indent (if vs.isEmpty then allowance else 1) false v
      ++ (if vs.isEmpty then [] else ',' :: newLine indent ++ prettyItems indent allowance vs)
termination_by structural vs => vs

def prettyEntries (indent allowance : Nat) : List (Value × Value) → Text
  | [] => []
  | e :: es =>
    prettyEntry indent (if es.isEmpty then allowance else 1) e
      ++ (if es.isEmpty then [] else ',' :: newLine indent ++ prettyEntries indent allowance es)
termination_by structural es => es

def prettyEntry (indent allowance : Nat) : Value × Value → Text
  | (k, v) =>
    -- The value begins after the key, the colon and a space.
    let key := k.spelled
    key ++ ':' :: ' ' :: prettyAt (indent + key.length + 2) allowance false v
termination_by structural e => e

end

/-- A value laid out over as many lines as it needs, with dictionaries in the order of their
keys. -/
def pretty (v : Value) : Text := prettyAt 0 0 true v.sorted

end Value
end Stencil
