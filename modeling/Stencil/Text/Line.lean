import Stencil.Text.Blank

/-!
# Lines

The line ends of a text in three roles: universal newlines, where a carriage return counts as a
line feed; the wider set of line boundaries at which a block of code is cut into lines; and the
common margin that a block of code is moved left by.
-/

namespace Stencil.Text

/-! ### Universal newlines -/

/-- A text with every carriage return, alone or before a line feed, read as one line feed. -/
def unifyNewlines : Text → Text
  | [] => []
  | '\r' :: '\n' :: t => '\n' :: unifyNewlines t
  | c :: t => (if c = '\r' then '\n' else c) :: unifyNewlines t

/-! ### Line boundaries -/

/-- Whether a character ends a line of code: the line feed and the carriage return, the vertical
tab, the form feed, three of the information separators, and the next-line, line-separator and
paragraph-separator characters. -/
def isLineEnd (c : Char) : Bool :=
  [0xa, 0xb, 0xc, 0xd, 0x1c, 0x1d, 0x1e, 0x85, 0x2028, 0x2029].contains c.toNat

/-- The line that `current` holds in reverse and the lines after it.  A carriage return and a line
feed end one line together, and a text that ends with a line end has no further line. -/
def linesFrom (current : Text) : Text → List Text
  | [] => if current.isEmpty then [] else [current.reverse]
  | '\r' :: '\n' :: t => current.reverse :: linesFrom [] t
  | c :: t => if isLineEnd c then current.reverse :: linesFrom [] t else linesFrom (c :: current) t

def lines (t : Text) : List Text := linesFrom [] t

/-! ### The common margin -/

def isMarginChar (c : Char) : Bool := c = ' ' || c = '\t'

/-- The longest text that begins both arguments. -/
def commonStart : Text → Text → Text
  | a :: s, b :: t => if a = b then a :: commonStart s t else []
  | _, _ => []

/-- A line of spaces and tabs alone counts as empty. -/
def blankToEmpty (line : Text) : Text := if line.all isMarginChar then [] else line

/-- The margin that the lines with some content share, if there is such a line. -/
def margin? (lines : List Text) : Option Text :=
  (lines.filter (!·.isEmpty)).foldl
    (fun shared line =>
      let own := line.takeWhile isMarginChar
      some (shared.elim own (commonStart · own)))
    none

/-- A text moved left by the margin that its lines share; lines of spaces and tabs become empty. -/
def dedent (t : Text) : Text :=
  let lines := (splitAt '\n' t).map blankToEmpty
  let width := ((margin? lines).getD []).length
  join ['\n'] (lines.map (·.drop width))

/-- A text without the line feeds at either end. -/
def stripNewlines (t : Text) : Text :=
  ((t.dropWhile (· = '\n')).reverse.dropWhile (· = '\n')).reverse

end Stencil.Text
