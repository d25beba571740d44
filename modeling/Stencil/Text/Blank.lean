import Stencil.Text.Basic

/-!
# White space

Which characters are blank, and texts without the blanks at their ends.  The blanks are the
horizontal and vertical spacing controls, the four information separators, the next-line control
and the space separators of Unicode.
-/

namespace Stencil

/-- The code points of white space. -/
def blanks : List Nat :=
  [0x9, 0xa, 0xb, 0xc, 0xd, 0x1c, 0x1d, 0x1e, 0x1f, 0x20, 0x85, 0xa0, 0x1680, 0x2000, 0x2001,
    0x2002, 0x2003, 0x2004, 0x2005, 0x2006, 0x2007, 0x2008, 0x2009, 0x200a, 0x2028, 0x2029, 0x202f,
    0x205f, 0x3000]

def isBlank (c : Char) : Bool := blanks.contains c.toNat

/-- White space among the characters that take one byte. -/
def isAsciiBlank (c : Char) : Bool := [' ', '\t', '\n', '\r', '\x0b', '\x0c'].contains c

namespace Text

def trimLeft (t : Text) : Text := t.dropWhile isBlank

def trimRight : Text → Text
  | [] => []
  | c :: t =>
    match trimRight t with
    | [] => if isBlank c then [] else [c]
    | d :: r => c :: d :: r

/-- A text without the blanks at either end. -/
def trim (t : Text) : Text := trimRight (trimLeft t)

def indent (t : Text) : Nat := (t.takeWhile isBlank).length

end Text
end Stencil
