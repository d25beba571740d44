import Stencil.Text.Basic

/-!
# Depth

How deep each character of a text lies in parentheses, brackets and braces.  The three kinds are
not told apart, and a closer that closes nothing is passed over.
-/

namespace Stencil

/-- Whether a character opens a bracket of any kind. -/
def isOpener (c : Char) : Bool := c = '(' || c = '[' || c = '{'

/-- Whether a character closes a bracket of any kind. -/
def isCloser (c : Char) : Bool := c = ')' || c = ']' || c = '}'

/-- The depth of a character before which `depth` brackets are open.  Both brackets of a pair have
the depth outside it. -/
def depthAt (depth : Nat) (c : Char) : Nat := if isCloser c then depth - 1 else depth

/-- The number of open brackets after a character. -/
def depthAfter (depth : Nat) (c : Char) : Nat :=
  if isOpener c then depth + 1 else if isCloser c then depth - 1 else depth

/-- The depths of the characters of a text before which `depth` brackets are open. -/
def depthsFrom (depth : Nat) : Text → List Nat
  | [] => []
  | c :: t => depthAt depth c :: depthsFrom (depthAfter depth c) t

def depths (t : Text) : List Nat := depthsFrom 0 t

/-- The offsets of the characters at depth zero that pass a test, in a text that stands at `offset`
and before which `depth` brackets are open. -/
def outerFrom (test : Char → Bool) (offset depth : Nat) : Text → List Nat
  | [] => []
  | c :: t =>
    let later := outerFrom test (offset + 1) (depthAfter depth c) t
    if test c && depthAt depth c = 0 then offset :: later else later

/-- The offsets of the characters at depth zero that pass a test. -/
def outerOffsets (test : Char → Bool) (t : Text) : List Nat := outerFrom test 0 0 t

theorem length_depthsFrom (depth : Nat) (t : Text) : (depthsFrom depth t).length = t.length := by
  induction t generalizing depth with
  | nil => rfl
  | cons c t ih => simp [depthsFrom, ih]

end Stencil
