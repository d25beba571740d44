import Stencil.Pattern.Folding
import Stencil.Text.Basic

/-!
# Patterns

Regular expressions with groups, references back to groups, and conditions on the neighbourhood of a
position.  A pattern keeps the text it was written as beside the tree that the text stands for.
-/

namespace Stencil

/-- A test that one item of a set of characters makes. -/
inductive SetItem where
  /-- The characters from `low` to `high`. -/
  | range (low high : Char)
  /-- A decimal digit, or any other character; with `ascii` only `0` to `9` are digits. -/
  | digit (negated ascii : Bool)
  /-- A blank, or any other character. -/
  | blank (negated ascii : Bool)
  /-- A character of a word, or any other character. -/
  | word (negated ascii : Bool)
deriving DecidableEq, Repr

/-- How many of the repetitions that are possible a repetition takes first. -/
inductive Appetite where
  /-- As many as possible, and fewer when the rest does not match. -/
  | greedy
  /-- As few as possible, and more when the rest does not match. -/
  | lazy
  /-- As many as possible, and never fewer. -/
  | possessive
deriving DecidableEq, Repr

/-- The tree of a pattern. -/
inductive Pattern.Node where
  /-- Matches the empty text. -/
  | empty
  /-- One given character. -/
  | char (folding : Folding) (c : Char)
  /-- One character; a line feed only if `newlines` is set. -/
  | any (newlines : Bool)
  /-- One character that some item accepts, or that none accepts if `negated` is set. -/
  | set (folding : Folding) (negated : Bool) (items : List SetItem)
  | seq (first second : Node)
  | alt (first second : Node)
  /-- At least `least` and at most `most` times the body. -/
  | repetition (appetite : Appetite) (least : Nat) (most : Option Nat) (body : Node)
  /-- The body, whose extent is recorded under `index` if there is one. -/
  | group (index : Option Nat) (body : Node)
  /-- The text that the group `index` matched, which is between `least` and `most` characters
  long. -/
  | back (folding : Folding) (index least most : Nat)
  /-- Whether the body matches from here, or not if `negated` is set; nothing is taken. -/
  | ahead (negated : Bool) (body : Node)
  /-- Whether the body matches the `width` characters up to here, or not. -/
  | behind (negated : Bool) (width : Nat) (body : Node)
  /-- The first match of the body, and no other. -/
  | atomic (body : Node)
  /-- `yes` if the group `index` matched, and `no` otherwise. -/
  | condition (index : Nat) (yes no : Node)
  /-- The start of the text, or of any line if `lines` is set. -/
  | start (lines : Bool)
  /-- The end of the text or of its last line, or of any line if `lines` is set. -/
  | stop (lines : Bool)
  /-- The start of the text. -/
  | textStart
  /-- The end of the text. -/
  | textEnd
  /-- A place between a character of a word and one that is not, or any other place; an empty text
  has no such places. -/
  | boundary (negated ascii : Bool)
deriving Repr

/-- A pattern: its text, the groups that have names, and its tree. -/
structure Pattern where
  source : Text
  names : List (Text × Nat)
  root : Pattern.Node
deriving Repr

namespace Pattern.Node

/-- The greatest width that is told from an unbounded one. -/
def widthLimit : Nat := Nat.pow 2 64

/-- The least and the greatest count of characters that a tree matches. -/
def width : Node → Nat × Nat
  | .empty | .ahead .. | .behind .. | .start _ | .stop _ | .textStart | .textEnd | .boundary .. =>
    (0, 0)
  | .char .. | .any _ | .set .. => (1, 1)
  | .seq a b => (min widthLimit (a.width.1 + b.width.1), min widthLimit (a.width.2 + b.width.2))
  | .alt a b => (min a.width.1 b.width.1, max a.width.2 b.width.2)
  | .repetition _ least most body =>
    (min widthLimit (body.width.1 * least),
      match most with
      | some n => min widthLimit (body.width.2 * n)
      | none => if body.width.2 = 0 then 0 else widthLimit)
  | .group _ body | .atomic body => body.width
  | .back _ _ least most => (least, most)
  | .condition _ yes no => (min yes.width.1 no.width.1, max yes.width.2 no.width.2)

/-- Whether a tree is a condition on a position alone, which cannot be repeated. -/
def isAnchor : Node → Bool
  | .start _ | .stop _ | .textStart | .textEnd | .boundary .. => true
  | _ => false

/-- Whether a tree is a repetition, which cannot be repeated as it stands. -/
def isRepetition : Node → Bool
  | .repetition .. => true
  | _ => false

/-- The trees of a list one after the other. -/
def ofList : List Node → Node
  | [] => .empty
  | [n] => n
  | n :: ns => .seq n (ofList ns)

end Pattern.Node
end Stencil
