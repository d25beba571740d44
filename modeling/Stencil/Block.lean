import Stencil.Mask
import Stencil.Depth

/-!
# Code blocks

A code block holds statements, each up to a terminator, and may end in an expression whose value is
written, with a format specifier after a colon.  Only characters outside tokens and at depth zero
count as terminators or as that colon.
-/

namespace Stencil

/-- The expression at the end of a code block. -/
structure Tail where
  expr : Text
  /-- The text of the format specifier. -/
  spec : Option Text
  exprOffset : Int
  /-- The offset of the format specifier, and zero without one. -/
  specOffset : Int
deriving DecidableEq, Repr

/-- A code block in its parts. -/
structure Block where
  statements : Text
  tail : Option Tail
deriving DecidableEq, Repr

namespace Block

/-! ### Statements -/

/-- The spans that the terminators at the given offsets cut a text into. -/
def spansFrom (start stop : Nat) : List Nat → List (Nat × Nat)
  | [] => [(start, stop)]
  | i :: rest => (start, i + 1) :: spansFrom (i + 1) stop rest

/-- The offsets of the terminators in a text whose tokens are blanked. -/
def terminators (d : Dialect) (masked : Text) : List Nat := outerOffsets (· = d.terminator) masked

/-- The spans of the statements of a text, each with its terminator; what comes after the last
terminator is the last span. -/
def statementSpans (d : Dialect) (t : Text) : Except Failure (List (Nat × Nat)) := do
  return spansFrom 0 t.length (terminators d (← mask d t))

/-! ### The colon of a format specifier -/

/-- Whether the colon at offset `i` is part of one of the tokens of the dialect that hold a
colon. -/
def isCompoundColon (d : Dialect) (masked : Text) (i : Nat) : Bool :=
  d.compoundColons.any fun token =>
    token.zipIdx.any fun (c, pos) =>
      c = ':' && pos ≤ i && token.isPrefixOf (masked.drop (i - pos))

/-- Whether a text, given from its end, ends in the quote of a label: no word and no ampersand
stands before it. -/
def endsInLabelQuote (quote : Char) : Text → Bool
  | [] => false
  | c :: t => c = quote && !t.head?.any (fun b => isWordChar b || b = '&')

/-- Whether a text, given from its end, ends in a label, that is in a quote and a name. -/
def endsInLabel (quote : Char) : Text → Bool
  | [] => false
  | c :: t =>
    isWordChar c && ((isPlainStart c && endsInLabelQuote quote t) || endsInLabel quote t)

/-- Whether the colon at offset `i` comes after the label of a loop. -/
def isLabelColon (d : Dialect) (masked : Text) (i : Nat) : Bool :=
  d.charQuote.any fun quote => endsInLabel quote ((masked.take i).reverse.dropWhile isBlank)

/-- The offset of the colon before the format specifier: the last colon at depth zero, counted from
`start`, that has no other meaning. -/
def specColon? (d : Dialect) (masked : Text) (start : Nat) : Option Nat :=
  ((outerFrom (· = ':') start 0 (masked.drop start)).filter fun i =>
    !isCompoundColon d masked i && !isLabelColon d masked i).getLast?

/-! ### Blocks -/

/-- The parts of the code block with the body `t`, which stands at offset `base` of the template.
Comments in the expression and in the format specifier are blanked. -/
def read (d : Dialect) (base : Int) (t : Text) : Except Failure Block := do
  let ms ← marks d t
  let masked := maskWith Mark.isOpaque t ms
  let visible := maskWith Mark.isComment t ms
  -- The tail is what comes after the last terminator.
  let start := (terminators d masked).getLast?.elim 0 (· + 1)
  let statements := t.take start
  -- A tail of blanks and comments is no expression.
  if (visible.drop start).all isBlank then
    return ⟨if statements.all isBlank then [] else statements, none⟩
  match specColon? d masked start with
  | none =>
    let region : Text := visible.drop start
    return ⟨statements, some ⟨region.trim, none, base + start + region.indent, 0⟩⟩
  | some colon =>
    let region : Text := visible.slice start colon
    let specRegion : Text := visible.drop (colon + 1)
    if region.all isBlank then throw (.template ⟨.missingExpression, base + colon⟩)
    return ⟨statements, some ⟨region.trim, some specRegion.trim, base + start + region.indent,
      base + colon + 1 + specRegion.indent⟩⟩

end Block
end Stencil
