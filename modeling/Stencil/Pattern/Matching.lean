import Stencil.Pattern.Basic
import Stencil.Text.Blank
import Stencil.Text.Numeral
import Stencil.Text.Word
import Stencil.Text.Casing

/-!
# Matching

Where a pattern matches in a text.  A tree is tried at a position with a continuation for what
follows it; the first way to match on which the continuation succeeds is the one that counts.
-/

namespace Stencil

/-! ### Single characters -/

/-- Whether a character belongs to a word, in the wide sense or among the ASCII characters. -/
def isWordIn (ascii : Bool) (c : Char) : Bool := if ascii then isPlainChar c else isWordChar c

def SetItem.accepts (c : Char) : SetItem → Bool
  | .range low high => low ≤ c && c ≤ high
  | .digit negated ascii => (if ascii then isAsciiDigit c else isDecimal c) != negated
  | .blank negated ascii => (if ascii then isAsciiBlank c else isBlank c) != negated
  | .word negated ascii => isWordIn ascii c != negated

/-- Whether an item of a set accepts a character or one that counts as one with it.  A single
character beyond the first plane is compared with the small form alone. -/
def SetItem.folded (f : Folding) (c : Char) : SetItem → Bool
  | .range low high =>
    if low = high && 0x10000 ≤ low.toNat then f.small c = low
    else (f.closure c).any fun d => low ≤ d && d ≤ high
  | item => item.accepts (f.small c)

def SetItem.anyAccepts (f : Folding) (items : List SetItem) (c : Char) : Bool :=
  match items with
  | [.range low high] => if low = high then f.same low c else SetItem.folded f c (.range low high)
  | items => items.any (SetItem.folded f c)

namespace Pattern

/-! ### Trees -/

/-- A place in a text, and the extents of the groups matched on the way there. -/
structure Place where
  pos : Nat
  groups : List (Nat × Nat × Nat)
deriving Repr

def Place.extent? (p : Place) (index : Nat) : Option (Nat × Nat) :=
  (p.groups.find? (·.1 = index)).map (·.2)

/-- What is to match after the part at hand. -/
abbrev Continuation := Place → Option Place

def one (text : Array Char) (test : Char → Bool) (k : Continuation) (p : Place) : Option Place :=
  match text[p.pos]? with
  | some c => if test c then k { p with pos := p.pos + 1 } else none
  | none => none

def all (text : Array Char) (f : Folding) : Text → Continuation → Continuation
  | [], k => k
  | c :: t, k => one text (fun d => f.small c = f.small d) (all text f t k)

def wordAt (text : Array Char) (ascii : Bool) (pos : Nat) : Bool × Bool :=
  ((pos ≠ 0 && (text[pos - 1]?.any (isWordIn ascii))), text[pos]?.any (isWordIn ascii))

/-- A step taken exactly `n` times. -/
def times (step : Continuation → Continuation) : Nat → Continuation → Continuation
  | 0, k => k
  | n + 1, k => step (times step n k)

/-- A step taken up to `n` times, as many as possible or as few as possible first.  After a step
that takes no character, which began at `last`, no further one is tried. -/
def upTo (step : Continuation → Continuation) (many : Bool) :
    (n : Nat) → (last : Option Nat) → Continuation → Continuation
  | 0, _, k, p => k p
  | n + 1, last, k, p =>
    let again (_ : Unit) :=
      if last = some p.pos then none else step (upTo step many n (some p.pos) k) p
    if many then
      match again () with
      | some q => some q
      | none => k p
    else
      match k p with
      | some q => some q
      | none => again ()

/-- The first match of a tree from a place on which the continuation succeeds. -/
def Node.run (text : Array Char) : Node → Continuation → Continuation
  | .empty, k, p => k p
  | .char f c, k, p => one text (f.same c) k p
  | .any newlines, k, p => one text (fun c => newlines || c ≠ '\n') k p
  | .set f negated items, k, p => one text (fun c => SetItem.anyAccepts f items c != negated) k p
  | .seq a b, k, p => a.run text (b.run text k) p
  | .alt a b, k, p =>
    match a.run text k p with
    | some q => some q
    | none => b.run text k p
  | .repetition appetite least most body, k, p =>
    -- Every step but one takes a character, so the length of the text bounds an open count.
    let more := (most.getD (text.size + 2 + least)) - least
    match appetite with
    | .greedy => times (body.run text) least (upTo (body.run text) true more none k) p
    | .lazy => times (body.run text) least (upTo (body.run text) false more none k) p
    | .possessive =>
      match times (body.run text) least (upTo (body.run text) true more none some) p with
      | some q => k q
      | none => none
  | .group none body, k, p => body.run text k p
  | .group (some index) body, k, p =>
    body.run text (fun q => k { q with groups := (index, p.pos, q.pos) :: q.groups }) p
  | .back f index _ _, k, p =>
    match p.extent? index with
    | some (a, b) => all text f (text.toList.extract a b) k p
    -- A reference to a group that has not matched does not match.
    | none => none
  | .ahead negated body, k, p =>
    match body.run text some p with
    | some q => if negated then none else k { p with groups := q.groups }
    | none => if negated then k p else none
  | .behind negated width body, k, p =>
    let found := if p.pos < width then none else body.run text some { p with pos := p.pos - width }
    match found with
    | some q => if negated then none else k { p with groups := q.groups }
    | none => if negated then k p else none
  | .atomic body, k, p =>
    match body.run text some p with
    | some q => k q
    | none => none
  | .condition index yes no, k, p =>
    if (p.extent? index).isSome then yes.run text k p else no.run text k p
  | .start lines, k, p =>
    if p.pos = 0 || (lines && text[p.pos - 1]? = some '\n') then k p else none
  | .stop lines, k, p =>
    if p.pos = text.size || (text[p.pos]? = some '\n' && (lines || p.pos + 1 = text.size)) then k p
    else none
  | .textStart, k, p => if p.pos = 0 then k p else none
  | .textEnd, k, p => if p.pos = text.size then k p else none
  | .boundary negated ascii, k, p =>
    -- An empty text has no boundary, and no place that is none either.
    let (before, after) := wordAt text ascii p.pos
    if text.size ≠ 0 && (before != after) != negated then k p else none

/-! ### Searching -/

/-- A match: where it starts, and the place it reaches. -/
structure Match where
  start : Nat
  reached : Place
deriving Repr

/-- The match that starts at a given position; an empty one does not count if `nonempty` is set. -/
def matchAt? (p : Pattern) (text : Array Char) (nonempty : Bool) (pos : Nat) : Option Match :=
  (p.root.run text (fun q => if nonempty && q.pos = pos then none else some q) ⟨pos, []⟩).map
    (⟨pos, ·⟩)

/-- The first match that starts at one of `count` positions from `pos` on; at the first of them an
empty match does not count if `nonempty` is set. -/
def searchFrom (p : Pattern) (text : Array Char) (nonempty : Bool) :
    (count pos : Nat) → Option Match
  | 0, _ => none
  | count + 1, pos =>
    match matchAt? p text nonempty pos with
    | some m => some m
    | none => searchFrom p text false count (pos + 1)

/-- Up to `count` matches one after the other, each the first at or after the end of the one before;
after an empty match the next one is not empty if it starts at the same place. -/
def matchesFrom (p : Pattern) (text : Array Char) :
    (count : Nat) → (nonempty : Bool) → (pos : Nat) → List Match
  | 0, _, _ => []
  | count + 1, nonempty, pos =>
    match searchFrom p text nonempty (text.size + 1 - pos) pos with
    | none => []
    | some m => m :: matchesFrom p text count (m.reached.pos = m.start) m.reached.pos

def matchesIn (p : Pattern) (text : Text) : List Match :=
  let text := text.toArray
  matchesFrom p text (2 * text.size + 2) false 0

/-- Whether a pattern matches from a given position of a text. -/
def matchesAt (p : Pattern) (text : Text) (pos : Nat) : Bool :=
  (matchAt? p text.toArray false pos).isSome

end Pattern
end Stencil
