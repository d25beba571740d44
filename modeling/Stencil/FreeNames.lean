import Stencil.Plan
import Stencil.Pattern.Reader
import Stencil.Pattern.Matching

/-!
# Free names

The names that the code of a template uses and does not bind.  The search is lexical: names are
looked for outside tokens, a statement or an expression binds what the patterns of the dialect say,
and a name that belongs to another, or that is followed by one of the marks of the dialect, is not a
use.
-/

namespace Stencil

/-- A name and the offset of its first character. -/
structure Use where
  name : Text
  offset : Int
deriving DecidableEq, Repr

namespace Use

/-! ### Names in a text -/

/-- The plain names in a text at `offset`, whose first `skip` characters have been taken already. -/
def namesFrom : (skip offset : Nat) → Text → List (Text × Nat)
  | _, _, [] => []
  | skip + 1, offset, _ :: t => namesFrom skip (offset + 1) t
  | 0, offset, c :: t =>
    if isPlainStart c then
      let more := t.takeWhile isPlainChar
      (c :: more, offset) :: namesFrom more.length (offset + 1) t
    else namesFrom 0 (offset + 1) t

/-- The plain names in a text with their offsets. -/
def names (t : Text) : List (Text × Nat) := namesFrom 0 0 t

/-- The names that one match of a pattern binds. -/
def namesOfMatch (p : Pattern) (masked : Text) (m : Pattern.Match) :
    Except BindingFault (List Text) :=
  match p.groupNamed? "names" with
  | none => .error .noGroup
  | some group =>
    match m.reached.extent? group with
    | none => .error .unmatchedGroup
    | some (start, stop) => .ok ((names (masked.slice start stop)).map (·.1))

def boundNames (d : Dialect) (masked : Text) : Except BindingFault (List Text) := do
  let found ← d.bindingPatterns.mapM fun p => (p.matchesIn masked).mapM (namesOfMatch p masked)
  return found.flatten.flatten.filter fun name => !d.keywords.contains name

/-! ### Uses -/

/-- Whether the name at `offset` belongs to what stands before it. -/
def isMember (d : Dialect) (masked : Text) (offset : Nat) : Bool :=
  let before := Text.trimRight (masked.take offset)
  d.memberPrefixes.any before.endsWith

/-- Whether the name that ends at `stop` is followed by a mark of something other than a
variable. -/
def isSkipped (d : Dialect) (masked : Text) (stop : Nat) : Bool :=
  d.skipFollowers.any fun p => p.matchesAt masked stop

/-- Whether the dialect gives a name a meaning of its own. -/
def isGiven (d : Dialect) (name : Text) : Bool :=
  d.keywords.contains name || d.builtins.contains name || d.implicitNames.contains name
    || (d.ignoreCapitalized && name.head?.any Char.isUpper)

/-- Whether the name at `offset` goes on from a word, such as a number, that begins before it. -/
def continuesWord (masked : Text) (offset : Nat) : Bool :=
  0 < offset && (masked[offset - 1]?).any isWordChar

/-- The names that a piece of code uses, with their offsets in it. -/
def usesIn (d : Dialect) (masked : Text) : List (Text × Nat) :=
  (names masked).filter fun (name, offset) =>
    !continuesWord masked offset && !isGiven d name && !isMember d masked offset
      && !isSkipped d masked (offset + name.length)

/-- The uses in a piece of code at `base` of names that are not bound. -/
def freeIn (d : Dialect) (masked : Text) (base : Int) (bound : List Text) : List Use :=
  ((usesIn d masked).filter fun (name, _) => !bound.contains name).map fun (name, offset) =>
    ⟨name, base + offset⟩

/-- The free uses in the statements that the given spans of `t` hold, and the names that are bound
after them.  What a statement binds counts in it and in all that comes after it. -/
def ofStatements (d : Dialect) (t : Text) (base : Int) (bound : List Text) :
    List (Nat × Nat) → Except Failure (List Use × List Text)
  | [] => .ok ([], bound)
  | (start, stop) :: spans => do
    let masked ← mask d (t.slice start stop)
    if masked.all isBlank then ofStatements d t base bound spans
    else
      -- What a statement binds is bound in the statement itself already.
      let bound := bound ++ (← (boundNames d masked).mapError .binding)
      let here := freeIn d masked (base + start) bound
      let (later, bound) ← ofStatements d t base bound spans
      return (here ++ later, bound)

/-- The free uses in the code block of a segment, in the order of the code. -/
def ofBlock (d : Dialect) (s : Segment) (b : Block) : Except Failure (List Use) := do
  let spans ← if b.statements.isEmpty then pure [] else Block.statementSpans d b.statements
  let (here, bound) ← ofStatements d b.statements s.bodyStart [] spans
  match b.tail with
  | none => return here
  | some tail =>
    let masked ← mask d tail.expr
    let bound := bound ++ (← (boundNames d masked).mapError .binding)
    return here ++ freeIn d masked tail.exprOffset bound

/-! ### Free names -/

def firsts : List Use → List Use
  | [] => []
  | u :: uses => u :: (firsts uses).filter (·.name ≠ u.name)

/-- The order of uses by their offsets, and by their names at one offset. -/
def le (u v : Use) : Bool :=
  u.offset < v.offset || (u.offset = v.offset && u.name.le v.name)

end Use

/-- The free names of a template in its parts, each with the offset of its first use. -/
def freeNames (d : Dialect) (parts : List Plan.Part) : Except Failure (List Use) := do
  let uses ← parts.mapM fun
    | .literal _ => pure []
    | .code s b _ => Use.ofBlock d s b
  return (Use.firsts uses.flatten).mergeSort Use.le

end Stencil
