import Stencil.FreeNames
import Stencil.Source

/-!
# Templates

A template is compiled in two steps.  The first reads its segments, code blocks and format
specifiers, and a fault of the template found there is reported at its place.  The second makes the
plan and looks for the free names; a fault in a piece of code that is lexed again on its own there
has no place in the template.
-/

namespace Stencil

/-- Why a template is not compiled. -/
inductive CompileFault where
  /-- A fault at a place in the template. -/
  | located (diagnostic : Diagnostic)
  /-- A fault that is not located. -/
  | bare (failure : Failure)

structure Template where
  source : Source
  segments : List Segment
  /-- The code blocks, in the order of their segments. -/
  blocks : List Block
  plan : Plan
  /-- The free names, each with the offset of its first use. -/
  free : List Use

namespace Template

/-- What a segment holds. -/
def readPart (d : Dialect) (s : Segment) : Except Failure Plan.Part := do
  match s.kind with
  | .literal => return .literal s
  | .code =>
    let block ← Block.read d s.bodyStart s.text
    let spec ←
      match block.tail with
      | some { spec := some spec, specOffset, .. } => (FormatSpec.read d specOffset spec).map some
      | _ => pure none
    return .code s block spec

/-- The code block of a part, if it is one. -/
def blockOf? : Plan.Part → Option Block
  | .literal _ => none
  | .code _ b _ => some b

/-- The segments of a template and what they hold. -/
def read (d : Dialect) (t : Text) : Except Failure (List Segment × List Plan.Part) := do
  let found ← Stencil.segments d t
  return (found, ← found.mapM (readPart d))

/-- The report of a failure to read a template. -/
def located (s : Source) : Failure → CompileFault
  | .template e => .located (s.diagnostic e.fault.code e.fault.message e.offset Diagnostic.error)
  | failure => .bare failure

def compile (d : Dialect) (s : Source) : Except CompileFault Template := do
  let (segments, parts) ← (read d s.text).mapError (located s)
  let free ← (freeNames d parts).mapError .bare
  return ⟨s, segments, parts.filterMap blockOf?, Plan.ofParts s.path parts, free⟩

def missing (t : Template) (available : List Text) : List Use :=
  t.free.filter fun u => !available.contains u.name

def warnings (t : Template) (available : List Text) : List Diagnostic :=
  (t.missing available).map fun u =>
    t.source.diagnostic "W_UNBOUND_IDENTIFIER"
      ("identifier '" ++ u.name ++ "' is not bound by the template inputs") u.offset
      Diagnostic.warning

end Template
end Stencil
