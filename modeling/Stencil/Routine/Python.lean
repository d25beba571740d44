import Stencil.Mask
import Stencil.Routine.Basic
import Stencil.Text.Line

/-!
# Python routines

A routine is a module with one function, which writes the template to a sink.  Statements are laid
out anew at the margin of that function, because their lines have no meaning of their own but for
their indentation.
-/

namespace Stencil.Routine.Python

/-! ### Statements -/

/-- Whether a line of code, but for its comment, ends in a colon, so that it owns what is indented
after it. -/
def opensSuite (d : Dialect) (line : Text) : Except Failure Bool := do
  return (Text.trimRight (← mask d line)).endsWith [':']

/-- The lines of statements at the margin.  The first line may follow the brace of the block; the
others are moved left by their common margin, and right by one step if the first line owns them. -/
def statementLines (d : Dialect) (code : Text) : Except Failure (List Text) := do
  let (first, rest) := code.cut '\n'
  let head := first.trim
  let lead := if head.isEmpty then [] else [head]
  let body := (rest.getD []).dedent.stripNewlines
  if body.all isBlank then return lead
  let lines := body.lines.map Text.trimRight
  if head.isEmpty then return lines
  let indent := if ← opensSuite d head then indentUnit else []
  return lead ++ lines.map fun line => if line.isEmpty then line else indent ++ line

/-! ### Operations -/

def operationLines (d : Dialect) : Operation → Except Failure (List Text)
  | .literal [] _ => .ok []
  | .literal text _ => .ok ["_bw_write_literal(sink, " ++ text.quoted ++ ")"]
  | .statements code _ => statementLines d code
  | .formatted expr spec _ =>
    let format : Text := spec.elim [] FormatSpec.toPython
    let mode := spec.elim Mode.display FormatSpec.mode
    .ok ["_bw_write_formatted(sink, (" ++ expr ++ "), " ++ format.quoted ++ ", "
      ++ mode.name.quoted ++ ")"]

/-! ### Routines -/

def imports : List Text :=
  ["from braceweave.runtime import guard_sink as _bw_guard_sink",
    "from braceweave.runtime import write_formatted as _bw_write_formatted",
    "from braceweave.runtime import write_literal as _bw_write_literal"]

/-- The module with the function of the given signature.  The sink is guarded, so that statements
that write to it themselves fail in the same way as the rest. -/
def module (d : Dialect) (p : Plan) (signature : Text) (prologue : List Text) :
    Except Failure Text := do
  let operations ← p.operations.mapM (operationLines d)
  let body := ("sink = _bw_guard_sink(sink)" : Text) :: prologue ++ operations.flatten
  let remark : Text := "# " ++ header p
  let opening : Text := "def " ++ signature ++ ":"
  return unlines <| remark :: imports ++ [[], [], opening]
    ++ body.map fun line => if line.isEmpty then line else indentUnit ++ line

def bindingLine (b : Binding) : Text :=
  let type := b.type.trim
  if type.isEmpty then b.name ++ " = self." ++ b.name
  else b.name ++ ": " ++ type.quoted ++ " = self." ++ b.name

def record (d : Dialect) (p : Plan) (shape : RecordShape) : Except Failure Text :=
  module d p (shape.functionName ++ "(self, sink)") (shape.bindings.map bindingLine)

def inline (d : Dialect) (p : Plan) : Except Failure Text :=
  module d p "_braceweave_inline(sink)" []

end Stencil.Routine.Python
