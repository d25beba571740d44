import Stencil.Block
import Stencil.FormatSpec
import Stencil.Json.Printer
import Stencil.Segment
import Stencil.Sha256

/-!
# Plans

What a template does, as a list of operations: write a literal text, run statements, write the value
of an expression.  A plan has a canonical spelling, whose digest identifies it.
-/

namespace Stencil

/-- A step of a plan, with the offset in the template that it comes from. -/
inductive Operation where
  | literal (text : Text) (offset : Int)
  | statements (code : Text) (offset : Int)
  | formatted (expr : Text) (spec : Option FormatSpec) (offset : Int)
deriving DecidableEq, Repr

structure Plan where
  /-- The path of the template. -/
  path : Text
  operations : List Operation
deriving DecidableEq, Repr

namespace Operation

def offset : Operation → Int
  | .literal _ offset | .statements _ offset | .formatted _ _ offset => offset

/-- The number of bytes that an operation is expected to write: a literal has its own, and the value
of an expression is taken for sixteen. -/
def estimatedSize : Operation → Nat
  | .literal text _ => text.utf8Size
  | .statements .. => 0
  | .formatted .. => 16

def toJson : Operation → Json
  | .literal text offset =>
    .obj [("op", .str "write_literal"), ("text", .str text), ("offset", .int offset)]
  | .statements code offset =>
    .obj [("op", .str "run_statements"), ("code", .str code), ("offset", .int offset)]
  | .formatted expr spec offset =>
    .obj [("op", .str "write_formatted"), ("expr", .str expr),
      ("format_spec", spec.elim .null FormatSpec.toJson), ("offset", .int offset)]

/-- The operations of the code block of a segment: its statements unless they are blank, then its
expression. -/
def ofBlock (s : Segment) (b : Block) (spec : Option FormatSpec) : List Operation :=
  (if b.statements.all isBlank then [] else [.statements b.statements s.bodyStart])
    ++ b.tail.elim [] (fun tail => [.formatted tail.expr spec tail.exprOffset])

end Operation

namespace Plan

inductive Part where
  | literal (s : Segment)
  | code (s : Segment) (b : Block) (spec : Option FormatSpec)

def Part.operations : Part → List Operation
  | .literal s => [.literal s.text s.start]
  | .code s b spec => Operation.ofBlock s b spec

/-- The plan of a template in its parts. -/
def ofParts (path : Text) (parts : List Part) : Plan := ⟨path, parts.flatMap Part.operations⟩

/-- The number of bytes that a plan is expected to write. -/
def estimatedSize (p : Plan) : Nat := p.operations.foldr (fun o size => o.estimatedSize + size) 0

def toJson (p : Plan) : Json :=
  .obj [("path", .str p.path), ("ops", .arr (p.operations.map Operation.toJson))]

/-- The canonical spelling of a plan: its record in compact form, members in the order of their
names. -/
def canonical (p : Plan) : Text := p.toJson.ordered.compact

def digest (p : Plan) : Text := "sha256:" ++ Sha256.hexDigest p.canonical.toUtf8

end Plan
end Stencil
