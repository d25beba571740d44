import Stencil.Plan

/-!
# Routines

What a generated routine is made for.  A record routine writes a template for the values of a record
type, whose listed fields are in scope; an inline routine stands where it is used and sees what is
in scope there.
-/

namespace Stencil

/-- A field of a record that a template uses, with the text of its type, which may be blank. -/
structure Binding where
  name : Text
  type : Text
deriving DecidableEq, Repr

/-- The record type that a routine is made for. -/
structure RecordShape where
  typeName : Text
  bindings : List Binding
  functionName : Text
  implGenerics : Text
  whereClause : Text
deriving DecidableEq, Repr

namespace Routine

def indentUnit : Text := "    "

/-- Lines as a text, each with its end. -/
def unlines (lines : List Text) : Text := lines.flatMap (· ++ ['\n'])

/-- The remark at the head of a routine. -/
def header (p : Plan) : Text := "Generated by braceweave from " ++ p.path ++ "; do not edit."

end Routine
end Stencil
