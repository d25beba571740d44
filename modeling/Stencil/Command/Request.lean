import Stencil.Command.Arguments
import Stencil.Routine.Basic
import Stencil.Text.Blank
import Stencil.Text.Identifier

/-!
# Requests

What the program is asked to do: to generate a routine, to check templates, or to show a plan.
-/

namespace Stencil

/-- The binding that a text of the form `name:Type` spells. -/
def Binding.read (t : Text) : Except ArgumentFault Binding :=
  let (before, after) := t.cut ':'
  let name := before.trim
  if name.isIdentifier then .ok ⟨name, (after.getD []).trim⟩ else .error (.invalidBinding t)

/-- How a routine is to be generated. -/
structure CompileRequest where
  template : Text
  /-- Whether the routine is for a record type. -/
  record : Bool
  typeName : Option Text
  bindings : List Binding
  functionName : Option Text
  implGenerics : Text
  whereClause : Text
  knownNames : List Text
  out : Option Text
deriving DecidableEq, Repr

/-- What is to be done. -/
inductive Command where
  | compile (request : CompileRequest)
  | check (templates : List Text)
  | plan (template : Text)
deriving DecidableEq, Repr

/-- What the program is asked to do, and how. -/
structure Request where
  config : Option Text
  dialect : Option Text
  verbose : Bool
  command : Command
deriving DecidableEq, Repr

namespace Request

/-! ### Grammars -/

/-- The arguments of the program itself. -/
def grammar : Grammar where
  program := "braceweave"
  options := [.help, .valued "--config", .valued "--dialect", .switch ["--verbose", "-v"]]
  operands := .command "command" ["compile", "check", "plan"]

def templateOption : OptionForm := { OptionForm.valued "--template" with required := true }

/-- The option for the kind of a routine. -/
def shapeOption : OptionForm :=
  { OptionForm.valued "--shape" with
    fault? := fun t =>
      if t = "record" || t = "inline" then none
      else some (.invalidChoice t ["record", "inline"]) }

def bindingOption : OptionForm :=
  { OptionForm.valued "--binding" with
    fault? := fun t =>
      match Binding.read t with
      | .ok _ => none
      | .error fault => some fault }

def compileGrammar : Grammar where
  program := "braceweave compile"
  options := [.help, templateOption, shapeOption, .valued "--type-name", bindingOption,
    .valued "--function-name", .valued "--impl-generics", .valued "--where-clause",
    .valued "--known-name", .valued "--out"]
  operands := .none

def checkGrammar : Grammar where
  program := "braceweave check"
  options := [.help]
  operands := .many "template"

def planGrammar : Grammar where
  program := "braceweave plan"
  options := [.help, templateOption]
  operands := .none

/-! ### Reading -/

def bindingsOf (ts : List Text) : List Binding := ts.filterMap fun t => (Binding.read t).toOption

/-- The request for a routine that some arguments make. -/
def compileRequest (a : Arguments) : CompileRequest where
  template := (a.value? "--template").getD []
  record := (a.value? "--shape").getD "record" = "record"
  typeName := a.value? "--type-name"
  bindings := bindingsOf (a.values "--binding")
  functionName := a.value? "--function-name"
  implGenerics := (a.value? "--impl-generics").getD []
  whereClause := (a.value? "--where-clause").getD []
  knownNames := a.values "--known-name"
  out := a.value? "--out"

/-- The command of the given name with the given arguments, and what is left over of them. -/
def readCommand (name : Text) (ts : List Text) : Except Stop (Command × List Text) := do
  if name = "compile" then
    let a ← compileGrammar.read ts
    return (.compile (compileRequest a), a.extras)
  else if name = "check" then
    let a ← checkGrammar.read ts
    return (.check a.operands, a.extras)
  else
    let a ← planGrammar.read ts
    return (.plan ((a.value? "--template").getD []), a.extras)

/-- The request that the arguments of the program make. -/
def read (ts : List Text) : Except Stop Request := do
  let a ← grammar.read ts
  let (command, extras) ← readCommand (a.operands.headD []) (a.operands.drop 1)
  let extras := a.extras ++ extras
  if !extras.isEmpty then throw (.refused grammar.program (.unrecognized extras))
  return {
    config := a.value? "--config"
    dialect := a.value? "--dialect"
    verbose := a.has "--verbose"
    command }

end Request
end Stencil
