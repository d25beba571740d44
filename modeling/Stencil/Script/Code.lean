import Stencil.Dialect.Builtin
import Stencil.Script.Host
import Stencil.Text.Identifier

/-!
# Compiling scripts

A script is compiled as a whole before any of it runs: its names are brought into normal form, its
literals are read, and a keyword in the place of a name refuses it.
-/

namespace Stencil.Script

inductive Operand where
  | constant (v : Value)
  | surrogates (codes : List Nat)
  | name (t : Text)
  /-- A place where the function would give control back to its caller.  A function with such a
  place does nothing when it is called. -/
  | pause

structure Code where
  /-- The helpers that are imported, under the names that they are given. -/
  imports : List (Text × Helper)
  routine : Text
  parameters : List Text
  body : List (Statement Operand)

section

variable {V F T : Type} [Host V F T]

variable (V) in
/-- The name that a word is, on the given line of a file. -/
def nameOf (file : Text) (line : Nat) (word : Text) : Except (RenderFault F) Text :=
  if Dialect.pythonKeywords.contains word || !word.isIdentifier then
    .error (.script file (.invalid line))
  else if word.all (·.toNat < 0x80) then .ok word
  else (Host.fold V word).mapError .host

variable (V) in
/-- A part of an expression, on the given line of a file. -/
def operand (file : Text) (line : Nat) (p : Part) : Except (RenderFault F) Operand :=
  let invalid : Except (RenderFault F) Operand := .error (.script file (.invalid line))
  let foreign (t : Text) : Except (RenderFault F) Operand := .error (.script file (.foreign t))
  match p.atom with
  | .word t =>
    if t = "None" then .ok (.constant .nothing)
    else if t = "True" then .ok (.constant (.bool true))
    else if t = "False" then .ok (.constant (.bool false))
    else if t = "yield" && p.enclosed then .ok .pause
    else do
      let name ← nameOf V file line t
      return if name = "__debug__" then .constant (.bool true) else .name name
  | .number t =>
    match integer? t with
    | some n => if n ≠ 0 && hasTooManyDigits t then invalid else .ok (.constant (.int n))
    | none => if isDecimalNumber t then invalid else foreign t
  | .text t =>
    match codesOfLiteral (Host.named V) t with
    | .ok codes =>
      if codes.all fun n => decide n.isValidChar then
        .ok (.constant (.text (codes.map Char.ofNat)))
      else .ok (.surrogates codes)
    | .error .malformed => invalid
    | .error (.host fault) => .error (.host fault)

variable (V) in
/-- The function that is called by a word.  A keyword in its place begins a statement of another
kind. -/
def calledName (file : Text) (line : Nat) (word : Text) : Except (RenderFault F) Text :=
  if Dialect.pythonKeywords.contains word then .error (.script file (.foreign word))
  else nameOf V file line word

variable (V) in
/-- The name that a value is assigned to. -/
def targetName (file : Text) (line : Nat) (word : Text) : Except (RenderFault F) Text := do
  let name ← nameOf V file line word
  if name = "__debug__" then .error (.script file (.invalid line)) else .ok name

variable (V) in
def expression (file : Text) (line : Nat) :
    Expression Part → Except (RenderFault F) (Expression Operand)
  | .item p => .item <$> operand V file line p
  | .field object name => do
    return .field (← operand V file line object) (← nameOf V file line name)
  | .call function arguments => do
    return .call (← calledName V file line function) (← arguments.mapM (operand V file line))

variable (V) in
def statement (file : Text) :
    Nat × Statement Part → Except (RenderFault F) (Statement Operand)
  | (line, .assign target type value) => do
    return .assign (← targetName V file line target) (← type.mapM (operand V file line))
      (← expression V file line value)
  | (line, .call function arguments) => do
    return .call (← calledName V file line function) (← arguments.mapM (operand V file line))

variable (V) in
/-- An import.  Nothing but the helpers is there to be imported. -/
def imported (file : Text) (i : Import) : Except (RenderFault F) (Text × Helper) :=
  match Helper.ofName? i.name with
  | some h => (nameOf V file i.line i.given).map (·, h)
  | none => .error (.script file (.foreign i.name))

variable (V) in
/-- The code of a script in the given file. -/
def Module.compile (m : Module) (file : Text) : Except (RenderFault F) Code := do
  return {
    imports := ← m.imports.mapM (imported V file)
    routine := ← nameOf V file m.line m.routine
    parameters := ← m.parameters.mapM (nameOf V file m.line)
    body := ← m.body.mapM (statement V file) }

end

namespace Code

def operandsOf : Expression Operand → List Operand
  | .item a => [a]
  | .field object _ => [object]
  | .call _ arguments => arguments

def operands : Statement Operand → List Operand
  | .assign _ _ value => operandsOf value
  | .call _ arguments => arguments

/-- Whether there is a place in the function where it would give back control. -/
def pauses (c : Code) : Bool :=
  c.body.any fun s => (operands s).any fun a => match a with | .pause => true | _ => false

/-- The name that a statement gives a value. -/
def target? : Statement Operand → Option Text
  | .assign target _ _ => some target
  | .call .. => none

/-- The names that belong to the function itself. -/
def locals (c : Code) : List Text := c.parameters ++ c.body.filterMap target?

end Code
end Stencil.Script
