import Stencil.Script.Token

/-!
# Scripts

The scripts that routines are: lines that import names, and one function, whose statements assign
values to names and call functions.
-/

namespace Stencil.Script

/-- A value as a script spells it, with parameter the kind of its parts. -/
inductive Expression (A : Type) where
  | item (a : A)
  | field (object : A) (name : Text)
  | call (function : Text) (arguments : List A)
deriving DecidableEq, Repr

inductive Statement (A : Type) where
  /-- A value is assigned to a name, perhaps with a remark on its type. -/
  | assign (target : Text) (type : Option A) (value : Expression A)
  | call (function : Text) (arguments : List A)
deriving DecidableEq, Repr

/-- A part of an expression, which may stand in parentheses. -/
structure Part where
  atom : Atom
  enclosed : Bool
deriving DecidableEq, Repr

/-- A name that a script takes from the library of its routines, under another name. -/
structure Import where
  line : Nat
  name : Text
  given : Text
deriving DecidableEq, Repr

structure Module where
  imports : List Import
  /-- The number of the line that the function begins on. -/
  line : Nat
  /-- The name of the function. -/
  routine : Text
  parameters : List Text
  /-- The statements, with the numbers of their lines. -/
  body : List (Nat × Statement Part)
deriving DecidableEq, Repr

/-! ### Lines -/

/-- The arguments of a call, from behind its opening parenthesis to the end of the line. -/
def arguments? : List Token → Option (List Part)
  | [.atom a, .closing] => some [⟨a, false⟩]
  | [.opening, .atom a, .closing, .closing] => some [⟨a, true⟩]
  | .atom a :: .comma :: rest => (arguments? rest).map (⟨a, false⟩ :: ·)
  | .opening :: .atom a :: .closing :: .comma :: rest => (arguments? rest).map (⟨a, true⟩ :: ·)
  | _ => none

/-- The value that a line spells to its end. -/
def expression? : List Token → Option (Expression Part)
  | [.atom a] => some (.item ⟨a, false⟩)
  | [.opening, .atom a, .closing] => some (.item ⟨a, true⟩)
  | [.atom (.word object), .dot, .atom (.word name)] =>
    some (.field ⟨.word object, false⟩ name)
  | .atom (.word function) :: .opening :: rest => (arguments? rest).map (.call function)
  | _ => none

/-- The statement that a line spells. -/
def statement? : List Token → Option (Statement Part)
  | .atom (.word target) :: .equals :: rest => (expression? rest).map (.assign target none)
  | .atom (.word target) :: .colon :: .atom (.text type) :: .equals :: rest =>
    (expression? rest).map (.assign target (some ⟨.text type, false⟩))
  | .atom (.word function) :: .opening :: rest => (arguments? rest).map (.call function)
  | _ => none

/-- What a line, of the given number, imports from the library of routines. -/
def import? (line : Nat) : List Token → Option Import
  | [.atom (.word start), .atom (.word package), .dot, .atom (.word library), .atom (.word verb),
      .atom (.word name), .atom (.word link), .atom (.word given)] =>
    if start = "from" && package = "braceweave" && library = "runtime" && verb = "import"
        && link = "as" then some ⟨line, name, given⟩ else none
  | _ => none

/-- The parameters of a function, from behind the opening parenthesis to the end of the line. -/
def parameters? : List Token → Option (List Text)
  | [.atom (.word name), .closing, .colon] => some [name]
  | .atom (.word name) :: .comma :: rest => (parameters? rest).map (name :: ·)
  | _ => none

/-- The name and the parameters of the function that a line begins. -/
def function? : List Token → Option (Text × List Text)
  | .atom (.word start) :: .atom (.word name) :: .opening :: rest =>
    if start = "def" then (parameters? rest).map (name, ·) else none
  | _ => none

/-! ### Scripts -/

/-- The statements that lines of one indentation spell. -/
def body? (lines : List Line) : Option (List (Nat × Statement Part)) :=
  match lines with
  | [] => none
  | first :: _ =>
    if first.indent = 0 then none
    else lines.mapM fun l =>
      if l.indent = first.indent then (statement? l.tokens).map (l.number, ·) else none

/-- The script that lines spell. -/
def module? : List Line → Option Module
  | [] => none
  | l :: lines =>
    if l.indent ≠ 0 then none
    else
      match import? l.number l.tokens with
      | some i => (module? lines).map fun m => { m with imports := i :: m.imports }
      | none => do
        let (routine, parameters) ← function? l.tokens
        return ⟨[], l.number, routine, parameters, ← body? lines⟩

/-- The script that a text spells.  Carriage returns count as line feeds. -/
def read (t : Text) : Except Flaw Module := do
  if t.contains '\x00' then throw .null
  match module? (← linesOf t.unifyNewlines) with
  | some m => return m
  | none => throw (.foreign t)

end Stencil.Script
