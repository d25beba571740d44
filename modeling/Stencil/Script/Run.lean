import Stencil.Script.Code

/-!
# Running scripts

A function runs its statements one after the other.  What a statement does is told before the sink
is touched: it gives a name a value or has a text to write.  The first failure ends the run.
-/

namespace Stencil.Script

variable {V F T : Type}

/-- Names with their objects. -/
abbrev Names (V : Type) := List (Text × Object V)

def Names.object? (names : Names V) (name : Text) : Option (Object V) :=
  (names.find? (·.1 = name)).map (·.2)

structure Frame (V F : Type) where
  /-- The names that are the function's own, whether they have an object yet or not. -/
  locals : List Text
  assigned : Names V
  globals : Names V
  builtins : Text → Except F (Option (Object V))

/-- What a statement does, in a host with texts in `T`. -/
inductive Effect (V T : Type) where
  | assign (name : Text) (object : Object V)
  | write (outlet : Outlet) (text : T)

namespace Frame

def object (f : Frame V F) (name : Text) : Except (RenderFault F) (Object V) :=
  if f.locals.contains name then
    match f.assigned.object? name with
    | some o => .ok o
    | none => .error (.unassignedName name)
  else
    match f.globals.object? name with
    | some o => .ok o
    | none =>
      match f.builtins name with
      | .ok (some o) => .ok o
      | .ok none => .error (.unboundName name)
      | .error fault => .error (.host fault)

def operand (f : Frame V F) : Operand → Except (RenderFault F) (Object V)
  | .constant v => .ok (.constant v)
  | .surrogates codes => .ok (.surrogates codes)
  | .name t => f.object t
  | .pause => .error (.foreign "yield")

end Frame

/-- Whether every record has a field of the given name, or may have. -/
def isInherited (name : Text) : Bool :=
  ("__" : Text).isPrefixOf name && name.endsWith ("__" : Text)

def fieldOf (name : Text) : Object V → Except (RenderFault F) (Object V)
  | .record type fields methods =>
    if methods.contains name || isInherited name then .error (.foreign name)
    else
      match fields.find? (·.1 = name) with
      | some (_, v) => .ok (.value v)
      | none => .error (.missingField type name)
  | _ => .error (.foreign name)

section

variable [Host V F T]

/-- An object in a mode and in the layout that a text spells. -/
def spell (mode layout : Text) (o : Object V) : Except F T :=
  if mode = Mode.name .debug then do Host.formatText V layout (← Host.spelled o)
  else if mode = Mode.name .pretty then do Host.formatText V layout (← Host.pretty o)
  else Host.format layout o

/-- What a function gives back. -/
def applied : Object V → List (Object V) → Except (RenderFault F) (Object V)
  | .helper .guardSink, [.sink outlet identity] => .ok (.sink outlet.guard identity)
  | _, _ => .error (.foreign "call")

/-- The text that a function writes, given what comes behind the sink. -/
def message : Object V → List (Object V) → Except (RenderFault F) T
  | .helper .writeLiteral, [.constant (.text t)] => .ok (Host.text V t)
  | .helper .writeFormatted, [o, .constant (.text layout), .constant (.text mode)] =>
    (spell mode layout o).mapError .host
  | _, _ => .error (.foreign "call")

/-- The way to the sink and the text that a function writes. -/
def written (function : Object V) : List (Object V) → Except (RenderFault F) (Outlet × T)
  | .sink outlet _ :: arguments => (message function arguments).map (outlet, ·)
  | _ => .error (.foreign "call")

namespace Frame

def value (f : Frame V F) : Expression Operand → Except (RenderFault F) (Object V)
  | .item a => f.operand a
  | .field object name => do fieldOf name (← f.operand object)
  | .call function arguments => do
    applied (← f.object function) (← arguments.mapM f.operand)

def effect (f : Frame V F) : Statement Operand → Except (RenderFault F) (Effect V T)
  | .assign target _ value => (f.value value).map (.assign target)
  | .call function arguments => do
    let (outlet, text) ← written (← f.object function) (← arguments.mapM f.operand)
    return .write outlet text

/-- What comes of running statements, and the sink afterwards. -/
def run (f : Frame V F) :
    List (Statement Operand) → Sink T → Except (RenderFault F) Unit × Sink T
  | [], s => (.ok (), s)
  | statement :: rest, s =>
    match f.effect statement with
    | .error fault => (.error fault, s)
    | .ok (.assign name object) =>
      run { f with assigned := (name, object) :: f.assigned } rest s
    | .ok (.write outlet text) =>
      match outlet.emit s text with
      | (.ok (), s) => run f rest s
      | (.error fault, s) => (.error (.write fault), s)

end Frame

/-- The names that a script has in reach when it has been loaded among others. -/
def Code.globals (c : Code) (names : Names V) (identity : Nat) : Names V :=
  let imported : Names V := c.imports.reverse.map fun (t, h) => (t, .helper h)
  let provided : Names V := [("__builtins__", .builtins)]
  (c.routine, .routine c.routine identity) :: imported ++ names ++ provided

/-- What the function of a script has in reach when it is called with the given arguments. -/
def Code.frame (c : Code) (names : Names V) (builtins : Text → Except F (Option (Object V)))
    (identity : Nat) (arguments : List (Object V)) : Frame V F :=
  ⟨c.locals, c.parameters.zip arguments, c.globals names identity, builtins⟩

/-- The code of the script of a file, loaded among the given names, and the names that the language
provides it with.  Its function has the given name and number of parameters. -/
def load (names : Names V) (file text function : Text) (arity : Nat) :
    Except (RenderFault F) (Code × (Text → Except F (Option (Object V)))) := do
  let m ← (read text).mapError (.script file)
  let c ← m.compile V file
  let builtins ← (Host.builtins (names.object? "__builtins__")).mapError .host
  if c.routine = function && c.parameters.length = arity then .ok (c, builtins)
  else .error (.foreign function)

/-- What comes of loading the script of a file and calling its function, and the sink afterwards.
Nothing is written before the whole script has been compiled. -/
def execute (names : Names V) (identity : Nat) (file text function : Text)
    (arguments : List (Object V)) (s : Sink T) : Except (RenderFault F) Unit × Sink T :=
  match load names file text function arguments.length with
  | .error fault => (.error fault, s)
  | .ok (c, builtins) =>
    if c.pauses then (.ok (), s) else (c.frame names builtins identity arguments).run c.body s

end

end Stencil.Script
