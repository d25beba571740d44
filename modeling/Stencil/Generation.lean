import Stencil.Cache
import Stencil.Config
import Stencil.Routine.Python
import Stencil.Routine.Rust

/-!
# Generation

From the file of a template to a routine in the language of its dialect, with reports of the names
that nothing binds.
-/

namespace Stencil

/-- What a routine is made for. -/
inductive Shape where
  | record (shape : RecordShape)
  /-- A place where the given names are in scope, if they are known. -/
  | inline (known : Option (List Text))

namespace Shape

def available : Shape → Option (List Text)
  | .record shape => some (shape.bindings.map (·.name))
  | .inline known => known

/-- The routine for a plan; `path` is that of the template, from the root. -/
def routine (d : Dialect) (p : Plan) (path : Option Text) (shape : Shape) : Except Failure Text :=
  match d.target, shape with
  | .rust, .record shape => .ok (Routine.Rust.record p shape path)
  | .rust, .inline _ => .ok (Routine.Rust.inline p path)
  | .python, .record shape => Routine.Python.record d p shape
  | .python, .inline _ => Routine.Python.inline d p

end Shape

structure Generated where
  text : Text
  plan : Plan
  diagnostics : List Diagnostic

/-- What comes of generating a routine: the routine or a fault, the cache afterwards, and the lines
of the log. -/
structure Generation where
  result : Except CompileFault Generated
  cache : Option Cache
  log : List LogLine

namespace Generation

/-- The reports of free names in a template, where the names in scope are known. -/
def review (config : Config) (t : Template) (shape : Shape) :
    Except CompileFault (List Diagnostic) :=
  match shape.available with
  | some names => config.review t names
  | none => .ok []

/-- The routine for the template in a file. -/
def ofFile (files : FileTable) (config : Config) (p : Path) (shape : Shape)
    (cache : Option Cache) : Generation :=
  let c := Compilation.ofFile files config.dialect p cache
  match c.result with
  | .error fault => ⟨.error fault, c.cache, c.log⟩
  | .ok t =>
    match review config t shape with
    | .error fault => ⟨.error fault, c.cache, c.log⟩
    | .ok diagnostics =>
      let log := c.log ++ diagnostics.map LogLine.ofWarning
      match shape.routine config.dialect t.plan (some (files.resolve p).toText) with
      | .error failure => ⟨.error (.bare failure), c.cache, log⟩
      | .ok text => ⟨.ok ⟨text, t.plan, diagnostics⟩, c.cache, log⟩

end Generation
end Stencil
