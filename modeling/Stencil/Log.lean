import Stencil.Template

/-!
# Log

What the program tells about its work while it runs.
-/

namespace Stencil

/-- How much a line of the log matters. -/
inductive LogLevel where
  | debug
  | info
  | warning
deriving DecidableEq, Repr

def LogLevel.name : LogLevel → Text
  | .debug => "DEBUG"
  | .info => "INFO"
  | .warning => "WARNING"

structure LogLine where
  level : LogLevel
  /-- The part of the program that tells it. -/
  logger : Text
  message : Text
deriving DecidableEq, Repr

namespace LogLine

def toText (l : LogLine) : Text := l.level.name ++ " " ++ l.logger ++ ": " ++ l.message

def compiler (message : Text) : LogLine := ⟨.debug, "braceweave.compiler", message⟩

/-- The line about a diagnostic that is reported only. -/
def ofWarning (d : Diagnostic) : LogLine :=
  ⟨.warning, "braceweave.compiler", d.place ++ ": " ++ d.message⟩

end LogLine

/-- The lines about a template that has been compiled: its free names in order, and its size. -/
def Template.log (t : Template) : List LogLine :=
  let names := (t.free.map (·.name)).mergeSort Text.le
  let shown := if names.isEmpty then ['-'] else Text.join ", " names
  [⟨.debug, "braceweave.bindings", "free identifiers: " ++ shown⟩,
    LogLine.compiler <| "compiled " ++ t.source.path ++ ": " ++ Text.ofNat t.segments.length
      ++ " segments, " ++ Text.ofNat t.plan.operations.length ++ " ops, digest " ++ t.plan.digest]

end Stencil
