import Stencil.Script.Run
import Stencil.Value.Host

/-!
# Rendering

A template is rendered by running the routine that was generated for it: the routine is loaded among
the names that are in scope, or with the fields of a record, and called with a sink.
-/

namespace Stencil

/-- The names in scope with their values. -/
abbrev Scope (V : Type := Value) := List (Text × V)

namespace Render

open Script (Host Names Object RenderFault)

variable {V F T : Type} [Host V F T]

/-- The names in scope as a script meets them. -/
def names (scope : Scope V) : Names V := scope.map fun (name, v) => (name, .value v)

/-- The file that the script of a template is said to come from. -/
def origin (path : Text) : Text := "<braceweave:" ++ path ++ ">"

/-- What comes of running the inline routine of the template at `path`, which is the script `text`,
with a sink; `identity` tells the objects of this run from those of others. -/
def inline (scope : Scope V) (outlet : Outlet) (identity : Nat) (path text : Text) (s : Sink T) :
    Except (RenderFault F) Unit × Sink T :=
  Script.execute (names scope) identity (origin path) text "_braceweave_inline"
    [.sink outlet identity] s

/-- The text that an inline routine writes. -/
def text (scope : Scope V) (identity : Nat) (path text : Text) : Except (RenderFault F) T :=
  let (result, s) := inline scope .bare identity path text .reliable
  result.map fun _ => Host.concat V s.parts

/-- The name of the routine for the records of a type. -/
def routineName (type : Text) : Text := "_render_" ++ type

/-- What comes of running the routine for the records of a type, which gets the given method, with a
sink. -/
def record (home type method : Text) (fields : Scope V) (identity : Nat) (path text : Text)
    (s : Sink T) : Except (RenderFault F) Unit × Sink T :=
  let names : Names V := [("__name__", .constant (.text home))]
  Script.execute names identity (origin path) text (routineName type)
    [.record type fields [method, "render_into"], .sink .bare identity] s

end Render
end Stencil
