import Stencil.FormatSpec
import Stencil.Routine.Basic
import Stencil.Script.Syntax
import Stencil.Sink
import Stencil.Value.Basic

/-!
# Hosts

What a script meets when it runs: the objects it has to do with, and the language around it, which
spells values and provides names of its own.  How a host spells an object is its own business, so
that rendering takes its spellings as they are given.
-/

namespace Stencil.Script

inductive Helper where
  | guardSink
  | writeLiteral
  | writeFormatted
deriving DecidableEq, Repr

def Helper.ofName? (name : Text) : Option Helper :=
  if name = "guard_sink" then some .guardSink
  else if name = "write_literal" then some .writeLiteral
  else if name = "write_formatted" then some .writeFormatted
  else none

/-- What a name may stand for, where the host program has values in `V`. -/
inductive Object (V : Type) where
  /-- What a literal spells. -/
  | constant (v : Value)
  /-- A text with halves of surrogate pairs in it, by its code points. -/
  | surrogates (codes : List Nat)
  | value (v : V)
  | helper (h : Helper)
  /-- The function of the script at hand; `identity` tells it from those of other runs. -/
  | routine (name : Text) (identity : Nat)
  /-- The sink of the run, on the way by which it is reached. -/
  | sink (outlet : Outlet) (identity : Nat)
  /-- A record with its fields, and with the methods of its type. -/
  | record (type : Text) (fields : List (Text × V)) (methods : List Text)
  /-- The table of the names that the language provides. -/
  | builtins
  /-- An object of the language itself, by its kind and its spelling. -/
  | native (kind spelled : Text)

/-- A host program with values in `V`, some of which it cannot spell, for reasons in `F`.  What it
writes are texts in `T`, which may hold more than characters. -/
class Host (V : Type) (F T : outParam Type) where
  /-- A text as one of the host. -/
  text : Text → T
  /-- Texts one after the other. -/
  concat : List T → T
  /-- An object in the layout that a text spells. -/
  format : (layout : Text) → Object V → Except F T
  /-- A text of the host in a layout. -/
  formatText : (layout : Text) → T → Except F T
  /-- The spelling that an object can be told by from others. -/
  spelled : Object V → Except F T
  /-- That spelling over lines. -/
  pretty : Object V → Except F T
  /-- The objects that the language provides under their names, where a script may have put
  something in the place of their table. -/
  builtins : Option (Object V) → Except F (Text → Except F (Option (Object V)))
  /-- The normal form of a name with characters beyond ASCII. -/
  fold : Text → Except F Text
  /-- The character with a name of its own. -/
  named : Text → Except F (Option Char)

/-- Why a rendering ends early. -/
inductive RenderFault (F : Type) where
  /-- The script, from the file of the given name, is not run at all. -/
  | script (file : Text) (flaw : Flaw)
  | unboundName (name : Text)
  /-- A name of the function itself that has no value yet. -/
  | unassignedName (name : Text)
  /-- A field that the record does not have. -/
  | missingField (record name : Text)
  | host (fault : F)
  | write (fault : WriteFault)
  /-- A step that this library does not take. -/
  | foreign (code : Text)
deriving DecidableEq, Repr

/-- The name of a file without those of its directories. -/
def fileName (path : Text) : Text := ((Text.splitAt '/' path).getLast?).getD []

/-- The message of a fault; `ofHost` has those of the host. -/
def RenderFault.message {F : Type} (ofHost : F → Text) : RenderFault F → Text
  | .script _ .null => "source code string cannot contain null bytes"
  | .script file (.invalid line) =>
    "invalid syntax (" ++ fileName file ++ ", line " ++ Text.ofNat line ++ ")"
  | .script _ (.foreign code) | .foreign code => "host code: " ++ code
  | .unboundName name => "name '" ++ name.take 200 ++ "' is not defined"
  | .unassignedName name =>
    "cannot access local variable '" ++ name ++ "' where it is not associated with a value"
  | .missingField record name =>
    "'" ++ record.take 50 ++ "' object has no attribute '" ++ name ++ "'"
  | .host fault => ofHost fault
  | .write fault => fault.message

end Stencil.Script
