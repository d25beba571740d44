import Stencil.Dialect.Builtin
import Stencil.Dialect.Record
import Stencil.FileTable
import Stencil.Json.Reader
import Stencil.Template

/-!
# Configuration

A configuration names a dialect and says how names without a binding are reported and whether
compiled templates are kept.  It is read from a JSON record; a dialect of its own is named by the
path of a file.
-/

namespace Stencil

/-! ### Dialects by name -/

/-- Why no dialect is found under a name. -/
inductive DialectFault where
  | unknown (name : Text)
  | notFound (path : Path)
  | malformed (path : Path)
  | record (path : Text) (fault : RecordFault)
  | unreadable (fault : ReadFault)
  | number (fault : NumberFault)

/-- Whether a fault is reported as one of the dialect; the others are those of reading a file or a
value. -/
def DialectFault.isReported : DialectFault → Bool
  | .unknown _ | .notFound _ | .malformed _ => true
  | .record _ fault => fault.isReported
  | .unreadable _ | .number _ => false

def DialectFault.message : DialectFault → Text
  | .unknown name => "DIALECT_UNKNOWN: " ++ name
  | .notFound path => "DIALECT_NOT_FOUND: " ++ path.toText
  | .malformed path => "DIALECT_INVALID_JSON: " ++ path.toText
  | .record origin fault => fault.message origin
  | .unreadable fault => fault.message
  | .number fault => fault.message

/-- Why a file is not read as a JSON value. -/
inductive RecordReadFault where
  | unreadable (fault : ReadFault)
  | json (fault : JsonFault)

/-- The JSON value in a file. -/
def FileTable.readJson (files : FileTable) (p : Path) : Except RecordReadFault Json := do
  let text ← (files.readText p).mapError .unreadable
  (Json.read text).mapError .json

def Dialect.load (files : FileTable) (p : Path) : Except DialectFault Dialect := do
  if !files.contains p then throw (.notFound p)
  let record ← (files.readJson p).mapError fun
    | .unreadable fault => .unreadable fault
    | .json .malformed => .malformed p
    | .json (.number fault) => .number fault
  (Dialect.Record.read record).mapError (.record p.toText)

/-- The dialect of the given name, which may be the path of a file that describes it. -/
def Dialect.resolve (files : FileTable) (name : Text) : Except DialectFault Dialect :=
  match Dialect.builtin? name with
  | some d => .ok d
  | none =>
    if name.endsWith ".json" then Dialect.load files (Path.ofText name) else .error (.unknown name)

/-! ### Configurations -/

/-- How templates are compiled. -/
structure Config where
  dialect : Dialect
  /-- Whether free names without a binding are reported. -/
  warnUnbound : Bool
  /-- Whether the first such report stops the compilation. -/
  warningsAsErrors : Bool
  /-- Whether compiled templates are kept. -/
  cache : Bool
  path : Option Path

/-- Why a configuration is not read; a path is that of the configuration. -/
inductive ConfigFault where
  | notFound (path : Path)
  | malformed (path : Path)
  | notObject (path : Option Path)
  | dialectNotText (path : Option Path)
  | dialect (path : Option Path) (fault : DialectFault)
  | notFlag (path : Option Path) (key : Text)
  | unreadable (fault : ReadFault)
  | number (fault : NumberFault)

namespace ConfigFault

/-- Whether a fault is reported as one of the configuration. -/
def isReported : ConfigFault → Bool
  | .dialect _ fault => fault.isReported
  | .unreadable _ | .number _ => false
  | _ => true

/-- A path that may be missing. -/
def pathText (path : Option Path) : Text := path.elim "None" Path.toText

def message : ConfigFault → Text
  | .notFound path => "CONFIG_NOT_FOUND: " ++ path.toText
  | .malformed path => "CONFIG_INVALID_JSON: " ++ path.toText
  | .notObject path => "CONFIG_NOT_OBJECT: " ++ pathText path
  | .dialectNotText path =>
    "CONFIG_FIELD_INVALID: " ++ pathText path ++ ": dialect must be a string"
  | .dialect path fault =>
    if fault.isReported then "CONFIG_DIALECT_INVALID: " ++ pathText path ++ ": " ++ fault.message
    else fault.message
  | .notFlag path key =>
    "CONFIG_FIELD_INVALID: " ++ pathText path ++ ": " ++ key ++ " must be a boolean"
  | .unreadable fault => fault.message
  | .number fault => fault.message

end ConfigFault

namespace Config

/-- The name of a dialect, seen from the directory of the configuration if it is the path of a
file. -/
def dialectName (base : Option Path) (name : Text) : Text :=
  match base with
  | some base =>
    if name.endsWith ".json" && !(Path.ofText name).isAbsolute then
      (base.within (Path.ofText name)).toText
    else name
  | none => name

def flag (record : Json) (path : Option Path) (key : Text) (otherwise : Bool) :
    Except ConfigFault Bool :=
  match record.get? key with
  | none => .ok otherwise
  | some (.bool b) => .ok b
  | some _ => .error (.notFlag path key)

/-- The configuration that a record describes. -/
def ofRecord (files : FileTable) (path base : Option Path) (record : Json) :
    Except ConfigFault Config := do
  let .obj _ := record | throw (.notObject path)
  let .str name := (record.get? "dialect").getD (.str "rust") | throw (.dialectNotText path)
  let dialect ← (Dialect.resolve files (dialectName base name)).mapError (.dialect path)
  let warnUnbound ← flag record path "warn_unbound" true
  let warningsAsErrors ← flag record path "warnings_as_errors" false
  let cache ← flag record path "cache" true
  return { dialect, warnUnbound, warningsAsErrors, cache, path }

def load (files : FileTable) (p : Path) : Except ConfigFault Config := do
  if !files.contains p then throw (.notFound p)
  let record ← (files.readJson p).mapError fun
    | .unreadable fault => .unreadable fault
    | .json .malformed => .malformed p
    | .json (.number fault) => .number fault
  ofRecord files (some p) (some p.parent) record

/-- The configuration with a dialect and nothing else of its own. -/
def ofDialect (dialect : Dialect) : Config := ⟨dialect, true, false, true, none⟩

/-- The reports of the free names that are not available, unless they stop the compilation. -/
def review (config : Config) (t : Template) (available : List Text) :
    Except CompileFault (List Diagnostic) :=
  if !config.warnUnbound then .ok []
  else
    match t.warnings available with
    | [] => .ok []
    | d :: ds =>
      if config.warningsAsErrors then .error (.located { d with severity := Diagnostic.error })
      else .ok (d :: ds)

end Config
end Stencil
