import Stencil.Command.Request
import Stencil.Generation
import Stencil.Output

/-!
# Running requests

What the program prints and writes for a request.  A template that does not compile is reported as
a JSON list of diagnostics; failures of other kinds break off the program.
-/

namespace Stencil

/-- Why the program breaks off. -/
inductive Crash where
  | config (fault : ConfigFault)
  | dialect (fault : DialectFault)
  | failure (failure : Failure)
  | output (fault : OutputFault)

def Crash.message : Crash → Text
  | .config fault => fault.message
  | .dialect fault => fault.message
  | .failure f => f.message
  | .output fault => fault.message

/-- What a run of the program leaves. -/
structure Outcome where
  status : Nat
  stdout : Text
  stderr : Text
  files : FileTable

/-- The list of diagnostics as it is printed. -/
def Diagnostic.report (ds : List Diagnostic) : Text :=
  (Json.arr (ds.map Diagnostic.toJson)).spread 0 ++ ['\n']

/-- The lines of a log as they are printed: all of them if `verbose` is set, and the warnings
otherwise. -/
def LogLine.print (verbose : Bool) (lines : List LogLine) : Text :=
  (lines.filter fun l => verbose || l.level = .warning).flatMap fun l => l.toText ++ ['\n']

namespace Request

/-! ### Configuration -/

/-- Why a request has no configuration. -/
inductive SetupFault where
  /-- It is told on the standard error stream. -/
  | told (message : Text)
  | crash (crash : Crash)

/-- The configuration of a request: a dialect of its own goes before that of the configuration. -/
def configuration (files : FileTable) (r : Request) : Except SetupFault Config := do
  let config ←
    match r.config with
    | none | some [] => pure (Config.ofDialect Dialect.rust)
    | some path =>
      (Config.load files (Path.ofText path)).mapError fun fault =>
        if fault.isReported then .told fault.message else .crash (.config fault)
  match r.dialect with
  | none | some [] => return config
  | some name =>
    let dialect ← (Dialect.resolve files name).mapError fun fault =>
      if fault.isReported then .told fault.message else .crash (.dialect fault)
    return { config with dialect }

/-! ### Commands -/

/-- The outcome for a template that does not compile. -/
def faulty (files : FileTable) (log : Text) : CompileFault → Except Crash Outcome
  | .located d => .ok ⟨2, [], log ++ Diagnostic.report [d], files⟩
  | .bare failure => .error (.failure failure)

/-- The shape that a routine is asked for in, unless the name of its type is missing. -/
def shape? (r : CompileRequest) : Option Shape :=
  if r.record then
    match r.typeName with
    | none | some [] => none
    | some typeName =>
      let functionName : Text :=
        match r.functionName with
        | none | some [] => "render"
        | some name => name
      some (.record ⟨typeName, r.bindings, functionName, r.implGenerics, r.whereClause⟩)
  else some (.inline (if r.knownNames.isEmpty then none else some r.knownNames))

def compile (files : FileTable) (config : Config) (verbose : Bool) (cache : Option Cache)
    (r : CompileRequest) : Except Crash Outcome := do
  match shape? r with
  | none =>
    return ⟨2, [], "E_TYPE_NAME_REQUIRED: --type-name is required for --shape record\n", files⟩
  | some shape =>
    let g := Generation.ofFile files config (Path.ofText r.template) shape cache
    let log := LogLine.print verbose g.log
    match g.result with
    | .error fault => faulty files log fault
    | .ok routine =>
      let told := log
        ++ (if routine.diagnostics.isEmpty then [] else Diagnostic.report routine.diagnostics)
      match r.out with
      | none | some [] => return ⟨0, routine.text, told, files⟩
      | some out =>
        let (changed, files) ←
          (files.writeGenerated (Path.ofText out) routine.text).mapError .output
        let line : LogLine :=
          ⟨.info, "braceweave.run", (if changed then "wrote " else "unchanged ") ++ out⟩
        return ⟨0, [], told ++ LogLine.print verbose [line], files⟩

/-- The diagnostics of the templates that do not compile, in the order of the templates, and the
log. -/
def checkAll (files : FileTable) (d : Dialect) (cache : Option Cache) :
    List Text → Except Crash (List Diagnostic × List LogLine)
  | [] => .ok ([], [])
  | template :: templates => do
    let c := Compilation.ofFile files d (Path.ofText template) cache
    let here ←
      match c.result with
      | .ok _ => pure []
      | .error (.located diagnostic) => pure [diagnostic]
      | .error (.bare failure) => throw (.failure failure)
    let (later, log) ← checkAll files d c.cache templates
    return (here ++ later, c.log ++ log)

def check (files : FileTable) (config : Config) (verbose : Bool) (cache : Option Cache)
    (templates : List Text) : Except Crash Outcome := do
  let (diagnostics, log) ← checkAll files config.dialect cache templates
  let log := LogLine.print verbose log
  if diagnostics.isEmpty then return ⟨0, [], log, files⟩
  return ⟨2, [], log ++ Diagnostic.report diagnostics, files⟩

/-- What is shown of a compiled template. -/
def summary (t : Template) : Json :=
  .obj [("digest", .str t.plan.digest), ("estimated_size", .int t.plan.estimatedSize),
    ("fingerprint", .str t.source.fingerprint),
    ("free_identifiers", .arr (t.free.map fun u => .str u.name)), ("plan", t.plan.toJson)]

def plan (files : FileTable) (config : Config) (verbose : Bool) (cache : Option Cache)
    (template : Text) : Except Crash Outcome :=
  let c := Compilation.ofFile files config.dialect (Path.ofText template) cache
  let log := LogLine.print verbose c.log
  match c.result with
  | .error fault => faulty files log fault
  | .ok t => .ok ⟨0, (summary t).spread 0 ++ ['\n'], log, files⟩

def run (files : FileTable) (r : Request) : Except Crash Outcome :=
  match configuration files r with
  | .error (.told message) => .ok ⟨2, [], message ++ ['\n'], files⟩
  | .error (.crash crash) => .error crash
  | .ok config =>
    let cache := if config.cache then some Cache.empty else none
    match r.command with
    | .compile request => compile files config r.verbose cache request
    | .check templates => check files config r.verbose cache templates
    | .plan template => plan files config r.verbose cache template

end Request
end Stencil
