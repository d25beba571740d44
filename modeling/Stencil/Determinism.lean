import Stencil.Command.Run

/-!
# Determinism

A check that generation always gives the same: a manifest lists templates, each is compiled twice,
and the routine is compared with a golden file if one is given.
-/

namespace Stencil

structure GoldenCase where
  template : Text
  dialect : Text
  shape : Text
  typeName : Text
  bindings : List Text
  golden : Option Text
deriving DecidableEq, Repr

namespace GoldenCase

/-- A member of a record as a text. -/
def textOr (record : Json) (key : Text) (otherwise : Text) : Text :=
  match record.get? key with
  | some value => (Value.ofJson value).shown
  | none => otherwise

/-- The case that a record describes, if it names a template. -/
def ofJson? (record : Json) : Option GoldenCase :=
  match record.get? "template" with
  | some template =>
    if !template.holds then none
    else
      let golden := (record.get? "golden").filter Json.holds
      let bindings :=
        match record.get? "bindings" with
        | some (.arr items) => items.map fun j => (Value.ofJson j).shown
        | _ => []
      some {
        template := (Value.ofJson template).shown
        dialect := textOr record "dialect" "rust"
        shape := textOr record "shape" "record"
        typeName := textOr record "type_name" "Template"
        bindings
        golden := golden.map fun j => (Value.ofJson j).shown }
  | none => none

/-- A command of the program: its name, and the arguments before it and from it on. -/
structure CommandLine where
  name : Text
  before : List Text
  after : List Text
deriving DecidableEq, Repr

def CommandLine.arguments (c : CommandLine) : List Text := c.before ++ c.after

def CommandLine.words (interpreter : Text) (c : CommandLine) : List Text :=
  interpreter :: "-m" :: "braceweave.run" :: c.arguments

def resolve (files : FileTable) (path : Text) : Path :=
  (FileTable.absolute files.current).within (Path.ofText path)

/-- The commands of a case: the one that shows the plan, and the one that generates the routine. -/
def commands (files : FileTable) (c : GoldenCase) : List CommandLine :=
  let before : List Text := ["--dialect", c.dialect]
  let template := (resolve files c.template).toText
  let compile : List Text := ["compile", "--template", template, "--shape", c.shape]
  let record : List Text :=
    "--type-name" :: c.typeName :: c.bindings.flatMap fun b => ["--binding".toList, b]
  [⟨"plan", before, ["plan", "--template", template]⟩,
    ⟨"compile", before, if c.shape = "record" then compile ++ record else compile⟩]

/-- The status of a command, and what it prints on its two streams. -/
def perform (files : FileTable) (c : CommandLine) : Nat × Text × Text :=
  match Request.read c.arguments with
  | .error .help => (0, [], [])
  | .error (.refused program refusal) =>
    (2, [], program ++ ": error: " ++ refusal.message ++ ['\n'])
  | .ok request =>
    match request.run files with
    | .ok outcome => (outcome.status, outcome.stdout.unifyNewlines, outcome.stderr.unifyNewlines)
    | .error crash => (1, [], crash.message ++ ['\n'])

/-- The lines about the commands of a case, and the routine, unless a command fails. -/
def performAll (files : FileTable) (interpreter template : Text) :
    (routine : Text) → List CommandLine → List Text × Option Text
  | routine, [] => ([], some routine)
  | _, c :: cs =>
    let line : Text := "+ " ++ Text.join " " (c.words interpreter)
    let (status, stdout, stderr) := perform files c
    if status = 0 then
      let (lines, result) := performAll files interpreter template stdout cs
      (line :: line :: lines, result)
    else
      let failed : Text := "[FAIL] " ++ c.name ++ " failed: " ++ template
      (line :: line :: failed :: (if stderr.isEmpty then [] else [stderr.trim]), none)

/-- What is wrong with a routine, compared with the golden file of its case. -/
def mismatch? (files : FileTable) (c : GoldenCase) (routine : Text) : Option Text :=
  match c.golden with
  | none => none
  | some golden =>
    let path := resolve files golden
    if !files.hasFile path then some ("[FAIL] golden not found: " ++ path.toText)
    else
      match files.readBytes path with
      | .ok bytes =>
        if bytes = routine.toUtf8 then none
        else some ("[FAIL] output differs from golden: " ++ path.toText)
      | .error fault => some ("[FAIL] " ++ fault.message)

/-- Whether a case holds, and the lines about it. -/
def verify (files : FileTable) (interpreter : Text) (c : GoldenCase) : Bool × List Text :=
  match performAll files interpreter c.template [] (commands files c) with
  | (lines, none) => (false, lines)
  | (lines, some routine) =>
    match mismatch? files c routine with
    | some line => (false, lines ++ [line])
    | none => (true, lines ++ ["[OK] " ++ c.template])

end GoldenCase

namespace Determinism

/-- Why the check stops. -/
inductive Halt where
  | refused (stop : Stop)
  | manifestNotFound (path : Path)
  | manifestMalformed
  | casesNotList
  | noMembers (value : Json)
  | unreadable (fault : ReadFault)
  | number (fault : NumberFault)

/-- Whether the check says itself why it stops. -/
def Halt.isReported : Halt → Bool
  | .manifestNotFound _ | .manifestMalformed | .casesNotList => true
  | _ => false

def Halt.message : Halt → Text
  | .refused (.refused program refusal) => program ++ ": error: " ++ refusal.message
  | .refused .help => []
  | .manifestNotFound path => "MANIFEST_NOT_FOUND: " ++ path.toText
  | .manifestMalformed => "MANIFEST_INVALID_JSON"
  | .casesNotList => "MANIFEST_CASES_NOT_LIST"
  | .noMembers value => RecordFault.message [] (.noMembers value)
  | .unreadable fault => fault.message
  | .number fault => fault.message

def grammar : Grammar where
  program := "determinism_check.py"
  options := [.help, .valued "--manifest", .switch ["--allow-empty"]]
  operands := .none

/-- The cases of the manifest in a file. -/
def cases (files : FileTable) (p : Path) : Except Halt (List Json) := do
  if !files.contains p then throw (.manifestNotFound p)
  let manifest ← (files.readJson p).mapError fun
    | .unreadable fault => .unreadable fault
    | .json .malformed => .manifestMalformed
    | .json (.number fault) => .number fault
  match manifest with
  | .obj members =>
    match (Json.find? "cases" members).getD (.arr []) with
    | .arr items => return items
    | _ => throw .casesNotList
  | value => throw (.noMembers value)

/-- The status of the check with the given arguments, and the lines that it prints. -/
def run (files : FileTable) (interpreter : Text) (ts : List Text) :
    Except Halt (Nat × List Text) := do
  let a ← (grammar.read ts).mapError .refused
  if !a.extras.isEmpty then
    throw (.refused (.refused grammar.program (.unrecognized a.extras)))
  let manifest := (a.value? "--manifest").getD "tests/determinism_manifest.json"
  let cases ← cases files (GoldenCase.resolve files manifest)
  if cases.isEmpty then
    return (if a.has "--allow-empty" then 0 else 2, ["No determinism cases configured."])
  let results := cases.map fun j =>
    match GoldenCase.ofJson? j with
    | some c => c.verify files interpreter
    | none => (false, ["[FAIL] case missing template"])
  return (if results.all (·.1) then 0 else 2, results.flatMap (·.2))

end Determinism
end Stencil
