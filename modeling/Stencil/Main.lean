import Stencil.Command.Run

/-!
# The program

The command line of the compiler: the files that a request may read are put into a table, the
request is run on it, and what the run leaves is printed and written.
-/

namespace Stencil.Program

/-- A path of the file system as a place. -/
def placeOf (path : String) : Place := (Path.ofText path.toList).parts

/-- What the file system has at a place whose parent directory is no link. -/
def nodeAt (place : Place) : IO (Option FileNode) := do
  try
    let real ← IO.FS.realPath (String.ofList (FileTable.absolute place).toText)
    if placeOf real.toString ≠ place then return some (.link real.toString.toList)
    if ← real.isDir then return some .directory
    return some (.file (← IO.FS.readBinFile real).toList)
  catch _ => return none

/-- The table with a directory at a place and at each place above it. -/
def withDirectories (files : FileTable) (place : Place) : FileTable :=
  (List.range place.length).foldl (fun files n => files.put (place.take (n + 1)) .directory) files

/-- The table with what the file system has on the way of some parts from a directory. -/
def loadFrom (files : FileTable) (place : Place) : List Text → IO FileTable
  | [] => return files
  | part :: rest =>
    if part = Path.up then loadFrom files place.dropLast rest
    else do
      let next := place ++ [part]
      match ← nodeAt next with
      | none => return files
      | some (.link target) =>
        let real := placeOf (String.ofList target)
        let files := withDirectories (files.put next (.link target)) real.dropLast
        match ← nodeAt real with
        | none => return files
        | some node => loadFrom (files.put real node) real rest
      | some node => loadFrom (files.put next node) next rest

/-- The table with what the file system has on the way of a path. -/
def load (files : FileTable) (path : String) : IO FileTable :=
  let p := Path.ofText path.toList
  loadFrom files (if p.isAbsolute then [] else files.current) p.parts

/-- The paths that an argument may hold. -/
def pathsIn (argument : String) : List String :=
  match Text.cut '=' argument.toList with
  | (_, some value) => [argument, String.ofList value]
  | (_, none) => [argument]

/-- The path of the dialect that a configuration file names, if it names one by a path. -/
def dialectPath? (files : FileTable) (path : String) : Option String := do
  let p := Path.ofText path.toList
  let record ← (files.readJson p).toOption
  let name ← (← record.get? "dialect").text?
  if name.endsWith ".json" then
    some (String.ofList (Config.dialectName (some p.parent) name))
  else none

/-- The table with all files that a request may read. -/
def tableFor (arguments : List String) : IO FileTable := do
  let current := placeOf (← IO.currentDir).toString
  let paths := arguments.flatMap pathsIn
  let files ← paths.foldlM load (FileTable.empty current)
  (paths.filterMap (dialectPath? files)).foldlM load files

/-- Writes the files that are new or changed, each in one step. -/
def save (before after : FileTable) : IO Unit := do
  for (place, node) in after.nodes do
    if before.get? place ≠ some node then
      let path := String.ofList (FileTable.absolute place).toText
      match node with
      | .directory => IO.FS.createDirAll path
      | .file bytes =>
        let draft := path ++ ".new"
        IO.FS.writeBinFile draft (ByteArray.mk bytes.toArray)
        IO.FS.rename draft path
      | .link _ => pure ()

/-- Runs the program with the given arguments, and answers with its status. -/
def run (arguments : List String) : IO UInt32 := do
  match Request.read (arguments.map String.toList) with
  | .error .help => return 0
  | .error (.refused program refusal) =>
    IO.eprintln (String.ofList (program ++ ": error: " ++ refusal.message))
    return 2
  | .ok request =>
    let files ← tableFor arguments
    match request.run files with
    | .error crash =>
      IO.eprintln (String.ofList crash.message)
      return 1
    | .ok outcome =>
      save files outcome.files
      IO.eprint (String.ofList outcome.stderr)
      IO.print (String.ofList outcome.stdout)
      return UInt32.ofNat outcome.status

end Stencil.Program

def main (arguments : List String) : IO UInt32 := Stencil.Program.run arguments
