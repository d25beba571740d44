import Stencil.Path
import Stencil.Text.Line
import Stencil.Text.Quoted
import Stencil.Text.Utf8

/-!
# Files

The files, links and directories that a program sees, as a table from places to what lies there.  A
place is the list of the names that lead to it from the root, without links and double dots.  Names
are texts, access is never denied, and a device never fails.
-/

namespace Stencil

abbrev Place := List Text

/-- What lies at a place. -/
inductive FileNode where
  | file (bytes : Bytes)
  | link (target : Text)
  | directory
deriving DecidableEq, Repr

/-- Why a path does not serve. -/
inductive AccessFault where
  | missing
  | present
  | notDirectory
  | isDirectory
  | tooManyLinks
deriving DecidableEq, Repr

def AccessFault.number : AccessFault → Nat
  | .missing => 2
  | .present => 17
  | .notDirectory => 20
  | .isDirectory => 21
  | .tooManyLinks => 40

def AccessFault.name : AccessFault → Text
  | .missing => "No such file or directory"
  | .present => "File exists"
  | .notDirectory => "Not a directory"
  | .isDirectory => "Is a directory"
  | .tooManyLinks => "Too many levels of symbolic links"

/-- A fault at a path. -/
structure FileFault where
  fault : AccessFault
  path : Path
deriving DecidableEq, Repr

def FileFault.message (f : FileFault) : Text :=
  "[Errno " ++ Text.ofNat f.fault.number ++ "] " ++ f.fault.name ++ ": " ++ f.path.toText.quoted

/-- Why a file is not read as a text. -/
inductive ReadFault where
  | file (fault : FileFault)
  | encoding (fault : Utf8Fault)
deriving DecidableEq, Repr

def ReadFault.message : ReadFault → Text
  | .file fault => fault.message
  | .encoding fault => fault.message

/-- The files that a program sees. -/
structure FileTable where
  /-- The working directory. -/
  current : Place
  nodes : List (Place × FileNode)

namespace FileTable

/-- A table with the working directory alone. -/
def empty (current : Place) : FileTable :=
  ⟨current, (List.range current.length).map fun n => (current.take (n + 1), .directory)⟩

/-- What lies at a place; the root is a directory. -/
def get? (files : FileTable) (place : Place) : Option FileNode :=
  if place = [] then some .directory else (files.nodes.find? (·.1 = place)).map (·.2)

def putNode (place : Place) (node : FileNode) : List (Place × FileNode) → List (Place × FileNode)
  | [] => [(place, node)]
  | entry :: entries =>
    if entry.1 = place then (place, node) :: entries else entry :: putNode place node entries

def put (files : FileTable) (place : Place) (node : FileNode) : FileTable :=
  { files with nodes := putNode place node files.nodes }

/-! ### Small laws -/

theorem find?_putNode_self (place : Place) (node : FileNode) (entries : List (Place × FileNode)) :
    ((putNode place node entries).find? (·.1 = place)).map (·.2) = some node := by
  induction entries with
  | nil => simp [putNode]
  | cons entry entries ih =>
    by_cases h : entry.1 = place
    · simp [putNode, h]
    · simp [putNode, h, ih]

theorem find?_putNode_of_ne {place other : Place} (h : other ≠ place) (node : FileNode)
    (entries : List (Place × FileNode)) :
    (putNode place node entries).find? (·.1 = other) = entries.find? (·.1 = other) := by
  induction entries with
  | nil => simp [putNode, h.symm]
  | cons entry entries ih =>
    by_cases he : entry.1 = place
    · simp [putNode, he, h.symm]
    · simp [putNode, he, List.find?_cons, ih]

theorem get?_put_self (files : FileTable) {place : Place} (h : place ≠ []) (node : FileNode) :
    (files.put place node).get? place = some node := by
  simpa [get?, put, h] using find?_putNode_self place node files.nodes

theorem get?_put_of_ne (files : FileTable) {place other : Place} (h : other ≠ place)
    (node : FileNode) : (files.put place node).get? other = files.get? other := by
  simp [get?, put, find?_putNode_of_ne h]

/-! ### From paths to places -/

/-- How far the parts of a path lead before a link has to be followed. -/
inductive Advance where
  | arrived (place : Place)
  | failed (fault : AccessFault)
  | link (directory : Place) (target : Text) (rest : List Text)

/-- The way from a directory along some parts.  Unless `follow` is set, a link at the end is not
followed. -/
def advance (files : FileTable) (follow : Bool) (place : Place) : List Text → Advance
  | [] => .arrived place
  | part :: rest =>
    if part = Path.up then advance files follow place.dropLast rest
    else
      let next := place ++ [part]
      match files.get? next with
      | none => .failed .missing
      | some (.link target) =>
        if rest.isEmpty && !follow then .arrived next else .link place target rest
      | some (.file _) => if rest.isEmpty then .arrived next else .failed .notDirectory
      | some .directory => advance files follow next rest

/-- The place that some parts lead to from a directory, over a limited number of links. -/
def walk (files : FileTable) (follow : Bool) :
    (links : Nat) → Place → List Text → Except AccessFault Place
  | links, place, parts =>
    match advance files follow place parts with
    | .arrived place => .ok place
    | .failed fault => .error fault
    | .link directory target rest =>
      match links with
      | 0 => .error .tooManyLinks
      | links + 1 =>
        let path := Path.ofText target
        walk files follow links (if path.isAbsolute then [] else directory) (path.parts ++ rest)

/-- The greatest number of links that are followed on one path. -/
def linkLimit : Nat := 40

def locate (files : FileTable) (follow : Bool) (p : Path) : Except AccessFault Place :=
  walk files follow linkLimit (if p.isAbsolute then [] else files.current) p.parts

def node? (files : FileTable) (follow : Bool) (p : Path) : Option FileNode :=
  match files.locate follow p with
  | .ok place => files.get? place
  | .error _ => none

def contains (files : FileTable) (p : Path) : Bool := (files.node? true p).isSome

def hasFile (files : FileTable) (p : Path) : Bool :=
  match files.node? true p with
  | some (.file _) => true
  | _ => false

def hasDirectory (files : FileTable) (p : Path) : Bool := files.node? true p = some .directory

/-- Whether a link lies at the end of a path. -/
def hasLink (files : FileTable) (p : Path) : Bool :=
  match files.node? false p with
  | some (.link _) => true
  | _ => false

/-- The path to a place from the root. -/
def absolute (place : Place) : Path := ⟨['/'], place⟩

/-- The path from the root, without links, to what `p` leads to; where it leads to nothing, the path
seen from the working directory. -/
def resolve (files : FileTable) (p : Path) : Path :=
  match files.locate true p with
  | .ok place => absolute place
  | .error _ => (absolute files.current).within p

/-! ### Reading -/

def readBytes (files : FileTable) (p : Path) : Except FileFault Bytes :=
  match files.locate true p with
  | .error fault => .error ⟨fault, p⟩
  | .ok place =>
    match files.get? place with
    | some (.file bytes) => .ok bytes
    | some .directory => .error ⟨.isDirectory, p⟩
    | _ => .error ⟨.missing, p⟩

def readText (files : FileTable) (p : Path) : Except ReadFault Text := do
  let bytes ← (files.readBytes p).mapError .file
  let text ← (Text.ofUtf8 bytes).mapError .encoding
  return text.unifyNewlines

/-! ### Directories and files -/

/-- The table with a directory at the end of a path, whose parent directory has to be there.  One
that is there already will do. -/
def makeDirectory (files : FileTable) (p : Path) : Except FileFault FileTable :=
  match files.locate false p with
  | .ok _ => if files.hasDirectory p then .ok files else .error ⟨.present, p⟩
  | .error .missing =>
    match files.locate true p.parent with
    | .ok place =>
      match p.parts.getLast?, files.get? place with
      | some name, some .directory => .ok (files.put (place ++ [name]) .directory)
      | _, _ => .error ⟨.missing, p⟩
    | .error _ => .error ⟨.missing, p⟩
  | .error fault => .error ⟨fault, p⟩

/-- What came of a step that gives a new table or fails, and the files after it. -/
def settle (files : FileTable) : Except FileFault FileTable → Except FileFault Unit × FileTable
  | .ok files' => (.ok (), files')
  | .error fault => (.error fault, files)

/-- Makes a directory at the end of a path of `count` parts, and at each of its parents.  Where one
cannot be made, those that were made before it stay. -/
def makePath (files : FileTable) : (count : Nat) → Path → Except FileFault Unit × FileTable
  | 0, p => files.settle (files.makeDirectory p)
  | count + 1, p =>
    match files.makeDirectory p with
    | .error ⟨.missing, _⟩ =>
      match makePath files count p.parent with
      | (.ok (), files') => files'.settle (files'.makeDirectory p)
      | (.error fault, files') => (.error fault, files')
    | result => files.settle result

/-- The table with a file at the end of a path, in a directory that is there; a file or a link that
lies there is replaced. -/
def replaceFile (files : FileTable) (p : Path) (bytes : Bytes) : Except FileFault FileTable :=
  match files.locate true p.parent, p.parts.getLast? with
  | .ok directory, some name =>
    let place := directory ++ [name]
    if files.get? directory ≠ some .directory then .error ⟨.notDirectory, p⟩
    else if name = Path.up then .error ⟨.isDirectory, p⟩
    else if files.get? place = some .directory then .error ⟨.isDirectory, p⟩
    else .ok (files.put place (.file bytes))
  | .error fault, _ => .error ⟨fault, p⟩
  | _, none => .error ⟨.isDirectory, p⟩

end FileTable
end Stencil
