import Stencil.FileTable

/-!
# Generated files

A generated text is put into a file only if the file is not current already, so that what depends on
the file is not made again without need.  A link is never written through.
-/

namespace Stencil

/-- Why a generated text is not put into a file. -/
inductive OutputFault where
  /-- The path ends at a link. -/
  | link (path : Path)
  | read (fault : ReadFault)
  | write (fault : FileFault)
deriving DecidableEq, Repr

def OutputFault.message : OutputFault → Text
  | .link path => "E_OUTPUT_SYMLINK: " ++ path.toText
  | .read fault => fault.message
  | .write fault => fault.message

namespace FileTable

/-- Whether the file at the end of a path, read with universal newlines, holds a text already. -/
def isCurrent (files : FileTable) (p : Path) (text : Text) : Except ReadFault Bool := do
  if files.contains p then return (← files.readText p) = text
  return false

/-- Puts a generated text into the file at the end of a path, in a directory that is made if need
be, and tells whether that is a change.  A failure leaves the directories that were made before
it.  The text goes into a temporary file that then takes the place of the old one, so that it is
there as a whole or not at all.  What a device does that fails while the temporary file is written,
and the file that it may leave behind, is outside this library. -/
def generate (files : FileTable) (p : Path) (text : Text) : Except OutputFault Bool × FileTable :=
  if files.hasLink p then (.error (.link p), files)
  else
    match files.isCurrent p text with
    | .error fault => (.error (.read fault), files)
    | .ok true => (.ok false, files)
    | .ok false =>
      match files.makePath p.parent.parts.length p.parent with
      | (.error fault, made) => (.error (.write fault), made)
      | (.ok (), made) =>
        match made.replaceFile p text.toUtf8 with
        | .error fault => (.error (.write fault), made)
        | .ok written => (.ok true, written)

/-- The table with a generated text in the file at the end of a path, and whether that is a
change. -/
def writeGenerated (files : FileTable) (p : Path) (text : Text) :
    Except OutputFault (Bool × FileTable) :=
  match files.generate p text with
  | (.ok changed, written) => .ok (changed, written)
  | (.error fault, _) => .error fault

end FileTable
end Stencil
