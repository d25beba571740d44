import Stencil.Text.Basic

/-!
# Paths

A path is a root, if it has one, and the parts between its slashes.  Empty parts and single dots are
dropped; double dots are kept, because what they lead to depends on the files.
-/

namespace Stencil

/-- A path to a file. -/
structure Path where
  /-- The slashes that it begins with: none, one or two. -/
  root : Text
  parts : List Text
deriving DecidableEq, Repr

namespace Path

def up : Text := ['.', '.']

def rootOf : Text → Text
  | '/' :: '/' :: '/' :: _ => ['/']
  | '/' :: '/' :: _ => ['/', '/']
  | '/' :: _ => ['/']
  | _ => []

def ofText (t : Text) : Path :=
  ⟨rootOf t, (Text.splitAt '/' t).filter fun part => !(part = [] || part = ['.'])⟩

def toText (p : Path) : Text :=
  if p.root = [] && p.parts = [] then ['.'] else p.root ++ Text.join ['/'] p.parts

/-- Whether a path does not depend on the working directory. -/
def isAbsolute (p : Path) : Bool := p.root ≠ []

def parent (p : Path) : Path := { p with parts := p.parts.dropLast }

/-- The path `p`, seen from the directory `base`. -/
def within (base p : Path) : Path := if p.isAbsolute then p else ⟨base.root, base.parts ++ p.parts⟩

end Path
end Stencil
