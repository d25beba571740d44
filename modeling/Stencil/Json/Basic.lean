import Stencil.Number.Binary64
import Stencil.Text.Basic

/-!
# JSON values

The values that configuration files, dialect records and reports are made of.  An object keeps its
members in the order in which they were written, each key once.
-/

namespace Stencil

/-- A JSON value; a number without fraction and exponent is an integer of any size. -/
inductive Json where
  | null
  | bool (b : Bool)
  | int (n : Int)
  | real (x : Binary64)
  | str (t : Text)
  | arr (items : List Json)
  | obj (members : List (Text × Json))

namespace Json

/-- The value of a key, if a list of members has it. -/
def find? (key : Text) : List (Text × Json) → Option Json
  | [] => none
  | (k, v) :: ms => if k = key then some v else find? key ms

/-- Members with one more; a key that is there already keeps its place and takes the new value. -/
def put (key : Text) (value : Json) : List (Text × Json) → List (Text × Json)
  | [] => [(key, value)]
  | (k, v) :: ms => if k = key then (k, value) :: ms else (k, v) :: put key value ms

/-- The value of a key, if `j` is an object that has it. -/
def get? (key : Text) (j : Json) : Option Json :=
  match j with
  | .obj members => find? key members
  | _ => none

/-- Whether a value counts as true where a flag is expected: neither null, false, zero nor empty. -/
def holds : Json → Bool
  | .null => false
  | .bool b => b
  | .int n => n ≠ 0
  | .real x => !x.isZero
  | .str t => !t.isEmpty
  | .arr items => !items.isEmpty
  | .obj members => !members.isEmpty

def text? : Json → Option Text
  | .str t => some t
  | _ => none

def ofText? : Option Text → Json
  | none => .null
  | some t => .str t

/-! ### Members in order -/

/-- Members with one more, put before the first whose key is greater. -/
def insertMember (m : Text × Json) : List (Text × Json) → List (Text × Json)
  | [] => [m]
  | n :: ms => if Text.le m.1 n.1 then m :: n :: ms else n :: insertMember m ms

/-- Members in the order of their keys. -/
def orderMembers : List (Text × Json) → List (Text × Json)
  | [] => []
  | m :: ms => insertMember m (orderMembers ms)

mutual

/-- A value in which the members of every object stand in the order of their keys. -/
def ordered : Json → Json
  | .arr items => .arr (orderedItems items)
  | .obj members => .obj (orderMembers (orderedMembers members))
  | j => j
termination_by structural j => j

def orderedItems : List Json → List Json
  | [] => []
  | j :: js => ordered j :: orderedItems js
termination_by structural js => js

def orderedMembers : List (Text × Json) → List (Text × Json)
  | [] => []
  | m :: ms => orderedMember m :: orderedMembers ms
termination_by structural ms => ms

def orderedMember : Text × Json → Text × Json
  | (k, v) => (k, ordered v)
termination_by structural m => m

end

end Json
end Stencil
