import Stencil.Json.Basic
import Stencil.Number.Digits
import Stencil.Number.Spelling

/-!
# Values

The values that a template shows when it is rendered, and their plain spellings.
-/

namespace Stencil

inductive Value where
  | nothing
  | bool (b : Bool)
  | int (n : Int)
  | real (x : Binary64)
  | text (t : Text)
  | list (items : List Value)
  /-- Keys with their values, in the order in which they were put in. -/
  | dict (entries : List (Value × Value))
  deriving Inhabited

namespace Value

def kind : Value → Text
  | .nothing => "NoneType"
  | .bool _ => "bool"
  | .int _ => "int"
  | .real _ => "float"
  | .text _ => "str"
  | .list _ => "list"
  | .dict _ => "dict"

mutual

/-- The spelling of a value from which it can be told apart from others: a text stands between
quotes. -/
def spelled : Value → Text
  | .nothing => "None"
  | .bool b => if b then "True" else "False"
  | .int n => Text.ofInt n
  | .real x => x.spelled "nan" "inf"
  | .text t => t.quoted
  | .list items => '[' :: spelledItems items ++ [']']
  | .dict entries => '{' :: spelledEntries entries ++ ['}']
termination_by structural v => v

def spelledItems : List Value → Text
  | [] => []
  | v :: vs => spelled v ++ (if vs.isEmpty then [] else (", " : Text) ++ spelledItems vs)
termination_by structural vs => vs

def spelledEntries : List (Value × Value) → Text
  | [] => []
  | e :: es => spelledEntry e ++ (if es.isEmpty then [] else (", " : Text) ++ spelledEntries es)
termination_by structural es => es

def spelledEntry : Value × Value → Text
  | (k, v) => spelled k ++ ": " ++ spelled v
termination_by structural e => e

end

mutual

/-- Whether there is an integer with too many digits in a value. -/
def hasLongInteger : Value → Bool
  | .int n => isLong n
  | .list items => anyLongInteger items
  | .dict entries => anyLongEntry entries
  | _ => false
termination_by structural v => v

def anyLongInteger : List Value → Bool
  | [] => false
  | v :: vs => hasLongInteger v || anyLongInteger vs
termination_by structural vs => vs

def anyLongEntry : List (Value × Value) → Bool
  | [] => false
  | e :: es => isLongEntry e || anyLongEntry es
termination_by structural es => es

def isLongEntry : Value × Value → Bool
  | (k, v) => hasLongInteger k || hasLongInteger v
termination_by structural e => e

end

/-- The spelling of a value for a reader: a text stands for itself. -/
def shown : Value → Text
  | .text t => t
  | v => v.spelled

mutual

/-- A JSON value as a value of the host program. -/
def ofJson : Json → Value
  | .null => .nothing
  | .bool b => .bool b
  | .int n => .int n
  | .real x => .real x
  | .str t => .text t
  | .arr items => .list (ofItems items)
  | .obj members => .dict (ofMembers members)
termination_by structural j => j

def ofItems : List Json → List Value
  | [] => []
  | j :: js => ofJson j :: ofItems js
termination_by structural js => js

def ofMembers : List (Text × Json) → List (Value × Value)
  | [] => []
  | m :: ms => ofMember m :: ofMembers ms
termination_by structural ms => ms

def ofMember : Text × Json → Value × Value
  | (k, v) => (.text k, ofJson v)
termination_by structural m => m

end

end Value
end Stencil
