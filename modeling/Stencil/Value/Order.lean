import Stencil.Value.Basic

/-!
# The order of keys

Dictionaries are shown with their keys in order where they are laid out over lines: nothing comes
first, then numbers by their size, then texts by their code points.
-/

namespace Stencil

namespace Value

/-- The exact value of a number, as a numerator over a positive denominator. -/
def ratio? : Value → Option (Int × Nat)
  | .bool b => some (if b then 1 else 0, 1)
  | .int n => some (n, 1)
  | .real (.finite negative m e) =>
    let (num, den) := Decimal.ratio m e
    some (if negative then -(num : Int) else num, den)
  | _ => none

/-- Whether a number lies below all others, among them or above them. -/
def tier : Value → Int
  | .real (.infinite negative) => if negative then -1 else 1
  | _ => 0

/-- Whether a number is less than another. -/
def lessNumber (a b : Value) : Bool :=
  if a.tier < b.tier then true
  else if b.tier < a.tier then false
  else
    match a.ratio?, b.ratio? with
    | some (m, d), some (n, e) => m * e < n * d
    | _, _ => false

/-- The place of a kind of keys before or after the others. -/
def rank : Value → Nat
  | .nothing => 0
  | .bool _ | .int _ | .real _ => 1
  | .text _ => 2
  | .list _ => 3
  | .dict _ => 4

def before (a b : Value) : Bool :=
  if a.rank < b.rank then true
  else if b.rank < a.rank then false
  else
    match a, b with
    | .text s, .text t => !t.le s
    | a, b => lessNumber a b

mutual

/-- A value with the entries of all dictionaries in it in the order of their keys. -/
def sorted : Value → Value
  | .list items => .list (sortedItems items)
  | .dict entries => .dict ((sortedEntries entries).mergeSort fun a b => !b.1.before a.1)
  | v => v
termination_by structural v => v

def sortedItems : List Value → List Value
  | [] => []
  | v :: vs => v.sorted :: sortedItems vs
termination_by structural vs => vs

def sortedEntries : List (Value × Value) → List (Value × Value)
  | [] => []
  | e :: es => sortedEntry e :: sortedEntries es
termination_by structural es => es

def sortedEntry : Value × Value → Value × Value
  | (k, v) => (k, v.sorted)
termination_by structural e => e

end

end Value
end Stencil
