import Stencil.Text.Casing

/-!
# Folding of case

Which characters count as one where a pattern does not tell capital letters from small ones.
Characters are compared by their small forms.  In the wide folding, small letters that share a
capital form count as one too.
-/

namespace Stencil

/-- What a pattern makes of capital and small letters. -/
inductive Folding where
  /-- Every character counts for itself. -/
  | exact
  /-- A capital and a small ASCII letter count as one. -/
  | ascii
  /-- A capital and a small letter count as one. -/
  | wide
deriving DecidableEq, Repr

namespace Folding

/-- The small letters that share a capital form. -/
def siblings : List (List Nat) :=
  [[0x69, 0x131], [0x73, 0x17f], [0xb5, 0x3bc], [0x345, 0x3b9, 0x1fbe], [0x390, 0x1fd3],
    [0x3b0, 0x1fe3], [0x3b2, 0x3d0], [0x3b5, 0x3f5], [0x3b8, 0x3d1], [0x3ba, 0x3f0],
    [0x3c0, 0x3d6], [0x3c1, 0x3f1], [0x3c2, 0x3c3], [0x3c6, 0x3d5], [0x432, 0x1c80],
    [0x434, 0x1c81], [0x43e, 0x1c82], [0x441, 0x1c83], [0x442, 0x1c84, 0x1c85],
    [0x44a, 0x1c86], [0x463, 0x1c87], [0x1c88, 0xa64b], [0x1e61, 0x1e9b], [0xfb05, 0xfb06]]

def small (f : Folding) (c : Char) : Char :=
  match f with
  | .exact => c
  | .ascii => c.toLower
  | .wide => (lowerChar c).headD c

/-- The small forms that count as one with the small form `c`, which is one of them. -/
def alike (f : Folding) (c : Char) : List Char :=
  match f with
  | .exact | .ascii => [c]
  | .wide => ((siblings.find? (·.contains c.toNat)).map (·.map Char.ofNat)).getD [c]

/-- The characters that have the small form `c`. -/
def ofSmall (f : Folding) (c : Char) : List Char :=
  match f with
  | .exact => [c]
  | .ascii => [c, c.toUpper]
  | .wide => c :: capitalsOf c

def same (f : Folding) (c d : Char) : Bool := (f.alike (f.small c)).contains (f.small d)

def closure (f : Folding) (c : Char) : List Char := (f.alike (f.small c)).flatMap f.ofSmall

end Folding
end Stencil
