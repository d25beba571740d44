import Stencil.Text.Basic

/-!
# Classes of characters

A class of characters is kept as the list of its boundaries: the code points, in increasing order,
at which membership changes.  Below the first boundary nothing belongs to the class, up to the
second everything does, and so on in turn.
-/

namespace Stencil.Text

/-- Whether `n` lies in the class with the given boundaries; `inside` tells whether the code points
just below the first of them belong to it. -/
def withinFrom (inside : Bool) : List Nat → Nat → Bool
  | [], _ => inside
  | b :: bs, n => if n < b then inside else withinFrom (!inside) bs n

/-- Whether the character `c` belongs to the class with the given boundaries. -/
def within (boundaries : List Nat) (c : Char) : Bool := withinFrom false boundaries c.toNat

theorem withinFrom_of_lt {inside : Bool} {b n : Nat} {bs : List Nat} (h : n < b) :
    withinFrom inside (b :: bs) n = inside := by
  simp [withinFrom, h]

theorem withinFrom_of_le {inside : Bool} {b n : Nat} {bs : List Nat} (h : b ≤ n) :
    withinFrom inside (b :: bs) n = withinFrom (!inside) bs n := by
  simp [withinFrom, Nat.not_lt.2 h]

/-- Membership does not change between two boundaries. -/
theorem withinFrom_congr {inside : Bool} {m n : Nat} {bs : List Nat} (hle : m ≤ n)
    (h : ∀ b ∈ bs, b ≤ m ∨ n < b) : withinFrom inside bs m = withinFrom inside bs n := by
  induction bs generalizing inside with
  | nil => rfl
  | cons b bs ih =>
    rw [List.forall_mem_cons] at h
    rcases h.1 with hb | hb
    · rw [withinFrom_of_le hb, withinFrom_of_le (Nat.le_trans hb hle), ih h.2]
    · rw [withinFrom_of_lt hb, withinFrom_of_lt (Nat.lt_of_le_of_lt hle hb)]

end Stencil.Text
