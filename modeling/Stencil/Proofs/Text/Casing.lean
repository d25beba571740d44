import Stencil.Text.Casing

/-! # Characters that have no lower-case form of their own

  The lower-case form of a text is made character by character, so that a character which stays as
  it is stands in it where it stood in the text.
-/

namespace Stencil

/-- A character that is its own lower-case form, wherever it stands. -/
structure Caseless (c : Char) : Prop where
  own : lowerChar c = [c]
  notSigma : c.toNat ≠ 0x3a3

namespace Text

theorem lowerFrom_cons_of_caseless {c : Char} (hc : Caseless c) (before t : Text) :
    lowerFrom before (c :: t) = c :: lowerFrom (c :: before) t := by
  rw [lowerFrom, if_neg hc.notSigma, hc.own]
  rfl

/-- The lower-case form of a text keeps its caseless characters. -/
theorem mem_lower_of_caseless {c : Char} (hc : Caseless c) {t : Text} (h : c ∈ t) :
    c ∈ lower t := by
  unfold lower
  generalize ([] : Text) = before
  induction t generalizing before with
  | nil => exact absurd h List.not_mem_nil
  | cons b t ih =>
    rcases List.mem_cons.mp h with rfl | h
    · rw [lowerFrom_cons_of_caseless hc]
      exact List.mem_cons_self
    · rw [lowerFrom, List.mem_append]
      exact .inr (ih h _)

end Text
end Stencil
