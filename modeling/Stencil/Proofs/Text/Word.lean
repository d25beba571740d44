import Stencil.Text.Word

/-! # Characters of plain names

  Plain names are made of ASCII characters, and each of these is a character of words.
-/

namespace Stencil

variable {c : Char}

/-- What holds of the ASCII characters one by one holds of each of them. -/
theorem of_ascii {P : Char → Prop} (h : ∀ n < 0x80, P (Char.ofNat n)) (hc : c.toNat < 0x80) :
    P c := by
  have hp := h c.toNat hc
  rwa [Char.ofNat_toNat] at hp

theorem isPlainChar_of_isPlainStart (h : isPlainStart c = true) : isPlainChar c = true := by
  unfold isPlainStart at h
  unfold isPlainChar Char.isAlphanum
  simp only [Bool.or_eq_true] at h ⊢
  rcases h with h | h
  · exact .inl (.inl h)
  · exact .inr h

theorem isWordChar_of_isPlainChar (h : isPlainChar c = true) : isWordChar c = true := by
  have hc : c.toNat < 128 := by
    have hval : c.toNat = c.val.toNat := rfl
    unfold isPlainChar Char.isAlphanum Char.isAlpha Char.isUpper Char.isLower Char.isDigit at h
    simp only [Bool.or_eq_true, Bool.and_eq_true, decide_eq_true_eq, ge_iff_le,
      UInt32.le_iff_toNat_le] at h
    rcases h with (((⟨_, h⟩ | ⟨_, h⟩) | ⟨_, h⟩) | rfl)
    · exact Nat.lt_of_le_of_lt h (by decide)
    · exact Nat.lt_of_le_of_lt h (by decide)
    · exact Nat.lt_of_le_of_lt h (by decide)
    · decide
  exact of_ascii (P := fun c => isPlainChar c = true → isWordChar c = true) (by decide +kernel) hc h

theorem isWordChar_of_isPlainStart (h : isPlainStart c = true) : isWordChar c = true :=
  isWordChar_of_isPlainChar (isPlainChar_of_isPlainStart h)

end Stencil
