import Stencil.Depth

/-! # What stands at depth zero

  A scan counts the open brackets and collects the offsets of the characters at depth zero that pass
  a test. It finds all of them and no others (`mem_outerFrom_iff`), in increasing order
  (`pairwise_outerFrom`), so that the last offset it collects is that of the last such character
  (`getLast?_eq_some_iff_of_increasing`).
-/

namespace Stencil

/-- The character `x` stands at offset `i` of a text, at depth zero. -/
def OuterAt (t : Text) (x : Char) (i : Nat) : Prop :=
  t[i]? = some x ∧ (depths t)[i]? = some 0

section scan
variable {test : Char → Bool} {offset depth i : Nat} {t : Text}

theorem mem_outerFrom_iff :
    i ∈ outerFrom test offset depth t ↔
      ∃ j c, i = offset + j ∧ t[j]? = some c ∧ test c = true ∧
        (depthsFrom depth t)[j]? = some 0 := by
  induction t generalizing offset depth with
  | nil => simp [outerFrom]
  | cons c t ih =>
    have hfirst : i ∈ outerFrom test offset depth (c :: t) ↔
        (i = offset ∧ test c = true ∧ depthAt depth c = 0) ∨
          i ∈ outerFrom test (offset + 1) (depthAfter depth c) t := by
      rw [outerFrom]
      by_cases h : (test c && depthAt depth c = 0) = true
      · rw [if_pos h, List.mem_cons]
        rw [Bool.and_eq_true, decide_eq_true_eq] at h
        simp [h.1, h.2]
      · rw [if_neg h]
        rw [Bool.and_eq_true, decide_eq_true_eq] at h
        simp [h]
    rw [hfirst, ih]
    constructor
    · rintro (⟨rfl, htest, hdepth⟩ | ⟨j, c', rfl, hc', htest, hdepth⟩)
      · exact ⟨0, c, rfl, rfl, htest, congrArg some hdepth⟩
      · exact ⟨j + 1, c', by omega, hc', htest, hdepth⟩
    · rintro ⟨j, c', rfl, hc', htest, hdepth⟩
      cases j with
      | zero =>
        obtain rfl : c = c' := Option.some.inj hc'
        exact .inl ⟨rfl, htest, Option.some.inj hdepth⟩
      | succ j => exact .inr ⟨j, c', by omega, hc', htest, hdepth⟩

theorem pairwise_outerFrom : (outerFrom test offset depth t).Pairwise (· < ·) := by
  induction t generalizing offset depth with
  | nil => exact .nil
  | cons c t ih =>
    rw [outerFrom]
    split
    · refine List.pairwise_cons.mpr ⟨fun i hi => ?_, ih⟩
      obtain ⟨j, _, rfl, _⟩ := mem_outerFrom_iff.mp hi
      omega
    · exact ih

theorem le_of_mem_outerFrom (h : i ∈ outerFrom test offset depth t) : offset ≤ i := by
  obtain ⟨j, _, rfl, _⟩ := mem_outerFrom_iff.mp h
  exact Nat.le_add_right offset j

/-- A scan of the first characters of a text finds what the scan of the text finds among them. -/
theorem outerFrom_take (n : Nat) :
    outerFrom test offset depth (t.take n) =
      (outerFrom test offset depth t).filter (· < offset + n) := by
  induction t generalizing offset depth n with
  | nil => simp [outerFrom]
  | cons c t ih =>
    cases n with
    | zero =>
      have hnone : (outerFrom test offset depth (c :: t)).filter (· < offset) = [] := by
        rw [List.filter_eq_nil_iff]
        intro i hi
        simpa using le_of_mem_outerFrom hi
      rw [Nat.add_zero, hnone]
      rfl
    | succ n =>
      rw [List.take_succ_cons, outerFrom, outerFrom, ih, Nat.add_right_comm, Nat.add_assoc]
      split
      · rw [List.filter_cons_of_pos (by simp)]
      · rfl

end scan

/-- The offsets of a character at depth zero. -/
theorem mem_outerOffsets_iff {t : Text} {x : Char} {i : Nat} :
    i ∈ outerOffsets (· = x) t ↔ OuterAt t x i := by
  unfold outerOffsets OuterAt depths
  rw [mem_outerFrom_iff]
  simp only [Nat.zero_add, decide_eq_true_eq]
  constructor
  · rintro ⟨j, c, rfl, hc, rfl, hdepth⟩
    exact ⟨hc, hdepth⟩
  · rintro ⟨hx, hdepth⟩
    exact ⟨i, x, rfl, hx, rfl, hdepth⟩

/-- The last element of an increasing list is its greatest. -/
theorem getLast?_eq_some_iff_of_increasing {l : List Nat} (hl : l.Pairwise (· < ·)) {n : Nat} :
    l.getLast? = some n ↔ n ∈ l ∧ ∀ i ∈ l, i ≤ n := by
  have hgreatest {m : Nat} (h : l.getLast? = some m) : ∀ i ∈ l, i ≤ m := by
    obtain ⟨before, rfl⟩ := List.getLast?_eq_some_iff.mp h
    intro i hi
    rcases List.mem_append.mp hi with hi | hi
    · exact Nat.le_of_lt ((List.pairwise_append.mp hl).2.2 i hi m (List.mem_singleton_self m))
    · exact Nat.le_of_eq (List.mem_singleton.mp hi)
  constructor
  · intro h
    exact ⟨List.mem_of_getLast? h, hgreatest h⟩
  · rintro ⟨hmem, hle⟩
    have hlast := List.getLast?_eq_some_getLast (List.ne_nil_of_mem hmem)
    rw [hlast]
    have hn := hgreatest hlast n hmem
    have hm := hle _ (List.getLast_mem (List.ne_nil_of_mem hmem))
    exact congrArg some (Nat.le_antisymm hm hn)

end Stencil
