import Stencil.Text.Basic

/-! # Texts that are cut

  Write `r ++ s` for a text and `r` for the piece in front of a cut. What is looked for in the text,
  and found before the cut, is found in the piece.
-/

namespace Stencil.Text

variable {p r s : Text}

/-- A text is split at a character of it. -/
theorem split_at {t : Text} {x : Char} {i : Nat} (h : t[i]? = some x) :
    t = t.take i ++ x :: t.drop (i + 1) ∧ (t.take i).length = i := by
  obtain ⟨hi, hx⟩ := List.getElem?_eq_some_iff.mp h
  constructor
  · rw [← hx, List.getElem_cons_drop, List.take_append_drop]
  · exact List.length_take_of_le (Nat.le_of_lt hi)

/-! ### Beginnings of a longer text -/

theorem isPrefixOf_append_right (h : p.isPrefixOf r = true) : p.isPrefixOf (r ++ s) = true := by
  rw [List.isPrefixOf_iff_prefix] at h ⊢
  exact h.trans (List.prefix_append r s)

/-- Whether a text begins with another one is told by as many characters as that one has. -/
theorem isPrefixOf_of_append (hp : p.length ≤ r.length) (h : p.isPrefixOf (r ++ s) = true) :
    p.isPrefixOf r = true := by
  rw [List.isPrefixOf_iff_prefix] at h ⊢
  exact List.prefix_of_prefix_length_le h (List.prefix_append r s) hp

theorem isPrefixOf_append (hp : p.length ≤ r.length) :
    p.isPrefixOf (r ++ s) = p.isPrefixOf r := by
  apply Bool.eq_iff_iff.mpr
  exact ⟨isPrefixOf_of_append hp, isPrefixOf_append_right⟩

/-- A text without the character at the cut begins a longer text only within the piece. -/
theorem isPrefixOf_append_of_not_mem (hs : ∀ x ∈ s.head?, x ∉ p) :
    p.isPrefixOf (r ++ s) = p.isPrefixOf r := by
  cases s with
  | nil => rw [List.append_nil]
  | cons x s =>
    rw [Bool.eq_iff_iff]
    refine ⟨fun h => ?_, isPrefixOf_append_right⟩
    apply isPrefixOf_of_append (s := x :: s) _ h
    rw [← Nat.not_lt]
    intro hlong
    apply hs x rfl
    -- A longer one would have the character in it.
    obtain ⟨rest, hrest⟩ := List.isPrefixOf_iff_prefix.mp h
    obtain ⟨k, hk⟩ : ∃ k, p.length = r.length + (k + 1) := ⟨p.length - r.length - 1, by omega⟩
    have htake : (p ++ rest).take p.length = p := List.take_left
    rw [hrest, hk, List.take_length_add_append, List.take_succ_cons] at htake
    rw [← htake]
    exact List.mem_append_right _ List.mem_cons_self

/-! ### Runs of characters -/

section runs
variable {f : Char → Bool}

theorem drop_takeWhile (f : Char → Bool) (t : Text) :
    t.drop (t.takeWhile f).length = t.dropWhile f := by
  have h := List.takeWhile_append_dropWhile (p := f) (l := t)
  calc t.drop (t.takeWhile f).length
      = (t.takeWhile f ++ t.dropWhile f).drop (t.takeWhile f).length := by rw [h]
    _ = t.dropWhile f := List.drop_left

theorem length_takeWhile_of_dropWhile_nil {t : Text} (h : t.dropWhile f = []) :
    (t.takeWhile f).length = t.length := by
  have hsplit := congrArg List.length (List.takeWhile_append_dropWhile (p := f) (l := t))
  rw [h, List.append_nil] at hsplit
  exact hsplit

/-- A run that ends within `r` is the same in every longer text. -/
theorem takeWhile_append_of_ends (h : r.dropWhile f ≠ []) :
    (r ++ s).takeWhile f = r.takeWhile f := by
  have hlen : (r.takeWhile f).length ≠ r.length := by
    intro e
    apply h
    rw [← drop_takeWhile, e, List.drop_length]
  rw [List.takeWhile_append, if_neg hlen]

theorem dropWhile_append_of_ends (h : r.dropWhile f ≠ []) :
    (r ++ s).dropWhile f = r.dropWhile f ++ s := by
  rw [List.dropWhile_append, if_neg (by rwa [List.isEmpty_iff])]

/-- A run that what comes behind it does not go on with. -/
theorem takeWhile_run_append (hr : ∀ c ∈ r, f c = true) (hs : ∀ c ∈ s.head?, f c = false) :
    (r ++ s).takeWhile f = r := by
  rw [List.takeWhile_append_of_pos hr]
  cases s with
  | nil => rw [List.takeWhile_nil, List.append_nil]
  | cons c s =>
    have hc : ¬ f c = true := by
      rw [hs c rfl]
      exact Bool.false_ne_true
    rw [List.takeWhile_cons_of_neg hc, List.append_nil]

theorem dropWhile_run_append (hr : ∀ c ∈ r, f c = true) (hs : ∀ c ∈ s.head?, f c = false) :
    (r ++ s).dropWhile f = s := by
  rw [← drop_takeWhile, takeWhile_run_append hr hs, List.drop_left]

theorem run_append_inj {r' s' : Text} (hr : ∀ c ∈ r, f c = true) (hs : ∀ c ∈ s.head?, f c = false)
    (hr' : ∀ c ∈ r', f c = true) (hs' : ∀ c ∈ s'.head?, f c = false) (h : r ++ s = r' ++ s') :
    r = r' ∧ s = s' := by
  constructor
  · rw [← takeWhile_run_append hr hs, h, takeWhile_run_append hr' hs']
  · rw [← dropWhile_run_append hr hs, h, dropWhile_run_append hr' hs']

/-- A run that takes all of `r` goes on in a longer text. -/
theorem le_length_takeWhile_append (h : r.dropWhile f = []) :
    r.length ≤ ((r ++ s).takeWhile f).length := by
  rw [List.takeWhile_append, if_pos (length_takeWhile_of_dropWhile_nil h), List.length_append]
  omega

end runs

/-! ### First occurrences -/

/-- A first occurrence that ends within a text is its first occurrence. -/
theorem offsetOf?_of_append {n : Nat} (h : offsetOf? p (r ++ s) = some n)
    (hn : n + p.length ≤ r.length) : offsetOf? p r = some n := by
  induction r generalizing n with
  | nil =>
    rw [List.length_nil] at hn
    obtain rfl : p = [] := List.eq_nil_of_length_eq_zero (by omega)
    obtain rfl : n = 0 := by omega
    rfl
  | cons c r ih =>
    rw [List.cons_append, offsetOf?] at h
    rw [offsetOf?]
    split at h
    · next hpre =>
      obtain rfl : 0 = n := by simpa using h
      have hr : p.isPrefixOf (c :: r) = true :=
        isPrefixOf_of_append (s := s) (by omega) hpre
      rw [if_pos hr]
    · next hpre =>
      obtain ⟨m, hm, rfl⟩ := Option.map_eq_some_iff.mp h
      have hr : ¬ p.isPrefixOf (c :: r) = true := fun e =>
        hpre (isPrefixOf_append_right (s := s) e)
      rw [if_neg hr, ih hm (by simp at hn; omega)]
      rfl

/-- What is found in a text lies within it. -/
theorem offsetOf?_spec {n : Nat} (h : offsetOf? p r = some n) :
    ∃ u rest, r = u ++ (p ++ rest) ∧ u.length = n := by
  induction r generalizing n with
  | nil =>
    rw [offsetOf?] at h
    split at h
    · next hempty =>
      obtain rfl : 0 = n := by simpa using h
      rw [List.isEmpty_iff.mp hempty]
      exact ⟨[], [], rfl, rfl⟩
    · simp at h
  | cons c r ih =>
    rw [offsetOf?] at h
    split at h
    · next hpre =>
      obtain rfl : 0 = n := by simpa using h
      obtain ⟨rest, hrest⟩ := List.isPrefixOf_iff_prefix.mp hpre
      exact ⟨[], rest, hrest.symm, rfl⟩
    · obtain ⟨m, hm, rfl⟩ := Option.map_eq_some_iff.mp h
      obtain ⟨u, rest, rfl, rfl⟩ := ih hm
      exact ⟨c :: u, rest, rfl, rfl⟩

theorem offsetOf?_le {n : Nat} (h : offsetOf? p r = some n) : n + p.length ≤ r.length := by
  obtain ⟨u, rest, rfl, rfl⟩ := offsetOf?_spec h
  rw [List.length_append, List.length_append]
  omega

/-- A first occurrence in a text is the first one in every longer text. -/
theorem offsetOf?_append {n : Nat} (h : offsetOf? p r = some n) :
    offsetOf? p (r ++ s) = some n := by
  induction r generalizing n with
  | nil =>
    have hlen := offsetOf?_le h
    rw [List.length_nil] at hlen
    obtain rfl : p = [] := List.eq_nil_of_length_eq_zero (by omega)
    obtain rfl : n = 0 := by omega
    cases s <;> rfl
  | cons c r ih =>
    have hlen := offsetOf?_le h
    rw [List.cons_append, offsetOf?, ← List.cons_append, isPrefixOf_append (by omega)]
    rw [offsetOf?] at h
    split at h
    · next hpre => rw [if_pos hpre]; exact h
    · next hpre =>
      obtain ⟨m, hm, rfl⟩ := Option.map_eq_some_iff.mp h
      rw [if_neg hpre, ih hm]
      rfl

/-- A line goes up to its end, or to the end of the text. -/
theorem takeWhile_line {t rest : Text} (h : '\n' ∉ t)
    (hrest : rest.takeWhile (· ≠ '\n') = []) : (t ++ rest).takeWhile (· ≠ '\n') = t := by
  have hall : ∀ c ∈ t, decide (c ≠ '\n') = true := by
    intro c hc
    rw [decide_eq_true_iff]
    rintro rfl
    exact h hc
  rw [List.takeWhile_append_of_pos hall, hrest, List.append_nil]

end Stencil.Text
