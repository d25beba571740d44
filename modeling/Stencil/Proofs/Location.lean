import Stencil.Source

/-! # Places in a text

  A diagnostic shows a place by its byte, its line and its column. The lines that begin up to an
  offset are found with a table of line starts, and what the table says of an offset is read off the
  text before it: as many lines begin there as it has line feeds, and one more, and the last of them
  goes on to the offset (`Source.locate_of`).
-/

namespace Stencil

/-! ### Locations -/

/-- The place of offset `o` of a text, for its reader. -/
structure Location.Of (t : Text) (o : Nat) (l : Location) : Prop where
  byte : l.byte = Text.utf8Size (t.take o)
  /-- One line begins with the text, and one more behind every line feed. -/
  line : l.line = (t.take o).count '\n' + 1
  /-- The column counts the characters since the line began. -/
  column : ∃ before line, t.take o = before ++ line ∧ '\n' ∉ line ∧
    (before = [] ∨ before.getLast? = some '\n') ∧ l.column = line.length + 1

namespace Source

/-! ### Line starts -/

theorem lt_of_mem_lineStartsFrom {offset i : Nat} {t : Text} (h : i ∈ lineStartsFrom offset t) :
    offset < i := by
  induction t generalizing offset with
  | nil => exact absurd h List.not_mem_nil
  | cons c t ih =>
    rw [lineStartsFrom] at h
    split at h
    · rcases List.mem_cons.mp h with rfl | h
      · exact Nat.lt_succ_self offset
      · exact Nat.lt_of_succ_lt (ih h)
    · exact Nat.lt_of_succ_lt (ih h)

/-- The lines that begin up to an offset are those of the text up to there. -/
theorem takeWhile_lineStartsFrom (offset k : Nat) (t : Text) :
    (lineStartsFrom offset t).takeWhile (· ≤ offset + k) = lineStartsFrom offset (t.take k) := by
  induction t generalizing offset k with
  | nil => simp [lineStartsFrom]
  | cons c t ih =>
    cases k with
    | zero =>
      rw [List.take_zero]
      cases hstarts : lineStartsFrom offset (c :: t) with
      | nil => rfl
      | cons i starts =>
        have hlt := lt_of_mem_lineStartsFrom (hstarts ▸ List.mem_cons_self)
        exact List.takeWhile_cons_of_neg (by simpa using hlt)
    | succ k =>
      have hnext := ih (offset + 1) k
      rw [Nat.add_assoc, Nat.add_comm 1 k] at hnext
      rw [List.take_succ_cons, lineStartsFrom, lineStartsFrom]
      by_cases hc : c = '\n'
      · rw [if_pos hc, if_pos hc, List.takeWhile_cons_of_pos (by simp), hnext]
      · rw [if_neg hc, if_neg hc, hnext]

theorem length_lineStartsFrom (offset : Nat) (t : Text) :
    (lineStartsFrom offset t).length = t.count '\n' := by
  induction t generalizing offset with
  | nil => rfl
  | cons c t ih =>
    rw [lineStartsFrom]
    by_cases hc : c = '\n'
    · rw [if_pos hc, hc, List.count_cons_self, List.length_cons, ih]
    · rw [if_neg hc, List.count_cons_of_ne hc, ih]

theorem lineStartsFrom_append (offset : Nat) (s t : Text) :
    lineStartsFrom offset (s ++ t) =
      lineStartsFrom offset s ++ lineStartsFrom (offset + s.length) t := by
  induction s generalizing offset with
  | nil => rfl
  | cons c s ih =>
    have hnext := ih (offset + 1)
    rw [Nat.add_assoc, Nat.add_comm 1 s.length] at hnext
    rw [List.cons_append, lineStartsFrom, lineStartsFrom, hnext]
    by_cases hc : c = '\n'
    · rw [if_pos hc, if_pos hc]
      rfl
    · rw [if_neg hc, if_neg hc]
      rfl

/-! ### The last line -/

/-- The last line of a text comes after its last line feed. -/
theorem exists_lastLine (t : Text) : ∃ before line, t = before ++ line ∧ '\n' ∉ line ∧
    (before = [] ∨ before.getLast? = some '\n') := by
  induction t with
  | nil => exact ⟨[], [], rfl, List.not_mem_nil, .inl rfl⟩
  | cons c t ih =>
    obtain ⟨before, line, rfl, hline, hbefore⟩ := ih
    rcases hbefore with rfl | hbefore
    · by_cases hc : c = '\n'
      · exact ⟨[c], line, rfl, hline, .inr (by rw [hc]; rfl)⟩
      · exact ⟨[], c :: line, rfl, List.not_mem_cons_of_ne_of_not_mem (Ne.symm hc) hline, .inl rfl⟩
    · exact ⟨c :: before, line, rfl, hline, .inr (by rw [List.getLast?_cons, hbefore]; rfl)⟩

/-- The line starts of a text up to its last line end with that line's. -/
theorem getLast?_lineStarts {before line : Text} (hline : '\n' ∉ line)
    (hbefore : before = [] ∨ before.getLast? = some '\n') :
    (lineStarts (before ++ line)).getLast? = some before.length := by
  have hnone : lineStartsFrom (0 + before.length) line = [] := by
    rw [← List.length_eq_zero_iff, length_lineStartsFrom]
    exact List.count_eq_zero.mpr hline
  unfold lineStarts
  rw [lineStartsFrom_append, hnone, List.append_nil]
  rcases hbefore with rfl | hbefore
  · rfl
  · obtain ⟨pre, rfl⟩ := List.getLast?_eq_some_iff.mp hbefore
    have hfeed : lineStartsFrom (0 + pre.length) ['\n'] = [(pre ++ ['\n']).length] := by
      rw [lineStartsFrom, if_pos rfl, List.length_append, Nat.zero_add]
      rfl
    rw [lineStartsFrom_append, hfeed, ← List.cons_append, List.getLast?_concat]

/-- An offset in a text, or at its end, is shown by its own place. -/
theorem locate_of (s : Source) {o : Nat} (ho : o ≤ s.text.length) :
    Location.Of s.text o (s.locate o) := by
  have hclamp : clamp s.text o = o := by
    unfold clamp
    omega
  have hstarts : startsUpTo s.text o = lineStarts (s.text.take o) := by
    have htake := takeWhile_lineStartsFrom 0 o s.text
    rw [Nat.zero_add] at htake
    unfold startsUpTo lineStarts
    rw [List.takeWhile_cons_of_pos (by simp), htake]
  obtain ⟨before, line, hsplit, hline, hbefore⟩ := exists_lastLine (s.text.take o)
  have hlen : before.length + line.length = o := by
    rw [← List.length_append, ← hsplit, List.length_take_of_le ho]
  unfold locate
  dsimp only
  rw [hclamp, hstarts]
  refine ⟨rfl, ?_, before, line, hsplit, hline, hbefore, ?_⟩
  · show (lineStartsFrom 0 _).length + 1 = _
    rw [length_lineStartsFrom]
  · show o - _ + 1 = _
    rw [hsplit, getLast?_lineStarts hline hbefore, Option.getD_some]
    omega

end Source
end Stencil
