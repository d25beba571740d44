import Mathlib.Data.List.TakeWhile
import Stencil.Proofs.Location
import Stencil.Proofs.Text.Utf8

/-! # What a place tells of its offset

  A place is a line and a column, and a number of bytes. None of them loses anything of the offset
  that was located:

  * the offset is found again where the line begins, so many characters on as the column says
    (`Location.Exact.offset`);
  * a later offset has more bytes before it, and its line and column come later
    (`Location.Exact.later`);
  * in a text without carriage returns the excerpt of a diagnostic is the line of the offset, and
    the character under the column is the one at the offset (`Location.Exact.excerpt`).

  An offset outside the text is moved into it first, so that every integer has a place.
-/

namespace Stencil

namespace Text

/-- The number of bytes in UTF-8 is what it is called. -/
theorem length_toUtf8 (t : Text) : t.toUtf8.length = t.utf8Size := by
  induction t with
  | nil => rfl
  | cons c t ih =>
    rw [toUtf8_cons, List.length_append, ih, String.length_utf8EncodeChar]
    rfl

theorem utf8Size_pos {t : Text} (h : t ≠ []) : 0 < t.utf8Size := by
  obtain ⟨c, t, rfl⟩ := List.exists_cons_of_ne_nil h
  have hc := c.utf8Size_pos
  rw [utf8Size]
  omega

/-- More of a text is what there was of it and something behind. -/
theorem exists_take_append {t : Text} {o o' : Nat} (h : o < o') (h' : o' ≤ t.length) :
    ∃ between, between ≠ [] ∧ t.take o' = t.take o ++ between := by
  refine ⟨(t.drop o).take (o' - o), ?_, ?_⟩
  · intro hnil
    have hlen := congrArg List.length hnil
    rw [List.length_take, List.length_drop, List.length_nil] at hlen
    omega
  · rw [← List.take_add]
    congr 1
    omega

end Text

/-! ### Lines -/

/-- Line number `k` of a text begins at offset `b`: so many line feeds stand before it, the last of
them right there. -/
structure LineBegins (t : Text) (k b : Nat) : Prop where
  within : b ≤ t.length
  number : (t.take b).count '\n' + 1 = k
  behind : b = 0 ∨ (t.take b).getLast? = some '\n'

namespace Source

theorem lineStarts_append (u v : Text) :
    lineStarts (u ++ v) = lineStarts u ++ lineStartsFrom u.length v := by
  unfold lineStarts
  rw [lineStartsFrom_append, Nat.zero_add]
  rfl

theorem length_lineStarts (t : Text) : (lineStarts t).length = t.count '\n' + 1 := by
  unfold lineStarts
  rw [List.length_cons, length_lineStartsFrom]

variable {before line rest : Text}

/-- The table has the start of a line under its number. -/
theorem getElem?_lineStarts (hline : '\n' ∉ line)
    (hbefore : before = [] ∨ before.getLast? = some '\n') :
    (lineStarts (before ++ line ++ rest))[(before ++ line).count '\n']? = some before.length := by
  have hlast := getLast?_lineStarts hline hbefore
  have hlen := length_lineStarts (before ++ line)
  rw [List.getLast?_eq_getElem?, hlen, Nat.add_sub_cancel] at hlast
  rw [lineStarts_append, List.getElem?_append_left (by omega)]
  exact hlast

theorem lineBegins_of_split (hline : '\n' ∉ line)
    (hbefore : before = [] ∨ before.getLast? = some '\n') :
    LineBegins (before ++ line ++ rest) ((before ++ line).count '\n' + 1) before.length := by
  have htake : (before ++ line ++ rest).take before.length = before := by
    rw [List.append_assoc, List.take_left]
  refine ⟨by simp, ?_, ?_⟩
  · rw [htake, List.count_append, List.count_eq_zero.mpr hline]
  · rw [htake]
    exact hbefore.imp_left fun hnil => by rw [hnil]; rfl

/-- Without carriage returns a line is shown whole. -/
theorem dropWhile_cr {u : Text} (h : '\r' ∉ u) :
    (u.reverse.dropWhile (· = '\r')).reverse = u := by
  have hnone : u.reverse.dropWhile (· = '\r') = u.reverse := by
    rw [List.dropWhile_eq_self_iff]
    intro hpos hcr
    apply h
    rw [← List.mem_reverse, ← of_decide_eq_true hcr]
    exact List.getElem_mem hpos
  rw [hnone, List.reverse_reverse]

/-- The line that an offset stands in is the text between the line feeds around it. -/
theorem lineText_of_split {s : Source} (htext : s.text = before ++ line ++ rest)
    (hcr : '\r' ∉ s.text) (hline : '\n' ∉ line)
    (hbefore : before = [] ∨ before.getLast? = some '\n') :
    s.lineText ((before ++ line).count '\n' + 1) = line ++ rest.takeWhile (· ≠ '\n') := by
  have hall : ∀ c ∈ line, decide (c ≠ '\n') = true := by
    intro c hc
    exact decide_eq_true fun hfeed => hline (hfeed ▸ hc)
  have hshown : '\r' ∉ line ++ rest.takeWhile (· ≠ '\n') := by
    intro hmem
    apply hcr
    rw [htext, List.mem_append, List.mem_append]
    rcases List.mem_append.mp hmem with hmem | hmem
    · exact .inl (.inr hmem)
    · exact .inr ((List.takeWhile_prefix _).subset hmem)
  unfold lineText
  dsimp only
  rw [htext, Nat.add_sub_cancel, getElem?_lineStarts hline hbefore, Option.getD_some,
    List.append_assoc, List.drop_left, List.takeWhile_append_of_pos hall]
  exact dropWhile_cr hshown

/-! ### Offsets outside the text -/

theorem clamp_le (t : Text) (offset : Int) : clamp t offset ≤ t.length := Nat.min_le_right _ _

theorem clamp_eq (t : Text) (offset : Int) :
    (clamp t offset : Int) = max 0 (min offset t.length) := by
  unfold clamp
  omega

/-- An offset outside the text has the place that it is moved to. -/
theorem locate_clamp (s : Source) (offset : Int) :
    s.locate (clamp s.text offset) = s.locate offset := by
  have hsame : clamp s.text (clamp s.text offset) = clamp s.text offset := by
    unfold clamp
    omega
  unfold locate
  rw [hsame]

end Source

/-! ### Places -/

namespace Location

/-- The offset of a line and a column: the start of the line, and the column from there. -/
def offset? (t : Text) (l : Location) : Option Nat :=
  (Source.lineStarts t)[l.line - 1]?.map (· + (l.column - 1))

/-- A place comes before another one for a reader who goes line by line. -/
def Before (l l' : Location) : Prop := l.line < l'.line ∨ l.line = l'.line ∧ l.column < l'.column

/-- A line that is shown with a place is the line of the offset `o`. -/
structure ShownIn (t : Text) (o : Nat) (l : Location) (shown : Text) : Prop where
  one_line : '\n' ∉ shown
  reaches : l.column - 1 ≤ shown.length
  /-- At the end of a line, and of the text, there is nothing under the column. -/
  character : ∀ c, t[o]? = some c → c ≠ '\n' → shown[l.column - 1]? = some c

/-- What the place of offset `o` of a source tells. -/
structure Exact (s : Source) (o : Nat) (l : Location) : Prop where
  of : Location.Of s.text o l
  byte : l.byte = (Text.toUtf8 (s.text.take o)).length
  begins : ∃ b, LineBegins s.text l.line b ∧ b + (l.column - 1) = o
  offset : l.offset? s.text = some o
  excerpt : '\r' ∉ s.text → l.ShownIn s.text o (s.lineText l.line)

variable {s : Source} {o o' : Nat} {l l' : Location}

theorem Of.toExact (ho : o ≤ s.text.length) (h : Location.Of s.text o l) : l.Exact s o := by
  obtain ⟨before, line, hsplit, hline, hbefore, hcolumn⟩ := h.column
  have htext : s.text = before ++ line ++ s.text.drop o := by
    rw [← hsplit, List.take_append_drop]
  have hlen : before.length + line.length = o := by
    rw [← List.length_append, ← hsplit, List.length_take_of_le ho]
  have hnumber : l.line = (before ++ line).count '\n' + 1 := by rw [h.line, hsplit]
  have hback : l.column - 1 = line.length := by omega
  refine ⟨h, ?_, ?_, ?_, ?_⟩
  · rw [Text.length_toUtf8]
    exact h.byte
  · -- The line begins where `before` ends.
    refine ⟨before.length, ?_, by omega⟩
    rw [hnumber, htext]
    exact Source.lineBegins_of_split hline hbefore
  · unfold offset?
    rw [hnumber, Nat.add_sub_cancel, htext, Source.getElem?_lineStarts hline hbefore, hback]
    exact congrArg some hlen
  · -- Without carriage returns the text of the line is cut off at its line feed only.
    intro hcr
    rw [hnumber, Source.lineText_of_split htext hcr hline hbefore]
    refine ⟨?_, ?_, ?_⟩
    · intro hmem
      rcases List.mem_append.mp hmem with hmem | hmem
      · exact hline hmem
      · have hpass := List.mem_takeWhile_imp hmem
        simp at hpass
    · rw [hback, List.length_append]
      exact Nat.le_add_right _ _
    · intro c hc hfeed
      obtain ⟨rest, hrest⟩ : ∃ rest, s.text.drop o = c :: rest := by
        rw [← List.head?_drop] at hc
        exact List.head?_eq_some_iff.mp hc
      rw [hback, hrest, List.takeWhile_cons_of_pos (by simpa using hfeed),
        List.getElem?_append_right (Nat.le_refl _), Nat.sub_self]
      rfl

/-- A later offset is at a later place. -/
theorem Exact.later (h : l.Exact s o) (h' : l'.Exact s o') (hlt : o < o')
    (ho' : o' ≤ s.text.length) : l.byte < l'.byte ∧ l.Before l' := by
  obtain ⟨between, hne, htake⟩ := Text.exists_take_append hlt ho'
  constructor
  · have hpos := Text.utf8Size_pos hne
    rw [h.of.byte, h'.of.byte, htake, Text.utf8Size_append]
    omega
  · have hle : l.line ≤ l'.line := by
      rw [h.of.line, h'.of.line, htake, List.count_append]
      omega
    rcases Nat.lt_or_eq_of_le hle with hlines | hlines
    · exact .inl hlines
    · -- In one line both offsets are counted from the same start.
      refine .inr ⟨hlines, ?_⟩
      have hoffset := h.offset
      have hoffset' := h'.offset
      unfold offset? at hoffset hoffset'
      rw [← hlines] at hoffset'
      obtain ⟨b, hb, hcolumn⟩ := Option.map_eq_some_iff.mp hoffset
      obtain ⟨b', hb', hcolumn'⟩ := Option.map_eq_some_iff.mp hoffset'
      obtain rfl := Option.some.inj (hb.symm.trans hb')
      omega

end Location

namespace Source

/-- Every offset, moved into the text if it lies outside, has a place that tells it exactly, and
later offsets have later places. -/
theorem locate_exact (s : Source) (offset : Int) :
    (clamp s.text offset : Int) = max 0 (min offset s.text.length) ∧
      (s.locate offset).Exact s (clamp s.text offset) ∧
      ∀ later : Int, clamp s.text offset < clamp s.text later →
        (s.locate offset).byte < (s.locate later).byte ∧
          (s.locate offset).Before (s.locate later) := by
  have hexact (i : Int) : (s.locate i).Exact s (clamp s.text i) := by
    have hle := clamp_le s.text i
    rw [← locate_clamp]
    exact (locate_of s hle).toExact hle
  refine ⟨clamp_eq s.text offset, hexact offset, ?_⟩
  intro later hlt
  exact (hexact offset).later (hexact later) hlt (clamp_le s.text later)

/-- Two lines, the first of which has a letter of two bytes. -/
def accented : Source := ⟨['t'], ['é', '\n', 'b']⟩

/-- The letter of the second line is at its first column, and an offset past the end of the text
has the column behind it. -/
theorem locate_exact_past_end :
    '\r' ∉ accented.text ∧ clamp accented.text 2 < clamp accented.text 7 ∧
      accented.locate 2 = ⟨3, 2, 1⟩ ∧ (accented.locate 2).ShownIn accented.text 2 ['b'] ∧
      (accented.locate 2).Before (accented.locate 7) := by
  obtain ⟨_, hexact, hlater⟩ := locate_exact accented 2
  have hcr : '\r' ∉ accented.text := by decide
  have hlt : clamp accented.text 2 < clamp accented.text 7 := by decide
  exact ⟨hcr, hlt, by decide, hexact.excerpt hcr, (hlater 7 hlt).2⟩

end Source
end Stencil
