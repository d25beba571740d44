import Stencil.Text.Line

/-! # Laying out lines of code

  Code is laid out anew by cutting off its first line, by trimming, and by moving the other lines
  to their common margin. None of this loses anything but blanks:

  - the first line and the rest make up the code, and the trimmed line makes up the line with blanks
    around it;
  - `dedent` drops as many characters of each line as the lines have in common at their start, and
    these are spaces and tabs, so that a line is what it becomes, with blanks in front
    (`dedent_spec`);
  - a text without its outer line feeds makes up the text with blanks around it
    (`stripNewlines_spec`).
-/

namespace Stencil.Text

/-! ### The first line -/

/-- The part before the first separator has none in it. -/
theorem not_mem_cut_fst (sep : Char) (t : Text) : sep ∉ (cut sep t).1 := by
  induction t with
  | nil => exact List.not_mem_nil
  | cons c t ih =>
    rw [cut]
    split
    · exact List.not_mem_nil
    · next hc =>
      intro h
      rcases List.mem_cons.mp h with rfl | h
      · exact hc rfl
      · exact ih h

/-- A text is cut at its first separator. -/
theorem cut_append {sep : Char} {line : Text} (h : sep ∉ line) (rest : Text) :
    cut sep (line ++ sep :: rest) = (line, some rest) := by
  induction line with
  | nil =>
    rw [List.nil_append, cut, if_pos rfl]
  | cons c line ih =>
    have hc : c ≠ sep := by
      rintro rfl
      exact h List.mem_cons_self
    rw [List.cons_append, cut, if_neg hc, ih fun hmem => h (List.mem_cons_of_mem c hmem)]

/-- The first line of a text is the only one before a separator. -/
theorem eq_of_append_sep {sep : Char} {line line' rest rest' : Text} (h : sep ∉ line)
    (h' : sep ∉ line') (heq : line ++ sep :: rest = line' ++ sep :: rest') :
    line = line' ∧ rest = rest' := by
  have hcut := cut_append h rest
  rw [heq, cut_append h' rest'] at hcut
  obtain ⟨hline, hrest⟩ := Prod.mk.inj hcut
  exact ⟨hline.symm, (Option.some.inj hrest).symm⟩

/-! ### Trimmed text -/

/-- Trimming at the end takes off blanks, and leaves none at the end. -/
theorem trimRight_spec (t : Text) : ∃ w, t = trimRight t ++ w ∧ w.all isBlank = true ∧
    ∀ c ∈ (trimRight t).getLast?, isBlank c = false := by
  induction t with
  | nil => exact ⟨[], rfl, rfl, fun c hc => absurd hc (by simp [trimRight])⟩
  | cons c t ih =>
    obtain ⟨w, ht, hw, hlast⟩ := ih
    rw [trimRight]
    split
    · next hnil =>
      -- All that follows is blank, so that this character decides.
      rw [hnil, List.nil_append] at ht
      split
      · next hc =>
        refine ⟨c :: w, by rw [ht]; rfl, ?_, fun x hx => absurd hx (by simp)⟩
        rw [List.all_cons, hc, hw]
        rfl
      · next hc =>
        refine ⟨w, by rw [ht]; rfl, hw, ?_⟩
        intro x hx
        obtain rfl := Option.some.inj hx
        exact Bool.not_eq_true _ ▸ hc
    · next d r hcons =>
      rw [hcons] at ht hlast
      refine ⟨w, by rw [ht]; rfl, hw, ?_⟩
      intro x hx
      exact hlast x hx

/-- A text with no blanks at its ends. -/
structure Trimmed (t : Text) : Prop where
  head : ∀ c ∈ t.head?, isBlank c = false
  last : ∀ c ∈ t.getLast?, isBlank c = false

/-- A text is its trimmed form with blanks around it, and `indent` counts those in front. -/
theorem trim_spec (t : Text) : ∃ b w, t = b ++ (trim t ++ w) ∧ b.all isBlank = true ∧
    w.all isBlank = true ∧ Trimmed (trim t) ∧ b.length = indent t := by
  obtain ⟨w, ht, hw, hlast⟩ := trimRight_spec (trimLeft t)
  refine ⟨t.takeWhile isBlank, w, ?_, List.all_takeWhile, hw, ⟨fun c hc => ?_, hlast⟩, rfl⟩
  · unfold trim
    rw [← ht]
    exact List.takeWhile_append_dropWhile.symm
  · -- What is left begins where the blanks in front stop.
    have hhead : (trimLeft t).head? = some c := by
      rw [ht, List.head?_append, show (trimLeft t).trimRight.head? = some c from hc]
      rfl
    have hstop := List.head?_dropWhile_not isBlank t
    unfold trimLeft at hhead
    rw [hhead] at hstop
    exact hstop

/-- Trimmed text stands behind the blanks in front of it. -/
theorem slice_indent (t : Text) :
    t.indent + t.trim.length ≤ t.length ∧ t.slice t.indent (t.indent + t.trim.length) = t.trim := by
  obtain ⟨b, w, hsplit, _, _, _, hindent⟩ := trim_spec t
  rw [← hindent]
  generalize t.trim = u at hsplit ⊢
  rw [hsplit]
  constructor
  · simp only [List.length_append]
    omega
  · unfold slice
    rw [List.drop_left, Nat.add_sub_cancel_left, List.take_left]

theorem getElem?_slice {t : Text} {a b k : Nat} (h : k < b - a) :
    (t.slice a b)[k]? = t[a + k]? := by
  rw [slice, List.getElem?_take_of_lt h, List.getElem?_drop]

/-- A slice of a slice is a slice. -/
theorem slice_slice {t : Text} {a b i j : Nat} (h : j ≤ (t.slice a b).length) :
    (t.slice a b).slice i j = t.slice (a + i) (a + j) := by
  unfold slice at *
  rw [List.length_take] at h
  rw [List.drop_take, List.take_take, List.drop_drop]
  congr 1
  omega

/-- A text that is not blank is not trimmed away. -/
theorem trim_ne_nil {u : Text} (h : ¬ u.all isBlank = true) : trim u ≠ [] := by
  obtain ⟨b, w, hu, hb, hw, _⟩ := trim_spec u
  intro hnil
  apply h
  rw [hu, hnil, List.nil_append, List.all_append, hb, hw]
  rfl

/-- A text that is not trimmed away ends, but for blanks, where its trimmed form does. -/
theorem trim_last {t : Text} (h : trim t ≠ []) : ∃ b w, t = (b ++ trim t) ++ w ∧
    b.all isBlank = true ∧ w.all isBlank = true ∧
    ∀ c ∈ (b ++ trim t).getLast?, isBlank c = false := by
  obtain ⟨b, w, ht, hb, hw, htrimmed, _⟩ := trim_spec t
  refine ⟨b, w, by rwa [List.append_assoc], hb, hw, fun c hc => ?_⟩
  apply htrimmed.last c
  rwa [List.getLast?_append, List.getLast?_eq_some_getLast h, Option.some_or,
    ← List.getLast?_eq_some_getLast h] at hc

/-- The slice up to the end is what comes after its start. -/
theorem slice_to_length (t : Text) (a : Nat) : slice t a t.length = t.drop a := by
  unfold slice
  exact List.take_of_length_le (Nat.le_of_eq List.length_drop)

/-- What comes after an offset is split at a character of it. -/
theorem drop_eq_slice_append {t : Text} {a i : Nat} {x : Char} (ha : a ≤ i) (hx : t[i]? = some x) :
    t.drop a = t.slice a i ++ x :: t.drop (i + 1) ∧ (t.slice a i).length = i - a := by
  obtain ⟨hi, hx⟩ := List.getElem?_eq_some_iff.mp hx
  have hrest : (t.drop a).drop (i - a) = x :: t.drop (i + 1) := by
    rw [List.drop_drop, Nat.add_sub_cancel' ha, List.drop_eq_getElem_cons hi, hx]
  constructor
  · rw [← hrest]
    exact (List.take_append_drop (i - a) (t.drop a)).symm
  · unfold slice
    rw [List.length_take, List.length_drop]
    omega

/-- A text is told from the blanks after it if it does not end with a blank. -/
theorem append_blanks_inj {r r' w w' : Text} (hw : w.all isBlank = true)
    (hw' : w'.all isBlank = true) (hlast : ∀ c ∈ r.getLast?, isBlank c = false)
    (hlast' : ∀ c ∈ r'.getLast?, isBlank c = false) (h : r ++ w = r' ++ w') :
    r = r' ∧ w = w' := by
  -- One of the two texts goes on as far as the other or further, with blanks alone.
  have longer {r r' w w' x : Text} (hlast : ∀ c ∈ r.getLast?, isBlank c = false)
      (hw' : w'.all isBlank = true) (hr : r = r' ++ x) (hx : w' = x ++ w) : r = r' ∧ w = w' := by
    rcases List.eq_nil_or_concat x with rfl | ⟨y, c, rfl⟩
    · exact ⟨by rw [hr, List.append_nil], hx.symm⟩
    · exfalso
      have hc := hlast c (by rw [hr]; simp)
      have hblank := List.all_eq_true.mp hw' c (by rw [hx]; simp)
      rw [hc] at hblank
      exact absurd hblank (by decide)
  rcases List.append_eq_append_iff.mp h with ⟨x, hr', hx⟩ | ⟨x, hr, hx⟩
  · obtain ⟨h₁, h₂⟩ := longer hlast' hw hr' hx
    exact ⟨h₁.symm, h₂.symm⟩
  · exact longer hlast hw' hr hx

/-! ### Blanks of a text in pieces -/

/-- A text is blank if and only if its lines are. -/
theorem all_blank_join_iff {lines : List Text} :
    (join ['\n'] lines).all isBlank = true ↔ ∀ line ∈ lines, line.all isBlank = true := by
  induction lines with
  | nil => exact ⟨fun _ _ h => absurd h List.not_mem_nil, fun _ => rfl⟩
  | cons line lines ih =>
    rw [List.forall_mem_cons, ← ih]
    cases lines with
    | nil => exact ⟨fun h => ⟨h, rfl⟩, fun h => h.1⟩
    | cons next lines =>
      have hfeed : ['\n'].all isBlank = true := by decide
      rw [join_cons_cons, List.all_append, List.all_append, hfeed, Bool.and_true,
        Bool.and_eq_true]

/-! ### The common margin -/

theorem isBlank_of_isMarginChar {c : Char} (h : isMarginChar c = true) : isBlank c = true := by
  rw [isMarginChar, Bool.or_eq_true, decide_eq_true_iff, decide_eq_true_iff] at h
  rcases h with rfl | rfl <;> decide

theorem length_commonStart_le (s t : Text) :
    (commonStart s t).length ≤ s.length ∧ (commonStart s t).length ≤ t.length := by
  induction s generalizing t with
  | nil => simp [commonStart]
  | cons a s ih =>
    cases t with
    | nil => simp [commonStart]
    | cons b t =>
      have := ih t
      rw [commonStart]
      split
      · simp only [List.length_cons]
        omega
      · simp

/-- What one more line leaves of a shared margin. -/
def shareMargin (shared : Option Text) (line : Text) : Option Text :=
  let own := line.takeWhile isMarginChar
  some (shared.elim own (commonStart · own))

theorem margin?_eq (lines : List Text) :
    margin? lines = (lines.filter (!·.isEmpty)).foldl shareMargin none := rfl

/-- Sharing a margin with more lines makes it no longer, and no longer than that of any of them. -/
theorem shareMargin_foldl_le (lines : List Text) (shared : Option Text) :
    (∀ m ∈ shared, ∃ m', lines.foldl shareMargin shared = some m' ∧ m'.length ≤ m.length) ∧
      ∀ line ∈ lines, ∃ m', lines.foldl shareMargin shared = some m' ∧
        m'.length ≤ (line.takeWhile isMarginChar).length := by
  induction lines generalizing shared with
  | nil => exact ⟨fun m hm => ⟨m, hm, Nat.le_refl _⟩, fun _ h => absurd h List.not_mem_nil⟩
  | cons first lines ih =>
    rw [List.foldl_cons]
    obtain ⟨hshared, hlines⟩ := ih (shareMargin shared first)
    obtain ⟨m', hm', hle⟩ := hshared _ rfl
    refine ⟨?_, ?_⟩
    · -- The margin that was shared before.
      intro m hm
      refine ⟨m', hm', Nat.le_trans hle ?_⟩
      obtain rfl := hm
      exact (length_commonStart_le m _).1
    · -- The margin of a line: of the next one, or of one further on.
      intro line hline
      rcases List.mem_cons.mp hline with rfl | hline
      · refine ⟨m', hm', Nat.le_trans hle ?_⟩
        cases shared with
        | none => exact Nat.le_refl _
        | some m => exact (length_commonStart_le m _).2
      · exact hlines line hline

/-- The margin of some lines is no longer than the blanks at the start of any that has content. -/
theorem length_margin_le {lines : List Text} {line : Text} (h : line ∈ lines) (hne : line ≠ []) :
    ((margin? lines).getD []).length ≤ (line.takeWhile isMarginChar).length := by
  have hmem : line ∈ lines.filter (!·.isEmpty) := by
    rw [List.mem_filter]
    exact ⟨h, by simpa using hne⟩
  obtain ⟨m, hm, hle⟩ := (shareMargin_foldl_le (lines.filter (!·.isEmpty)) none).2 line hmem
  rw [margin?_eq, hm]
  exact hle

/-- The margin that a line loses is blank. A line of spaces and tabs loses all it has. -/
theorem exists_blanks_margin {lines : List Text} {line : Text} (h : line ∈ lines) :
    ∃ b, b.all isBlank = true ∧ line = b ++ (blankToEmpty line).drop
      ((margin? (lines.map blankToEmpty)).getD []).length := by
  have of_margin {b : Text} (hb : ∀ c ∈ b, isMarginChar c = true) : b.all isBlank = true :=
    List.all_eq_true.mpr fun c hc => isBlank_of_isMarginChar (hb c hc)
  by_cases hblank : line.all isMarginChar = true
  · have hempty : blankToEmpty line = [] := if_pos hblank
    rw [hempty, List.drop_nil]
    exact ⟨line, of_margin (List.all_eq_true.mp hblank), (List.append_nil line).symm⟩
  · have hsame : blankToEmpty line = line := if_neg hblank
    have hne : blankToEmpty line ≠ [] := by
      rw [hsame]
      rintro rfl
      exact hblank rfl
    have hwidth := length_margin_le (List.mem_map_of_mem h) hne
    rw [hsame] at hwidth ⊢
    refine ⟨_, of_margin fun c hc => ?_, (List.take_append_drop _ line).symm⟩
    -- What is taken of the line is part of the margin characters that it begins with.
    rw [← List.takeWhile_append_dropWhile (p := isMarginChar) (l := line),
      List.take_append_of_le_length hwidth] at hc
    exact List.all_eq_true.mp List.all_takeWhile c (List.mem_of_mem_take hc)

/-- A text at its margin is made of its lines without some blanks in front. -/
theorem dedent_spec (t : Text) :
    ∃ f : Text → Text, t.dedent = join ['\n'] ((splitAt '\n' t).map f) ∧
      ∀ line ∈ splitAt '\n' t, ∃ b, b.all isBlank = true ∧ line = b ++ f line := by
  refine ⟨fun line => (blankToEmpty line).drop
    ((margin? ((splitAt '\n' t).map blankToEmpty)).getD []).length, ?_, ?_⟩
  · rw [dedent, List.map_map]
    rfl
  · intro line hline
    exact exists_blanks_margin hline

/-- A text is as blank at its margin as it is where it stands. -/
theorem all_blank_dedent_iff {t : Text} :
    t.dedent.all isBlank = true ↔ t.all isBlank = true := by
  obtain ⟨f, hdedent, hlines⟩ := dedent_spec t
  rw [hdedent]
  conv => rhs; rw [← join_splitAt '\n' t]
  rw [all_blank_join_iff, all_blank_join_iff, List.forall_mem_map]
  refine forall_congr' fun line => forall_congr' fun h => ?_
  obtain ⟨b, hb, hline⟩ := hlines line h
  conv => rhs; rw [hline, List.all_append, hb, Bool.true_and]

/-! ### Outer line feeds -/

/-- A text is what is left of it without the line feeds at either end, with blanks around it. -/
theorem stripNewlines_spec (t : Text) : ∃ u w, t = u ++ (t.stripNewlines ++ w) ∧
    u.all isBlank = true ∧ w.all isBlank = true := by
  have hfeeds {s : Text} : (s.takeWhile (· = '\n')).all isBlank = true := by
    refine List.all_eq_true.mpr fun c hc => ?_
    have := List.all_eq_true.mp (List.all_takeWhile (p := (· = '\n'))) c hc
    rw [of_decide_eq_true this]
    decide
  refine ⟨t.takeWhile (· = '\n'),
    ((t.dropWhile (· = '\n')).reverse.takeWhile (· = '\n')).reverse, ?_, hfeeds, ?_⟩
  · rw [stripNewlines, ← List.reverse_append, List.takeWhile_append_dropWhile, List.reverse_reverse,
      List.takeWhile_append_dropWhile]
  · rw [List.all_reverse]
    exact hfeeds

/-- A text is as blank without its outer line feeds as with them. -/
theorem all_blank_stripNewlines_iff {t : Text} :
    t.stripNewlines.all isBlank = true ↔ t.all isBlank = true := by
  obtain ⟨u, w, ht, hu, hw⟩ := stripNewlines_spec t
  conv => rhs; rw [ht]
  rw [List.all_append, List.all_append, hu, hw, Bool.true_and, Bool.and_true]

theorem all_blank_dedent_stripNewlines (t : Text) :
    t.dedent.stripNewlines.all isBlank = t.all isBlank := by
  rw [Bool.eq_iff_iff, all_blank_stripNewlines_iff, all_blank_dedent_iff]

end Stencil.Text
