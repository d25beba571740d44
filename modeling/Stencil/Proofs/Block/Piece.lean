import Stencil.Proofs.Block.Cut

/-! # Pieces of a code block

  Names are looked for in pieces of a block: in each of its statements, and in its expression. Each
  piece is lexed again on its own, and `PieceAt` says how that compares to the block it is cut from,
  in which the pieces have been lexed in one go:

  - what the block hides in tokens the piece hides as well, and it may hide more. A piece without the
    comments of the block may read a mark of Python code as a comment where the block has none;
  - what the block shows outside tokens stands in the piece;
  - no word of the block goes over an edge of the piece.

  So a word that the piece shows has the same neighbours in the block (`PieceAt.plainAt_succ`,
  `PieceAt.plainAt_pred`).

  A statement goes from one terminator to the next, and has the marks of the block. The expression
  is what is shown of the tail between blanks (`Tail.Cut.exists_between`).
-/

namespace Stencil

variable {d : Dialect} {base : Int} {t e : Text} {ms es : List Mark}

/-- The text `e`, which has the marks `es` alone, is a piece of the text `t` with the marks `ms`, at
offset `o` of it. -/
structure PieceAt (d : Dialect) (t : Text) (ms : List Mark) (o : Nat) (e : Text)
    (es : List Mark) : Prop where
  lexed : Lexed d none e es
  hides : Hides (t.drop o) (ms.drop o) e es
  shows : ∀ k c, k < e.length → PlainAt t ms c (o + k) → e[k]? = some c
  /-- In front of the piece no word ends. -/
  front : ∀ i c, o = i + 1 → PlainAt t ms c i → isWordChar c = false
  /-- Behind the piece no word begins, or the piece does not end in one. -/
  back : ∀ c, PlainAt t ms c (o + e.length) → isWordChar c = true →
    ∀ z ∈ e.getLast?, isWordChar z = false

/-! ### Words -/

theorem not_blank_of_word {c : Char} (h : isWordChar c = true) : isBlank c = false := by
  rw [← Bool.not_eq_true]
  intro hblank
  rw [Dialect.isWordChar_of_isBlank hblank] at h
  cases h

namespace PieceAt

variable {o k : Nat} {y z : Char}

/-- The words of a piece stand outside the tokens of the text, too. -/
theorem plainAt_of_word (h : PieceAt d t ms o e es) (hy : PlainAt e es y k)
    (hword : isWordChar y = true) : PlainAt t ms y (o + k) :=
  plainAt_drop_iff.mp (h.hides k y hy (not_blank_of_word hword))

section builtin
variable (hd : d = Dialect.rust ∨ d = Dialect.python) (hlexed : Lexed d none t ms)
  (h : PieceAt d t ms o e es)
include hd hlexed h

/-- Where a word of the text goes on behind a piece of it, it goes on in that piece. -/
theorem plainAt_succ (hy : PlainAt e es y k) (hyword : isWordChar y = true)
    (hz : t[o + k + 1]? = some z) (hzword : isWordChar z = true) : PlainAt e es z (k + 1) := by
  have hyt := h.plainAt_of_word hy hyword
  have hzt := (hlexed.plainAt_succ_iff hd hyt.1 hyword hz hzword).mp hyt
  have hk := (List.getElem?_eq_some_iff.mp hy.1).1
  by_cases hend : k + 1 < e.length
  · have hshown := h.shows (k + 1) z hend hzt
    exact (h.lexed.plainAt_succ_iff hd hy.1 hyword hshown hzword).mp hy
  · have hlast : y ∈ e.getLast? := by
      rw [List.getLast?_eq_getElem?, show e.length - 1 = k by omega]
      exact hy.1
    have hedge : o + k + 1 = o + e.length := by omega
    rw [hedge] at hzt
    rw [h.back z hzt hzword y hlast] at hyword
    cases hyword

/-- Where a word of the text begins in front of a character of a piece, it does so in that piece. -/
theorem plainAt_pred {i : Nat} (hi : o + k = i + 1) (hy : t[i]? = some y)
    (hyword : isWordChar y = true) (hz : PlainAt e es z k) (hzword : isWordChar z = true) :
    ∃ j, k = j + 1 ∧ PlainAt e es y j := by
  have hzt := h.plainAt_of_word hz hzword
  rw [hi] at hzt
  have hyt := (hlexed.plainAt_succ_iff hd hy hyword hzt.1 hzword).mpr hzt
  have hk := (List.getElem?_eq_some_iff.mp hz.1).1
  cases k with
  | zero =>
    rw [h.front i y hi hyt] at hyword
    cases hyword
  | succ j =>
    obtain rfl : i = o + j := by omega
    have hshown := h.shows j y (by omega) hyt
    exact ⟨j, rfl, (h.lexed.plainAt_succ_iff hd hshown hyword hz.1 hzword).mpr hz⟩

end builtin
end PieceAt

/-! ### Statements -/

/-- What the slice of a lexed text has at an offset, the text has further on. -/
theorem plainAt_slice_iff {a b k : Nat} {c : Char} :
    PlainAt (t.slice a b) ((ms.drop a).take (b - a)) c k ↔ k < b - a ∧ PlainAt t ms c (a + k) := by
  unfold Text.slice PlainAt
  by_cases hk : k < b - a
  · rw [List.getElem?_take_of_lt hk, List.getElem?_take_of_lt hk, List.getElem?_drop,
      List.getElem?_drop]
    exact (and_iff_right hk).symm
  · rw [List.getElem?_eq_none (by rw [List.length_take]; omega)]
    exact iff_of_false (fun h => absurd h.1 (by simp)) fun h => hk h.1

/-- A slice that is cut behind a character ends with it. -/
theorem eq_of_mem_getLast?_slice {a i : Nat} {x z : Char} (hx : t[i]? = some x)
    (hz : z ∈ (t.slice a (i + 1)).getLast?) : z = x := by
  have hi := (List.getElem?_eq_some_iff.mp hx).1
  by_cases hai : a ≤ i
  · have hlen : (t.slice a (i + 1)).length = i + 1 - a := by
      unfold Text.slice
      rw [List.length_take, List.length_drop]
      omega
    rw [List.getLast?_eq_getElem?, hlen, Text.getElem?_slice (by omega),
      show a + (i + 1 - a - 1) = i by omega, hx] at hz
    exact (Option.some.inj hz).symm
  · rw [Text.slice, Nat.sub_eq_zero_of_le (by omega), List.take_zero] at hz
    cases hz

namespace Block

variable {b : Block}

/-- A text between terminators is a piece. -/
theorem pieceAt_slice (hd : d = Dialect.rust ∨ d = Dialect.python) (h : marks d t = .ok ms)
    {a z : Nat} (ha : a = 0 ∨ ∃ i, a = i + 1 ∧ PlainAt t ms ';' i)
    (hz : z = 0 ∨ ∃ i, z = i + 1 ∧ PlainAt t ms ';' i) :
    PieceAt d t ms a (t.slice a z) ((ms.drop a).take (z - a)) where
  lexed := by
    have hinert : d.Inert ';' := Dialect.inert_of_builtin hd ⟨by decide, by decide⟩ (by decide)
    rcases hz with rfl | hz
    · rw [Text.slice, Nat.zero_sub, List.take_zero, List.take_zero]
      exact .nil
    · exact (marks_ok_iff.mp h).slice (Dialect.apart_of_builtin hd).toRegular hinert (by decide)
        neutral_semicolon ha (.inr hz)
  hides k c hc _ := plainAt_drop_iff.mpr (plainAt_slice_iff.mp hc).2
  shows k c hk hc := by
    have hlt := Nat.lt_of_lt_of_le hk (Text.length_slice_le t a z)
    exact (plainAt_slice_iff.mpr ⟨hlt, hc⟩).1
  front i c hi hc := by
    rcases ha with rfl | ⟨j, rfl, hsemicolon⟩
    · omega
    · obtain rfl := Nat.succ.inj hi
      obtain rfl := Option.some.inj (hsemicolon.1.symm.trans hc.1)
      decide
  back _ _ _ y hy := by
    rcases hz with rfl | ⟨i, rfl, hsemicolon⟩
    · rw [Text.slice, Nat.zero_sub, List.take_zero] at hy
      cases hy
    · obtain rfl := eq_of_mem_getLast?_slice hsemicolon.1 hy
      decide

/-- The statements of a block are what comes before its tail: with a terminator at their end they are
not dropped as blank. -/
theorem statements_eq_take (hd : d = Dialect.rust ∨ d = Dialect.python)
    (h : read d base t = .ok b) (hms : marks d t = .ok ms) :
    b.statements = t.take (tailStart d (maskWith Mark.isOpaque t ms)) := by
  have hcolons : ∀ i : Nat, (maskWith Mark.isOpaque t ms)[i]? = some ':' →
      (maskWith Mark.isComment t ms)[i]? = some ':' := fun i hi =>
    shown_of_plainAt (plainAt_of_masked hi (by decide))
  rw [read_of_marks hms] at h
  rcases ofMasks_ok hcolons rfl h with ⟨_, rfl⟩ | ⟨_, tail, rfl, _⟩
  · dsimp only
    split
    · next hblank =>
      rcases plainAt_tailStart hd t ms with hzero | ⟨i, hsucc, hsemicolon⟩
      · rw [hzero, List.take_zero]
      · rw [hsucc, List.take_add_one, hsemicolon.1, List.all_append, Bool.and_eq_true] at hblank
        exact absurd hblank.2 (by decide)
    · rfl
  · rfl

/-- The statements of a block go up to a terminator. -/
theorem statements_eq_slice (hd : d = Dialect.rust ∨ d = Dialect.python)
    (h : read d base t = .ok b) (hms : marks d t = .ok ms) :
    ∃ stop, b.statements = t.slice 0 stop ∧ b.statements.length = stop ∧
      (stop = 0 ∨ ∃ i, stop = i + 1 ∧ PlainAt t ms ';' i) := by
  have htake := statements_eq_take hd h hms
  rcases plainAt_tailStart hd t ms with hzero | ⟨i, hsucc, hplain⟩
  · rw [hzero] at htake
    exact ⟨0, htake, by rw [htake]; rfl, .inl rfl⟩
  · rw [hsucc] at htake
    have hlt := (List.getElem?_eq_some_iff.mp hplain.1).1
    exact ⟨i + 1, htake, by rw [htake, List.length_take]; omega, .inr ⟨i, rfl, hplain⟩⟩

/-- Every statement of a block is a piece of it. -/
theorem pieceAt_of_span (hd : d = Dialect.rust ∨ d = Dialect.python) (h : read d base t = .ok b)
    (hms : marks d t = .ok ms) {spans : List (Nat × Nat)}
    (hspans : statementSpans d b.statements = .ok spans) {a z : Nat} (hspan : (a, z) ∈ spans) :
    z ≤ b.statements.length ∧ ∃ es, PieceAt d t ms a (b.statements.slice a z) es := by
  obtain ⟨stop, hslice, hlength, hstop⟩ := statements_eq_slice hd h hms
  -- The statements have the marks of the block, and so the same terminators.
  have hmarks := marks_ok_iff.mpr (pieceAt_slice hd hms (.inl rfl) hstop).lexed
  obtain ⟨masked, hmasked, hspans⟩ := Outcome.bind_ok_iff.mp hspans
  obtain rfl := Except.ok.inj hspans
  obtain ⟨ms', hms', rfl⟩ := Outcome.map_ok_iff.mp hmasked
  rw [hslice] at hms'
  obtain rfl := Except.ok.inj (hmarks.symm.trans hms')
  have terminator {i : Nat} (hi : i ∈ terminators d (maskWith Mark.isOpaque b.statements
      ((ms.drop 0).take (stop - 0)))) : i < stop ∧ PlainAt t ms ';' i := by
    rw [hslice] at hi
    have hplain := plainAt_slice_iff.mp (plainAt_semicolon hd hi)
    rwa [Nat.zero_add] at hplain
  obtain ⟨ha, hz⟩ := mem_spansFrom hspan
  have hbegins : a = 0 ∨ ∃ i, a = i + 1 ∧ PlainAt t ms ';' i := by
    rcases ha with ha | ⟨i, hi, ha⟩
    · exact .inl ha
    · exact .inr ⟨i, ha, (terminator hi).2⟩
  obtain ⟨hle, hends⟩ : z ≤ stop ∧ (z = 0 ∨ ∃ i, z = i + 1 ∧ PlainAt t ms ';' i) := by
    rcases hz with hz | ⟨i, hi, rfl⟩
    · obtain rfl := hz.trans hlength
      exact ⟨Nat.le_refl z, hstop⟩
    · exact ⟨(terminator hi).1, .inr ⟨i, rfl, (terminator hi).2⟩⟩
  have hcut : b.statements.slice a z = t.slice a z := by
    rw [hslice, Text.slice_slice (by rw [← hslice, hlength]; exact hle), Nat.zero_add, Nat.zero_add]
  rw [hlength, hcut]
  exact ⟨hle, _, pieceAt_slice hd hms hbegins hends⟩

end Block

/-! ### The expression -/

/-- The expression of a tail is shown between the blanks `b` and `w`, up to a colon or to the end. -/
structure Tail.Between (base : Int) (masked visible : Text) (start : Nat) (tail : Tail)
    (b w : Text) : Prop where
  shown : (visible.drop start).take (b ++ tail.expr ++ w).length = b ++ tail.expr ++ w
  offset : tail.exprOffset = base + (start + b.length : Nat)
  front : b.all isBlank = true
  back : w.all isBlank = true
  trimmed : tail.expr.Trimmed
  ne_nil : tail.expr ≠ []
  ends : start + (b ++ tail.expr ++ w).length = visible.length ∨
    masked[start + (b ++ tail.expr ++ w).length]? = some ':'

theorem Tail.Cut.exists_between {masked visible : Text} {start : Nat} {tail : Tail}
    (h : tail.Cut d base masked visible start) (hstart : start ≤ visible.length) :
    ∃ b w, tail.Between base masked visible start b w := by
  cases h with
  | @bare b expr w hcolon hshown hb hw htrimmed hne =>
    refine ⟨b, w, ?_, rfl, hb, hw, htrimmed, hne, .inl ?_⟩
    · rw [hshown]
      exact List.take_length
    · have hlen := congrArg List.length hshown
      rw [List.length_drop] at hlen
      dsimp only
      omega
  | @specified colon b expr w b' spec w' hcolon hshown hat hb hw hb' hw' htrimmed hne hspec =>
    refine ⟨b, w, ?_, rfl, hb, hw, htrimmed, hne, .inr ?_⟩
    · rw [hshown]
      exact List.take_left
    · have houter := hcolon.outer.1
      rw [List.getElem?_drop, Nat.add_sub_cancel' hcolon.behind, hat] at houter
      exact houter

namespace Tail.Between

variable {masked visible : Text} {start : Nat} {tail : Tail} {b w : Text} {c : Char}

theorem getElem?_eq {k : Nat} (h : tail.Between base masked visible start b w)
    (hk : k < (b ++ tail.expr ++ w).length) :
    visible[start + k]? = (b ++ tail.expr ++ w)[k]? := by
  rw [← h.shown, List.getElem?_take_of_lt hk, List.getElem?_drop]

/-- The blanks in front of the expression. -/
theorem isBlank_front {k : Nat} (h : tail.Between base masked visible start b w)
    (hk : k < b.length) (hc : visible[start + k]? = some c) : isBlank c = true := by
  rw [h.getElem?_eq (by simp only [List.length_append]; omega), List.append_assoc,
    List.getElem?_append_left hk] at hc
  exact List.all_eq_true.mp h.front c (List.mem_of_getElem? hc)

theorem getElem?_expr {k : Nat} (h : tail.Between base masked visible start b w)
    (hk : k < tail.expr.length) : visible[start + b.length + k]? = tail.expr[k]? := by
  rw [Nat.add_assoc, h.getElem?_eq (by simp only [List.length_append]; omega), List.append_assoc,
    List.getElem?_append_right (Nat.le_add_right _ _), Nat.add_sub_cancel_left,
    List.getElem?_append_left hk]

/-- Behind the expression there is a blank, a colon or nothing. -/
theorem behind (h : tail.Between base masked visible start b w)
    (hc : visible[start + b.length + tail.expr.length]? = some c) :
    isBlank c = true ∨ masked[start + b.length + tail.expr.length]? = some ':' := by
  cases hw : w with
  | nil =>
    have hat : start + (b ++ tail.expr ++ w).length = start + b.length + tail.expr.length := by
      simp only [hw, List.length_append, List.length_nil]
      omega
    have hends := h.ends
    rw [hat] at hends
    refine .inr (hends.resolve_left fun hend => ?_)
    rw [List.getElem?_eq_none (by omega)] at hc
    cases hc
  | cons x v =>
    have hk : b.length + tail.expr.length < (b ++ tail.expr ++ w).length := by
      simp only [hw, List.length_append, List.length_cons]
      omega
    rw [Nat.add_assoc, h.getElem?_eq hk, ← List.length_append, List.getElem?_append_right
      (Nat.le_refl _), Nat.sub_self] at hc
    exact .inl (List.all_eq_true.mp h.back c (List.mem_of_getElem? hc))

section lexed
variable
  (h : tail.Between base (maskWith Mark.isOpaque t ms) (maskWith Mark.isComment t ms) start b w)
include h

/-- The expression and the blanks in front of it are code with its comments blanked. -/
theorem blanked (hd : d = Dialect.rust ∨ d = Dialect.python) (hlexed : Lexed d none t ms)
    {before : Option Char} (hdrop : Lexed d before (t.drop start) (ms.drop start)) :
    Blanked d before (t.drop start) (b ++ tail.expr) := by
  have hblank : ∀ b, isBlank b = true → d.Inert b := fun _ => Dialect.inert_of_isBlank hd
  have hcolon : d.Inert ':' := Dialect.inert_of_builtin hd ⟨by decide, by decide⟩ (by decide)
  refine blanked_of_lexed (Dialect.apart_of_builtin hd) hblank hcolon.toIdle hdrop
    (k := (b ++ tail.expr ++ w).length) ?_ ?_ h.back ?_
  · intro m hm
    rw [List.getElem?_drop] at hm ⊢
    rcases h.ends with hend | hcolon
    · have hlength : (maskWith Mark.isComment t ms).length = t.length :=
        length_maskWith _ hlexed.length_eq
      rw [List.getElem?_eq_none (by rw [hlexed.length_eq, ← hlength]; omega)] at hm
      cases hm
    · obtain ⟨ht, hplain⟩ := plainAt_of_masked hcolon (by decide)
      exact ⟨Option.some.inj (hm.symm.trans hplain), ht⟩
  · rw [maskWith_drop]
    exact h.shown
  · intro y hy
    rw [List.getLast?_append_of_ne_nil _ h.ne_nil] at hy
    exact h.trimmed.last y hy

/-- The expression alone is code with its comments blanked, which is lexed from there. -/
theorem exists_blanked (hd : d = Dialect.rust ∨ d = Dialect.python) (hlexed : Lexed d none t ms)
    (hstart : start = 0 ∨ ∃ i, start = i + 1 ∧ PlainAt t ms ';' i) :
    ∃ before, Blanked d before (t.drop (start + b.length)) tail.expr ∧
      Lexed d before (t.drop (start + b.length)) (ms.drop (start + b.length)) ∧
      ∀ c u, t.drop (start + b.length) = c :: u →
        Token.at? d none (t.drop (start + b.length)) =
          Token.at? d before (t.drop (start + b.length)) := by
  obtain ⟨before, hbefore, hdrop⟩ := hlexed.drop_at Block.neutral_semicolon hstart
  obtain ⟨before₁, hpiece, hsame, hbehind⟩ := (h.blanked hd hlexed hdrop).behind_blanks
    (Dialect.apart_of_builtin hd).toRegular (fun _ => Dialect.inert_of_isBlank hd)
    (Token.closesNeutral_of_builtin hd) h.front h.ne_nil h.trimmed.head
    (fun _ _ _ => (Token.at?_of_neutral hbefore _).symm)
  rw [← List.drop_drop, ← List.drop_drop]
  exact ⟨before₁, hpiece, hbehind _ hdrop, hsame⟩

/-- The expression is a piece of the text. -/
theorem pieceAt (hstart : start = 0 ∨ ∃ i, start = i + 1 ∧ PlainAt t ms ';' i) {es : List Mark}
    (hes : Lexed d none tail.expr es)
    (hhides : Hides (t.drop (start + b.length)) (ms.drop (start + b.length)) tail.expr es) :
    PieceAt d t ms (start + b.length) tail.expr es where
  lexed := hes
  hides := hhides
  shows k c hk hc := by
    rw [← h.getElem?_expr hk]
    exact Block.shown_of_plainAt hc
  front i c hi hc := by
    rcases List.eq_nil_or_concat b with rfl | ⟨b', y, rfl⟩
    · -- In front of the expression stands the terminator.
      rcases hstart with rfl | ⟨j, rfl, hsemicolon⟩
      · simp at hi
      · obtain rfl : j = i := by simpa using hi
        obtain rfl := Option.some.inj (hsemicolon.1.symm.trans hc.1)
        decide
    · rw [List.concat_eq_append, List.length_append, List.length_singleton] at hi
      obtain rfl : i = start + b'.length := by omega
      exact Dialect.isWordChar_of_isBlank
        (h.isBlank_front (by simp) (Block.shown_of_plainAt hc))
  back c hc hword := by
    -- Behind the expression stands a blank or the colon, neither of which is part of a word.
    exfalso
    rcases h.behind (Block.shown_of_plainAt hc) with hblank | hcolon
    · rw [Dialect.isWordChar_of_isBlank hblank] at hword
      cases hword
    · obtain rfl := Option.some.inj ((plainAt_of_masked hcolon (by decide)).1.symm.trans hc.1)
      exact absurd hword (by decide)

end lexed
end Tail.Between

namespace Block

variable {b : Block}

/-- The expression of a block is shown behind a terminator, in the tail of the block. -/
theorem exists_between (hd : d = Dialect.rust ∨ d = Dialect.python) (h : read d base t = .ok b)
    (hms : marks d t = .ok ms) {tail : Tail} (htail : tail ∈ b.tail) :
    ∃ start u w, b.statements.length ≤ start ∧
      (start = 0 ∨ ∃ i, start = i + 1 ∧ PlainAt t ms ';' i) ∧
      tail.Between base (maskWith Mark.isOpaque t ms) (maskWith Mark.isComment t ms) start u w := by
  have hlength := length_maskWith Mark.isComment (marks_ok_iff.mp hms).length_eq
  have hcolons : ∀ i : Nat, (maskWith Mark.isOpaque t ms)[i]? = some ':' →
      (maskWith Mark.isComment t ms)[i]? = some ':' := fun i hi =>
    shown_of_plainAt (plainAt_of_masked hi (by decide))
  have hstart := tailStart_le d (maskWith Mark.isOpaque t ms)
  rw [length_maskWith _ (marks_ok_iff.mp hms).length_eq, ← hlength] at hstart
  rw [read_of_marks hms] at h
  rcases ofMasks_ok hcolons rfl h with ⟨_, rfl⟩ | ⟨_, tail', rfl, hcut⟩
  · cases htail
  obtain rfl := Option.some.inj htail
  obtain ⟨u, w, hbetween⟩ := hcut.exists_between hstart
  exact ⟨_, u, w, List.length_take_le _ _, plainAt_tailStart hd t ms, hbetween⟩

/-- The expression of a block is a piece of it behind its statements, in Rust without a comment. -/
theorem pieceAt_of_expr (hd : d = Dialect.rust ∨ d = Dialect.python) (h : read d base t = .ok b)
    (hms : marks d t = .ok ms) {tail : Tail} (htail : tail ∈ b.tail) :
    ∃ (i : Nat) (es : List Mark), tail.exprOffset = base + i ∧ b.statements.length ≤ i ∧
      PieceAt d t ms i tail.expr es ∧ (d = Dialect.rust → ∀ m ∈ es, m.isComment = false) := by
  obtain ⟨start, u, w, hle, hstart, hbetween⟩ := exists_between hd h hms htail
  obtain ⟨before, hpiece, hlexed, hsame⟩ :=
    hbetween.exists_blanked hd (marks_ok_iff.mp hms) hstart
  obtain ⟨es, hes, hcomment, hhides⟩ := hpiece.exists_lexed hd hsame
  exact ⟨start + u.length, es, hbetween.offset, Nat.le_trans hle (Nat.le_add_right _ _),
    hbetween.pieceAt hstart hes (hhides _ hlexed), hcomment⟩

/-- The expression of a block is lexed alone, in Rust without a comment. -/
theorem marks_of_expr (hd : d = Dialect.rust ∨ d = Dialect.python) (h : read d base t = .ok b)
    {tail : Tail} (htail : tail ∈ b.tail) :
    ∃ ms, marks d tail.expr = .ok ms ∧ (d = Dialect.rust → ∀ m ∈ ms, m.isComment = false) := by
  obtain ⟨ms, hms, _⟩ := marks_of_read h
  obtain ⟨_, es, _, _, hpiece, hcomment⟩ := pieceAt_of_expr hd h hms htail
  exact ⟨es, marks_ok_iff.mpr hpiece.lexed, hcomment⟩

end Block
end Stencil
