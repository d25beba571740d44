import Stencil.Proofs.Block.PlainStep
import Stencil.Proofs.Depth
import Stencil.Proofs.Text.Layout

/-! # Parts of a code block are lexed alone

  A block is cut at terminators, and its tail at a colon, and each part is lexed again on its own.
  Terminators and colons are looked for in the mask of the block, so that they stand outside tokens.
  Where a text is lexed, so is every part of it between two terminators (`Lexed.slice`).
-/

namespace Stencil

variable {d : Dialect} {before : Option Char} {t : Text} {ms : List Mark} {x : Char} {i : Nat}

/-! ### Characters outside tokens -/

/-- What is seen in a mask, and is not blank, stands outside tokens. -/
theorem plainAt_of_masked (h : (maskWith Mark.isOpaque t ms)[i]? = some x)
    (hx : isBlank x = false) : PlainAt t ms x i := by
  unfold maskWith at h
  rw [List.getElem?_zipWith] at h
  split at h
  · next c m hc hm =>
    cases m with
    | plain =>
      obtain rfl : c = x := Option.some.inj h
      exact ⟨hc, hm⟩
    | opens kind =>
      obtain rfl : blanked c = x := Option.some.inj h
      rw [isBlank_blanked] at hx
      exact absurd hx (by decide)
    | inside kind =>
      obtain rfl : blanked c = x := Option.some.inj h
      rw [isBlank_blanked] at hx
      exact absurd hx (by decide)
  · simp at h

/-- A character outside tokens is seen in every mask that hides tokens only. -/
theorem getElem?_maskWith (hidden : Mark → Bool) {i : Nat} (hplain : hidden .plain = false)
    (h : ms[i]? = some .plain) : (maskWith hidden t ms)[i]? = t[i]? := by
  rw [getElem?_maskWith_of_mark hidden h, hplain]
  exact Option.map_id'

theorem masked_of_plainAt {hidden : Mark → Bool} (hplain : hidden .plain = false)
    (h : PlainAt t ms x i) : (maskWith hidden t ms)[i]? = some x :=
  (getElem?_maskWith hidden hplain h.2).trans h.1

/-- A terminator stands outside tokens. -/
theorem plainAt_of_terminator (hblank : isBlank d.terminator = false)
    (h : i ∈ Block.terminators d (maskWith Mark.isOpaque t ms)) :
    PlainAt t ms d.terminator i :=
  plainAt_of_masked (mem_outerOffsets_iff.mp h).1 hblank

/-- The colon of a specifier is a colon of the tail. -/
theorem Block.colon_of_specColon {masked : Text} {start colon : Nat}
    (h : Block.specColon? d masked start = some colon) :
    start ≤ colon ∧ masked[colon]? = some ':' := by
  obtain ⟨hmem, _⟩ := List.mem_filter.mp (List.mem_of_getLast? h)
  obtain ⟨j, c, rfl, hc, htest, _⟩ := mem_outerFrom_iff.mp hmem
  obtain rfl := of_decide_eq_true htest
  rw [List.getElem?_drop] at hc
  exact ⟨Nat.le_add_right start j, hc⟩

/-- The colon of a specifier stands outside tokens, in the tail. -/
theorem plainAt_of_specColon {start : Nat}
    (h : Block.specColon? d (maskWith Mark.isOpaque t ms) start = some i) :
    start ≤ i ∧ PlainAt t ms ':' i := by
  obtain ⟨hle, hcolon⟩ := Block.colon_of_specColon h
  exact ⟨hle, plainAt_of_masked hcolon (by decide)⟩

/-! ### Texts between terminators -/

namespace Lexed

/-- What stands before a text does not matter where no token looks at it. -/
theorem neutral_iff (hbefore : Token.Neutral before) :
    Lexed d before t ms ↔ Lexed d none t ms := by
  have hsame (u : Text) := Token.at?_of_neutral (d := d) hbefore u
  constructor
  · intro h
    cases h with
    | nil => exact .nil
    | plain h next => exact .plain (hsame _ ▸ h) next
    | token h next => exact .token (hsame _ ▸ h) next
  · intro h
    cases h with
    | nil => exact .nil
    | plain h next => exact .plain (hsame _ ▸ h) next
    | token h next => exact .token (hsame _ ▸ h) next

theorem of_neutral (hbefore : Token.Neutral before) (h : Lexed d before t ms) :
    Lexed d none t ms := (neutral_iff hbefore).mp h

/-- Behind blanks a text is lexed as it is. -/
theorem behind_blanks (hd : d.Regular) (hblank : ∀ b, isBlank b = true → d.Inert b) {b : Text}
    (hb : b.all isBlank = true) (h : Lexed d before (b ++ t) ms) :
    ∃ ns, ms = List.replicate b.length .plain ++ ns ∧ Lexed d (b.getLast?.or before) t ns := by
  induction b generalizing before ms with
  | nil => exact ⟨ms, rfl, h⟩
  | cons c b ih =>
    rw [List.all_cons, Bool.and_eq_true] at hb
    obtain ⟨ms, rfl, hms⟩ := h.of_plain (Token.at?_of_inert hd (hblank c hb.1) (b ++ t))
    obtain ⟨ns, rfl, hns⟩ := ih hb.2 hms
    rw [or_getLast?] at hns
    refine ⟨ns, rfl, ?_⟩
    rw [List.getLast?_cons] at hns ⊢
    exact hns

/-- Blanks in front of a text do not matter either. -/
theorem of_blanks (hd : d.Regular) (hblank : ∀ b, isBlank b = true → d.Inert b) {b : Text}
    (hb : b.all isBlank = true) (hbefore : Token.Neutral before)
    (h : Lexed d before (b ++ t) ms) : Lexed d none t (ms.drop b.length) := by
  obtain ⟨ns, rfl, hns⟩ := h.behind_blanks hd hblank hb
  rw [List.drop_left' List.length_replicate]
  refine hns.of_neutral fun c hc => ?_
  cases hlast : b.getLast? with
  | none =>
    rw [hlast] at hc
    exact hbefore c hc
  | some y =>
    rw [hlast] at hc
    obtain rfl := Option.some.inj hc
    exact Token.neutral_blank (List.all_eq_true.mp hb y (List.mem_of_getLast? hlast)) y rfl

/-- A text that is lexed is lexed from every terminator on. -/
theorem drop_at {a : Nat} (hneutral : Token.Neutral (some x)) (h : Lexed d none t ms)
    (ha : a = 0 ∨ ∃ i, a = i + 1 ∧ PlainAt t ms x i) :
    ∃ before, Token.Neutral before ∧ Lexed d before (t.drop a) (ms.drop a) := by
  rcases ha with rfl | ⟨i, rfl, hplain⟩
  · exact ⟨none, fun c hc => by simp at hc, h⟩
  · exact ⟨some x, hneutral, h.drop_of_plainAt hplain⟩

/-- A text that is lexed is lexed between any two terminators, each with the one at its end. -/
theorem slice {a b : Nat} (hd : d.Regular) (hx : d.Inert x) (hblank : isBlank x = false)
    (hneutral : Token.Neutral (some x)) (h : Lexed d none t ms)
    (ha : a = 0 ∨ ∃ i, a = i + 1 ∧ PlainAt t ms x i)
    (hb : b = t.length ∨ ∃ i, b = i + 1 ∧ PlainAt t ms x i) :
    Lexed d none (t.slice a b) ((ms.drop a).take (b - a)) := by
  obtain ⟨before, hbefore, hdrop⟩ := h.drop_at hneutral ha
  unfold Text.slice
  rcases hb with rfl | ⟨i, rfl, ht, hms⟩
  · rw [List.take_of_length_le (by rw [List.length_drop]),
      List.take_of_length_le (by rw [List.length_drop, h.length_eq])]
    exact hdrop.of_neutral hbefore
  · by_cases hai : a ≤ i
    · -- The terminator stands in the text from `a` on, and that text is cut behind it.
      have hplain : PlainAt (t.drop a) (ms.drop a) x (i - a) := by
        rw [plainAt_drop_iff, Nat.add_sub_cancel' hai]
        exact ⟨ht, hms⟩
      rw [Nat.succ_sub hai]
      exact (hdrop.take_of_plainAt hd hx hblank hplain).of_neutral hbefore
    · rw [Nat.sub_eq_zero_of_le (by omega), List.take_zero, List.take_zero]
      exact .nil

end Lexed

namespace Block

/-! ### The parts of a block -/

def tailStart (d : Dialect) (masked : Text) : Nat := (terminators d masked).getLast?.elim 0 (· + 1)

/-- The statements of a block are what comes before its tail, if they are not dropped. -/
theorem read_ok {base : Int} {b : Block} (h : read d base t = .ok b) :
    ∃ ms start, marks d t = .ok ms ∧ start = tailStart d (maskWith Mark.isOpaque t ms) ∧
      (b.statements = [] ∨ b.statements = t.take start) := by
  obtain ⟨ms, hms, h⟩ := Outcome.bind_ok_iff.mp h
  refine ⟨ms, _, hms, rfl, ?_⟩
  have hstart : (terminators d (maskWith Mark.isOpaque t ms)).getLast?.elim 0 (· + 1) =
      tailStart d (maskWith Mark.isOpaque t ms) := rfl
  dsimp only at h
  rw [hstart] at h
  generalize tailStart d (maskWith Mark.isOpaque t ms) = start at h ⊢
  split at h
  · obtain rfl := Except.ok.inj h
    dsimp only
    split
    · exact .inl rfl
    · exact .inr rfl
  · split at h
    · obtain rfl := Except.ok.inj h
      exact .inr rfl
    · split at h
      · exact absurd h Outcome.throw_bind_ne_ok
      · obtain rfl := Except.ok.inj h
        exact .inr rfl

/-! ### Lexing the parts -/

section builtin
variable {d : Dialect} {base : Int} {b : Block}

/-- Terminators stand outside tokens. -/
theorem plainAt_semicolon (hd : d = Dialect.rust ∨ d = Dialect.python)
    (h : i ∈ terminators d (maskWith Mark.isOpaque t ms)) : PlainAt t ms ';' i := by
  have hterm := Dialect.terminator_of_builtin hd
  rw [← hterm]
  exact plainAt_of_terminator (by rw [hterm]; decide) h

theorem neutral_semicolon : Token.Neutral (some ';') := by
  rintro c hc
  obtain rfl := Option.some.inj hc
  exact ⟨by decide, by decide⟩

/-- A text between terminators of a text that is lexed is lexed. -/
theorem marks_slice (hd : d = Dialect.rust ∨ d = Dialect.python) (h : marks d t = .ok ms) {a b : Nat}
    (ha : a = 0 ∨ ∃ i ∈ terminators d (maskWith Mark.isOpaque t ms), a = i + 1)
    (hb : b = t.length ∨ ∃ i ∈ terminators d (maskWith Mark.isOpaque t ms), b = i + 1) :
    ∃ ms', marks d (t.slice a b) = .ok ms' := by
  have hinert : d.Inert ';' := Dialect.inert_of_builtin hd ⟨by decide, by decide⟩ (by decide)
  refine ⟨_, marks_ok_iff.mpr ((marks_ok_iff.mp h).slice (Dialect.apart_of_builtin hd).toRegular
    hinert (by decide) neutral_semicolon ?_ ?_)⟩
  · rcases ha with ha | ⟨i, hi, ha⟩
    · exact .inl ha
    · exact .inr ⟨i, ha, plainAt_semicolon hd hi⟩
  · rcases hb with hb | ⟨i, hi, hb⟩
    · exact .inl hb
    · exact .inr ⟨i, hb, plainAt_semicolon hd hi⟩

theorem tailStart_cases (d : Dialect) (masked : Text) :
    tailStart d masked = 0 ∨ ∃ i ∈ terminators d masked, tailStart d masked = i + 1 := by
  unfold tailStart
  cases hlast : (terminators d masked).getLast? with
  | none => exact .inl rfl
  | some i => exact .inr ⟨i, List.mem_of_getLast? hlast, rfl⟩

/-- The tail of a block begins at its start or behind a terminator outside tokens. -/
theorem plainAt_tailStart (hd : d = Dialect.rust ∨ d = Dialect.python) (t : Text) (ms : List Mark) :
    tailStart d (maskWith Mark.isOpaque t ms) = 0 ∨
      ∃ i, tailStart d (maskWith Mark.isOpaque t ms) = i + 1 ∧ PlainAt t ms ';' i := by
  rcases tailStart_cases d (maskWith Mark.isOpaque t ms) with hzero | ⟨i, hi, hsucc⟩
  · exact .inl hzero
  · exact .inr ⟨i, hsucc, plainAt_semicolon hd hi⟩

/-- The statements of a block are lexed alone. -/
theorem marks_of_statements (hd : d = Dialect.rust ∨ d = Dialect.python)
    (h : read d base t = .ok b) : ∃ ms, marks d b.statements = .ok ms := by
  obtain ⟨ms, start, hms, hstart, hstatements⟩ := read_ok h
  rcases hstatements with hnil | htake
  · rw [hnil]
    exact ⟨[], rfl⟩
  · have hslice : t.take start = t.slice 0 start := rfl
    rw [htake, hslice]
    rcases tailStart_cases d (maskWith Mark.isOpaque t ms) with hzero | ⟨i, hi, hsucc⟩
    · rw [hstart, hzero]
      exact ⟨[], rfl⟩
    · exact marks_slice hd hms (.inl rfl) (.inr ⟨i, hi, hstart.trans hsucc⟩)

/-- The statements of a block that are not blank are lexed alone without the blanks in front of
them, and end outside tokens. -/
theorem marks_of_trim (hd : d = Dialect.rust ∨ d = Dialect.python) (h : read d base t = .ok b)
    (hblank : ¬ b.statements.all isBlank = true) :
    ∃ ms, marks d b.statements.trim = .ok ms ∧ ms.getLast? = some .plain := by
  obtain ⟨ms, start, hms, hstart, hstatements⟩ := read_ok h
  have htake : b.statements = t.take start := by
    refine hstatements.resolve_left fun hnil => hblank ?_
    rw [hnil]
    rfl
  -- They end with a terminator.
  obtain ⟨i, rfl, hplain⟩ : ∃ i, start = i + 1 ∧ PlainAt t ms ';' i := by
    rcases plainAt_tailStart hd t ms with hzero | ⟨i, hsucc, hplain⟩
    · rw [htake, hstart, hzero] at hblank
      exact absurd rfl hblank
    · exact ⟨i, hstart.trans hsucc, hplain⟩
  have hterminated : b.statements.getLast? = some ';' := by
    rw [htake, List.take_add_one, hplain.1]
    exact List.getLast?_concat
  have hlast : (ms.take (i + 1)).getLast? = some .plain := by
    rw [List.take_add_one, hplain.2]
    exact List.getLast?_concat
  have hapart := Dialect.apart_of_builtin hd
  have hinert : d.Inert ';' := Dialect.inert_of_builtin hd ⟨by decide, by decide⟩ (by decide)
  have hcut := (marks_ok_iff.mp hms).take_of_plainAt hapart.toRegular hinert (by decide) hplain
  rw [← htake] at hcut
  -- So they lose no blanks at their end.
  have hne := Text.trim_ne_nil hblank
  obtain ⟨u, w, htrim, hu, hw, hend⟩ := Text.trim_last hne
  obtain ⟨hstatements, _⟩ : u ++ b.statements.trim = b.statements ∧ w = [] := by
    refine Text.append_blanks_inj hw rfl hend (fun c hc => ?_) (by rw [List.append_nil, ← htrim])
    rw [hterminated] at hc
    obtain rfl := Option.some.inj hc
    decide
  have hcount := congrArg List.length hstatements
  rw [List.length_append, ← hcut.length_eq] at hcount
  rw [← hstatements] at hcut
  have hblanks : ∀ b, isBlank b = true → d.Inert b := fun _ => Dialect.inert_of_isBlank hd
  have hbefore : Token.Neutral none := fun c hc => absurd hc (by simp)
  refine ⟨_, marks_ok_iff.mpr (hcut.of_blanks hapart.toRegular hblanks hu hbefore), ?_⟩
  have hpos := List.length_pos_iff.mpr hne
  rw [List.getLast?_drop, if_neg (by omega), hlast]

/-- The spans of statements begin at the start or behind a terminator, and end at the end or with a
terminator. -/
theorem mem_spansFrom {start stop a b : Nat} {offsets : List Nat}
    (h : (a, b) ∈ spansFrom start stop offsets) :
    (a = start ∨ ∃ i ∈ offsets, a = i + 1) ∧ (b = stop ∨ ∃ i ∈ offsets, b = i + 1) := by
  induction offsets generalizing start with
  | nil =>
    obtain ⟨rfl, rfl⟩ := Prod.mk.inj (List.mem_singleton.mp h)
    exact ⟨.inl rfl, .inl rfl⟩
  | cons i offsets ih =>
    rcases List.mem_cons.mp h with h | h
    · obtain ⟨rfl, rfl⟩ := Prod.mk.inj h
      exact ⟨.inl rfl, .inr ⟨i, List.mem_cons_self, rfl⟩⟩
    · obtain ⟨ha, hb⟩ := ih h
      constructor
      · rcases ha with ha | ⟨j, hj, ha⟩
        · exact .inr ⟨i, List.mem_cons_self, ha⟩
        · exact .inr ⟨j, List.mem_cons_of_mem _ hj, ha⟩
      · rcases hb with hb | ⟨j, hj, hb⟩
        · exact .inl hb
        · exact .inr ⟨j, List.mem_cons_of_mem _ hj, hb⟩

/-- Statements that are lexed have spans, and every span of them is lexed alone. -/
theorem marks_of_span (hd : d = Dialect.rust ∨ d = Dialect.python) (h : marks d t = .ok ms) :
    ∃ spans, statementSpans d t = .ok spans ∧
      ∀ a b, (a, b) ∈ spans → ∃ ms', marks d (t.slice a b) = .ok ms' := by
  refine ⟨_, by unfold statementSpans mask; rw [h]; rfl, fun a b hspan => ?_⟩
  obtain ⟨ha, hb⟩ := mem_spansFrom hspan
  exact marks_slice hd h ha hb

end builtin
end Block
end Stencil
