import Stencil.Proofs.Block.Cut
import Stencil.Proofs.Dialect.Record

/-! # Where statements end

  A text is cut into statements behind its terminators, and the last cut is the one at which the
  tail of a code block begins. Terminators are looked for in the mask, where the characters of tokens
  are blanked: a line feed stays a line feed, and any other character becomes a space. So the end of
  a statement stands outside tokens, unless it is a blank of a token that looks like the terminator
  (`ends_outside_iff`). That takes a dialect whose terminator is a space or a line feed.
-/

namespace Stencil

variable {d : Dialect} {t : Text} {ms : List Mark} {x : Char} {i : Nat}

/-- The character at offset `i` of a text belongs to a token, and is blanked to `x`. -/
def BlankedTo (t : Text) (ms : List Mark) (x : Char) (i : Nat) : Prop :=
  ∃ c m, t[i]? = some c ∧ ms[i]? = some m ∧ m.isOpaque = true ∧ blanked c = x

/-- What a mask shows is a character outside tokens, or a blank in the place of one inside. -/
theorem masked_eq_some_iff : (maskWith Mark.isOpaque t ms)[i]? = some x ↔
    PlainAt t ms x i ∨ BlankedTo t ms x i := by
  have hshown : (maskWith Mark.isOpaque t ms)[i]? = some x ↔
      ∃ c m, t[i]? = some c ∧ ms[i]? = some m ∧ (if m.isOpaque then blanked c else c) = x := by
    unfold maskWith
    rw [List.getElem?_zipWith_eq_some]
  rw [hshown]
  constructor
  · rintro ⟨c, m, hc, hm, hx⟩
    cases m with
    | plain =>
      obtain rfl : c = x := hx
      exact .inl ⟨hc, hm⟩
    | opens kind => exact .inr ⟨c, _, hc, hm, rfl, hx⟩
    | inside kind => exact .inr ⟨c, _, hc, hm, rfl, hx⟩
  · rintro (⟨hx, hm⟩ | ⟨c, m, hc, hm, hopaque, hx⟩)
    · exact ⟨x, .plain, hx, hm, rfl⟩
    · exact ⟨c, m, hc, hm, by rw [if_pos hopaque]; exact hx⟩

/-- A character is blanked to a space or a line feed. -/
theorem BlankedTo.eq_space_or_feed (h : BlankedTo t ms x i) : x = ' ' ∨ x = '\n' := by
  obtain ⟨c, m, _, _, _, rfl⟩ := h
  unfold blanked
  split
  · exact .inr rfl
  · exact .inl rfl

namespace Block

/-! ### Spans -/

/-- A statement of a text with the given spans ends at offset `i`. The last span is what comes behind
the last statement. -/
def EndsAt (spans : List (Nat × Nat)) (i : Nat) : Prop := ∃ a, (a, i + 1) ∈ spans.dropLast

theorem spansFrom_ne_nil (start stop : Nat) (offsets : List Nat) :
    spansFrom start stop offsets ≠ [] := by
  cases offsets <;> exact List.cons_ne_nil _ _

/-- Statements end at the terminators and nowhere else. -/
theorem endsAt_spansFrom_iff {start stop : Nat} {offsets : List Nat} :
    EndsAt (spansFrom start stop offsets) i ↔ i ∈ offsets := by
  unfold EndsAt
  induction offsets generalizing start with
  | nil => simp [spansFrom]
  | cons j offsets ih =>
    rw [spansFrom, List.dropLast_cons_of_ne_nil (spansFrom_ne_nil _ _ _), List.mem_cons, ← @ih (j + 1)]
    constructor
    · rintro ⟨a, ha⟩
      rcases List.mem_cons.mp ha with ha | ha
      · exact .inl (Nat.succ.inj (Prod.mk.inj ha).2)
      · exact .inr ⟨a, ha⟩
    · rintro (rfl | ⟨a, ha⟩)
      · exact ⟨start, List.mem_cons_self⟩
      · exact ⟨a, List.mem_cons_of_mem _ ha⟩

/-- The last span begins behind the last terminator. -/
theorem getLast?_spansFrom (start stop : Nat) (offsets : List Nat) :
    (spansFrom start stop offsets).getLast? = some (offsets.getLast?.elim start (· + 1), stop) := by
  induction offsets generalizing start with
  | nil => rfl
  | cons i offsets ih =>
    rw [spansFrom, List.getLast?_cons, ih, List.getLast?_cons]
    cases offsets.getLast? <;> rfl

/-! ### Ends of statements -/

/-- How a lexed text is cut into statements: behind every offset at depth zero at which the mask shows
the terminator, where either a terminator stands outside tokens or a token is blanked to one. The tail
of a code block is what comes behind the last of these cuts. -/
structure CutAtEnds (d : Dialect) (t : Text) (ms : List Mark) (spans : List (Nat × Nat))
    (start : Nat) : Prop where
  spans_eq : statementSpans d t = .ok spans
  ends_iff : ∀ i, EndsAt spans i ↔ (depths (maskWith Mark.isOpaque t ms))[i]? = some 0 ∧
    (PlainAt t ms d.terminator i ∨ BlankedTo t ms d.terminator i)
  last : spans.getLast? = some (start, t.length)
  /-- The tail begins behind the last end of a statement, and at the start where there is none. -/
  tail_iff : ∀ i, start = i + 1 ↔ EndsAt spans i ∧ ∀ j, EndsAt spans j → j ≤ i
  statements : ∀ base b, read d base t = .ok b → b.statements = [] ∨ b.statements = t.take start

theorem exists_cutAtEnds (h : marks d t = .ok ms) : ∃ spans start, CutAtEnds d t ms spans start := by
  have hends (i : Nat) :
      EndsAt (spansFrom 0 t.length (terminators d (maskWith Mark.isOpaque t ms))) i ↔
        OuterAt (maskWith Mark.isOpaque t ms) d.terminator i := by
    rw [endsAt_spansFrom_iff]
    exact mem_outerOffsets_iff
  have htail := tailBegins_tailStart d (maskWith Mark.isOpaque t ms)
  refine ⟨_, tailStart d (maskWith Mark.isOpaque t ms), ?_, fun i => ?_, getLast?_spansFrom _ _ _,
    fun i => ⟨fun hi => ⟨?_, fun j hj => ?_⟩, fun ⟨hi, hlast⟩ => ?_⟩, fun base b hb => ?_⟩
  · unfold statementSpans mask
    rw [h]
    rfl
  · rw [hends, ← masked_eq_some_iff, and_comm]
    rfl
  · rw [hends]
    rcases htail.cut with hzero | ⟨j, hj, houter⟩
    · omega
    · obtain rfl : j = i := by omega
      exact houter
  · have := htail.last j ((hends j).mp hj)
    omega
  · have hlt := htail.last i ((hends i).mp hi)
    rcases htail.cut with hzero | ⟨j, hj, houter⟩
    · omega
    · have := hlast j ((hends j).mpr houter)
      omega
  · obtain ⟨ms', start, hms', rfl, hstatements⟩ := read_ok hb
    obtain rfl := Except.ok.inj (h.symm.trans hms')
    exact hstatements

/-- No statement of a lexed text ends in a token exactly if no token at depth zero has a character
that is blanked to the terminator. Where the terminator is neither a space nor a line feed, there is
no such character, and all statements end outside tokens. -/
theorem ends_outside_iff (d : Dialect) {t : Text} {ms : List Mark} (h : marks d t = .ok ms) :
    ∃ spans start, CutAtEnds d t ms spans start ∧
      ((∀ i, EndsAt spans i → PlainAt t ms d.terminator i) ↔
        ∀ i, (depths (maskWith Mark.isOpaque t ms))[i]? = some 0 →
          ¬ BlankedTo t ms d.terminator i) ∧
      (d.terminator ≠ ' ' → d.terminator ≠ '\n' →
        ∀ i, EndsAt spans i → PlainAt t ms d.terminator i) := by
  obtain ⟨spans, start, hcut⟩ := exists_cutAtEnds h
  refine ⟨spans, start, hcut, ⟨fun hall i hdepth hblanked => ?_, fun hnone i hi => ?_⟩,
    fun hspace hfeed i hi => ?_⟩
  · -- A character is not both outside tokens and in one.
    obtain ⟨_, hplain⟩ := hall i ((hcut.ends_iff i).mpr ⟨hdepth, .inr hblanked⟩)
    obtain ⟨_, m, _, hm, hopaque, _⟩ := hblanked
    obtain rfl : .plain = m := Option.some.inj (hplain.symm.trans hm)
    exact absurd hopaque (by decide)
  · obtain ⟨hdepth, hplain | hblanked⟩ := (hcut.ends_iff i).mp hi
    · exact hplain
    · exact absurd hblanked (hnone i hdepth)
  · -- Only a space and a line feed come about by blanking.
    obtain ⟨_, hplain | hblanked⟩ := (hcut.ends_iff i).mp hi
    · exact hplain
    · rcases hblanked.eq_space_or_feed with heq | heq
      · exact absurd heq hspace
      · exact absurd heq hfeed

/-- A record in which a line feed ends a statement, and strings may go on over lines. -/
def linewiseRecord : Json :=
  .obj [("name", .str ['d']), ("writer", .str "rust"), ("statement_terminator", .str ['\n'])]

def linewiseDialect : Dialect := { Dialect.plain with terminator := '\n' }

/-- A string over two lines, a line feed and a name. -/
def linewiseText : Text := "\"a\nb\"\nc"

/-- Of the two line feeds of that text the first stands in a string, and still ends a statement. -/
theorem ends_outside_iff_linewise :
    Dialect.Record.read linewiseRecord = .ok linewiseDialect ∧
      ∃ ms spans, marks linewiseDialect linewiseText = .ok ms ∧
        statementSpans linewiseDialect linewiseText = .ok spans ∧
        ms[2]? = some (.inside .string) ∧ EndsAt spans 2 ∧
        ¬ ∀ i, EndsAt spans i → PlainAt linewiseText ms '\n' i := by
  have hmarks : marks linewiseDialect linewiseText =
      .ok (.opens .string :: (List.replicate 4 (.inside .string) ++ [.plain, .plain])) :=
    Outcome.ok_of_toOption (by decide +kernel)
  obtain ⟨spans, start, hcut, houtside, _⟩ := ends_outside_iff linewiseDialect hmarks
  have hblanked : BlankedTo linewiseText
      (.opens .string :: (List.replicate 4 (.inside .string) ++ [.plain, .plain])) '\n' 2 :=
    ⟨'\n', .inside .string, rfl, rfl, rfl, rfl⟩
  refine ⟨by cbv, _, spans, hmarks, hcut.spans_eq, rfl,
    (hcut.ends_iff 2).mpr ⟨by decide, .inr hblanked⟩, fun hall => ?_⟩
  exact houtside.mp hall 2 (by decide) hblanked

end Block
end Stencil
