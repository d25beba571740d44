import Stencil.Proofs.Block.Piece
import Stencil.Proofs.Block.Terminator

/-! # Statements without their tail

  The names in the statements of a block are looked for in its statements alone, which are split
  once more without the tail behind them. Both splits find the same statements
  (`spans_of_statements`): the statements have the marks that they have in the block, so that the
  mask of them is the beginning of the mask of the block, and the last terminator at depth zero is
  the last character of that beginning. Only the span behind it, which is the tail of the block, is
  empty.
-/

namespace Stencil.Block

variable {d : Dialect} {base : Int} {t : Text} {ms : List Mark} {b : Block}

/-! ### Spans -/

/-- Spans that follow on each other from `start` to `stop`. -/
inductive Contiguous : (start : Nat) → List (Nat × Nat) → (stop : Nat) → Prop
  | nil {stop} : Contiguous stop [] stop
  | cons {start i stop spans} (h : start ≤ i) (next : Contiguous i spans stop) :
      Contiguous start ((start, i) :: spans) stop

theorem contiguous_spansFrom {start stop : Nat} {offsets : List Nat}
    (hincreasing : offsets.Pairwise (· < ·)) (hstart : ∀ i ∈ offsets, start ≤ i)
    (hstop : ∀ i ∈ offsets, i < stop) (hle : start ≤ stop) :
    Contiguous start (spansFrom start stop offsets) stop := by
  induction offsets generalizing start with
  | nil => exact .cons hle .nil
  | cons i offsets ih =>
    obtain ⟨hlater, hincreasing⟩ := List.pairwise_cons.mp hincreasing
    have hi := hstart i List.mem_cons_self
    have hnext := ih hincreasing hlater (fun j hj => hstop j (List.mem_cons_of_mem _ hj))
      (hstop i List.mem_cons_self)
    exact .cons (Nat.le_succ_of_le hi) hnext

/-- Where the text ends matters to the last span only. -/
theorem spansFrom_eq (start stop stop' : Nat) (offsets : List Nat) :
    spansFrom start stop offsets =
      (spansFrom start stop' offsets).dropLast ++ [(offsets.getLast?.elim start (· + 1), stop)] := by
  induction offsets generalizing start with
  | nil => rfl
  | cons i offsets ih =>
    have hlast : (i :: offsets).getLast?.elim start (· + 1) =
        offsets.getLast?.elim (i + 1) (· + 1) := by
      rw [List.getLast?_cons]
      cases offsets.getLast? <;> rfl
    rw [hlast, spansFrom, spansFrom, List.dropLast_cons_of_ne_nil (spansFrom_ne_nil _ _ _), ih,
      List.cons_append]

/-! ### Terminators of the statements -/

/-- Up to the tail a mask has all its terminators. -/
theorem terminators_take_tailStart (d : Dialect) (masked : Text) :
    terminators d (masked.take (tailStart d masked)) = terminators d masked := by
  have htail := tailBegins_tailStart d masked
  unfold terminators outerOffsets
  rw [outerFrom_take, List.filter_eq_self]
  intro i hi
  rw [Nat.zero_add]
  exact decide_eq_true (htail.last i (mem_outerOffsets_iff.mp hi))

/-- Up to its tail a text has its marks alone. -/
theorem marks_take_tailStart (hd : d = Dialect.rust ∨ d = Dialect.python) (h : marks d t = .ok ms) :
    marks d (t.take (tailStart d (maskWith Mark.isOpaque t ms))) =
      .ok (ms.take (tailStart d (maskWith Mark.isOpaque t ms))) := by
  exact marks_ok_iff.mpr (pieceAt_slice hd h (.inl rfl) (plainAt_tailStart hd t ms)).lexed

/-- The statements of a block are split alone as they are in the block: the spans of the block go
from its start to its end without a gap, the last of them begins where the statements end, and without
the tail it is empty there. -/
theorem spans_of_statements (hd : d = Dialect.rust ∨ d = Dialect.python)
    (h : read d base t = .ok b) :
    ∃ spans, statementSpans d t = .ok spans ∧ Contiguous 0 spans t.length ∧
      b.statements = t.take b.statements.length ∧
      spans.getLast? = some (b.statements.length, t.length) ∧
      statementSpans d b.statements =
        .ok (spans.dropLast ++ [(b.statements.length, b.statements.length)]) := by
  obtain ⟨ms, hms, _⟩ := marks_of_read h
  have hlexed := marks_ok_iff.mp hms
  have hlength : (maskWith Mark.isOpaque t ms).length = t.length :=
    length_maskWith _ hlexed.length_eq
  have hstart := tailStart_le d (maskWith Mark.isOpaque t ms)
  have hstatements := statements_eq_take hd h hms
  have hcount : b.statements.length = tailStart d (maskWith Mark.isOpaque t ms) := by
    rw [hstatements, List.length_take, Nat.min_eq_left (by omega)]
  -- The mask of the statements is that of the block up to the tail.
  have hmask : maskWith Mark.isOpaque b.statements (ms.take b.statements.length) =
      (maskWith Mark.isOpaque t ms).take b.statements.length := by
    rw [← maskWith_take, hcount, ← hstatements]
  have hterminators : terminators d
      (maskWith Mark.isOpaque b.statements (ms.take b.statements.length)) =
        terminators d (maskWith Mark.isOpaque t ms) := by
    rw [hmask, hcount, terminators_take_tailStart]
  have hwhole : statementSpans d t =
      .ok (spansFrom 0 t.length (terminators d (maskWith Mark.isOpaque t ms))) := by
    unfold statementSpans mask
    rw [hms]
    rfl
  have halone : statementSpans d b.statements = .ok (spansFrom 0 b.statements.length
      (terminators d (maskWith Mark.isOpaque t ms))) := by
    have hmarks := marks_take_tailStart hd hms
    rw [← hstatements, ← hcount] at hmarks
    rw [← hterminators]
    unfold statementSpans mask
    rw [hmarks]
    rfl
  have hlast : (terminators d (maskWith Mark.isOpaque t ms)).getLast?.elim 0 (· + 1) =
      b.statements.length := hcount.symm
  refine ⟨_, hwhole, ?_, ?_, ?_, ?_⟩
  · refine contiguous_spansFrom pairwise_outerFrom (fun i _ => Nat.zero_le i) (fun i hi => ?_)
      (Nat.zero_le _)
    rw [← hlength]
    exact (List.getElem?_eq_some_iff.mp (mem_outerOffsets_iff.mp hi).1).1
  · rw [hcount]
    exact hstatements
  · rw [getLast?_spansFrom, hlast]
  · rw [halone, spansFrom_eq 0 b.statements.length t.length, hlast]

/-- In this text the number sign behind a colon opens a comment, in the block and in its statements,
so that the terminator in that comment ends no statement. -/
theorem spans_of_statements_comment :
    read .python 0 "p = d[k:#a;\n]; p:>4" =
        .ok ⟨"p = d[k:#a;\n];", some ⟨"p", some ">4", 15, 17⟩⟩ ∧
      ∃ spans, statementSpans .python "p = d[k:#a;\n]; p:>4" = .ok spans ∧
        Contiguous 0 spans 19 ∧ spans.getLast? = some (14, 19) ∧
        statementSpans .python "p = d[k:#a;\n];" = .ok (spans.dropLast ++ [(14, 14)]) := by
  have hread : read .python 0 "p = d[k:#a;\n]; p:>4" =
      .ok ⟨"p = d[k:#a;\n];", some ⟨"p", some ">4", 15, 17⟩⟩ :=
    Outcome.ok_of_toOption (by decide +kernel)
  obtain ⟨spans, hspans, hcontiguous, _, hlast, halone⟩ := spans_of_statements (.inr rfl) hread
  exact ⟨hread, spans, hspans, hcontiguous, hlast, halone⟩

end Stencil.Block
