import Mathlib.Logic.Relation
import Mathlib.Order.WellFounded
import Stencil.Proofs.Faults
import Stencil.Proofs.Segment.Scan
import Stencil.Proofs.Token.Run

/-! # Lexing makes progress and stays in the text

  In a dialect that was read, and whose line comments open with a character of the line that they
  hide, a token covers something and ends in the text. From this it follows that every loop over a
  text comes to an end: the run that lexes it, the scan of a code block and that of a template.

  * At every offset a token is told, or that there is none, or that one begins there that does not
    end (`Token.told_cases`).
  * A step of a run leads forward and stays in the text (`Token.Step.forward`), and the scan of a
    block is such a run (`Inside.run`). So does a turn of the scan of a template (`Turn.forward`).
    Neither goes on for ever (`wellFounded_of_forward`).
  * A text that is not lexed, and a template that is not cut into segments, has a token that does not
    end, or a block that is not closed (`marks_failsWithin`, `segments_failsWithin`).
-/

namespace Stencil

open Outcome (FailsOnly)

variable {d : Dialect} {t : Text} {i : Nat}

/-- Where every step leads forward and none beyond an end, no steps go on for ever. -/
theorem wellFounded_of_forward {stop : Nat} {r : Nat → Nat → Prop}
    (h : ∀ i j, r i j → i < j ∧ j ≤ stop) : WellFounded fun j i => r i j := by
  refine Subrelation.wf (r := InvImage (· < ·) (stop - ·)) ?_ (InvImage.wf _ wellFounded_lt)
  intro j i hij
  have := h i j hij
  show stop - j < stop - i
  omega

/-! ### Tokens -/

namespace Token

/-- What is told at an offset of a text: the token there, if there is one, or the fault that is found
there. -/
def told (d : Dialect) (t : Text) (i : Nat) : Except Failure (Option Token) :=
  (atOffset? d t i).mapError (LexFault.at i)

/-- At the end of a text there is no token. -/
theorem at?_nil (hd : d.Advancing) (before : Option Char) : at? d before [] = .ok none := by
  have hline : lineComment d before [] d.lineComments = .ok none := by
    refine lineComment_none_iff.mpr fun e he => ?_
    obtain ⟨m, rfl, hne, _⟩ := hd.markers e he
    exact ⟨m, rfl, by simp [hne]⟩
  have hblock : blockComment d [] = .ok none := by
    refine blockComment_none_iff.mpr fun opener closer hb => ?_
    simpa using (hd.delimiters opener closer hb).1
  refine at?_ok_iff.mpr (.inr ⟨hline, .inr ⟨hblock, .inr ⟨?_, .inr ⟨?_, .inr ⟨rfl, rfl⟩⟩⟩⟩⟩)
  · simp only [hashedString, List.drop_nil]
  · simp only [quotedString, List.drop_nil]

/-- A fault at an offset is a token that begins there and does not end. -/
theorem fault_of_atOffset? (hd : d.Advancing) {fault : LexFault}
    (h : atOffset? d t i = .error fault) : i < t.length ∧ ∃ token, fault = .unclosed token := by
  refine ⟨?_, at?_failsOnly hd fault h⟩
  rw [← Nat.not_le]
  intro hend
  rw [← at?_of_drop (List.drop_eq_nil_of_le hend), at?_nil hd] at h
  cases h

theorem told_cases (hd : d.Advancing) (hi : i < t.length) :
    told d t i = .ok none ∨ (∃ token, told d t i = .error (.template ⟨.unclosed token, i⟩)) ∨
      ∃ kind n, told d t i = .ok (some ⟨kind, n⟩) ∧ 0 < n ∧ i + n ≤ t.length := by
  unfold told
  cases htoken : atOffset? d t i with
  | error fault =>
    obtain ⟨_, token, rfl⟩ := fault_of_atOffset? hd htoken
    exact .inr (.inl ⟨token, rfl⟩)
  | ok found =>
    cases found with
    | none => exact .inl rfl
    | some found =>
      obtain ⟨kind, n⟩ := found
      exact .inr (.inr ⟨kind, n, rfl, Nat.pos_of_ne_zero (at?_length_ne_zero hd htoken),
        length_le_of_atOffset? (Nat.le_of_lt hi) htoken⟩)

/-- The parts of a token that begin at an offset end in the text. -/
structure PartsWithin (t : Text) (o : Nat) : Prop where
  quoted : ∀ quote escapes multiline n,
    quotedEnd quote escapes multiline (t.drop o) = .ok n → o + n ≤ t.length
  hashed : ∀ n, hashedEnd (t.drop o) = .ok (some n) → o + n ≤ t.length
  char : ∀ quote n, charEnd quote (t.drop o) = .ok (some n) → o + n ≤ t.length
  comment : ∀ opener closer nested depth n,
    blockEnd opener closer nested depth 0 (t.drop o) = some n → o + n ≤ t.length

theorem partsWithin {o : Nat} (ho : o ≤ t.length) : PartsWithin t o := by
  have within {n : Nat} (hn : n ≤ (t.drop o).length) : o + n ≤ t.length := by
    rw [List.length_drop] at hn
    exact (Nat.le_sub_iff_add_le' ho).mp hn
  constructor
  · intro quote escapes multiline n h
    exact within (length_quotedEnd h).2
  · intro n h
    obtain ⟨u, q, rest, hsplit, rfl, _⟩ := hashedEnd_ends h
    refine within ?_
    rw [hsplit, List.length_append, List.length_cons]
    omega
  · intro quote n h
    obtain ⟨u, rest, hsplit, rfl⟩ := charEnd_ends h
    refine within ?_
    rw [hsplit, List.length_append, List.length_cons]
    omega
  · intro opener closer nested depth n h
    obtain ⟨u, rest, hsplit, rfl⟩ := blockEnd_ends h
    refine within ?_
    rw [hsplit, List.length_append, List.length_append]
    omega

/-! ### Runs -/

theorem Step.forward (hd : d.Advancing) {found : Option Extent} {j : Nat}
    (h : Step d t i found j) : i < j ∧ j ≤ t.length := by
  cases h with
  | plain hi => exact ⟨Nat.lt_succ_self i, hi⟩
  | token hi htoken =>
    have hpos := Nat.pos_of_ne_zero (at?_length_ne_zero hd htoken)
    exact ⟨Nat.lt_add_of_pos_right hpos, length_le_of_atOffset? (Nat.le_of_lt hi) htoken⟩

end Token

/-! ### Texts that are not lexed -/

/-- A token begins in a text that does not end. -/
inductive Failure.Unended (t : Text) : Failure → Prop
  | intro {token o} (ho : o < t.length) : Unended t (.template ⟨.unclosed token, o⟩)

theorem marks_failsWithin (hd : d.Advancing) : FailsOnly (Failure.Unended t) (marks d t) := by
  intro f hf
  have hends := marks_ends (d := d) (t := t)
  rw [hf] at hends
  cases hends with
  | stuck _ ho hfault =>
    obtain ⟨_, token, rfl⟩ := Token.fault_of_atOffset? hd hfault
    exact .intro ho
  | stays _ _ hnothing => exact absurd rfl (Token.at?_length_ne_zero hd hnothing)

/-! ### Blocks -/

/-- The scan of a block is a run from its first character. -/
theorem Inside.run {depth o : Nat} (hi : i < t.length) (h : Inside d t i depth o) :
    ∃ es, Token.Run d t (i + 1) es o := by
  have character {o : Nat} {c : Char} {es : List Token.Extent} (hrun : Token.Run d t (i + 1) es o)
      (hnone : Token.atOffset? d t o = .ok none) (hc : t[o]? = some c) :
      ∃ es, Token.Run d t (i + 1) es (o + 1) :=
    ⟨_, hrun.append_step (.plain (List.getElem?_eq_some_iff.mp hc).1 hnone)⟩
  induction h with
  | opened => exact ⟨[], .stop⟩
  | token h htoken ih =>
    obtain ⟨es, hrun⟩ := ih
    have hlen := Token.length_le_of_atOffset? (h.le hi) htoken
    exact ⟨_, hrun.append_step (.token (by omega) htoken)⟩
  | up _ hnone hc ih => exact character ih.choose_spec hnone hc
  | down _ hnone hc ih => exact character ih.choose_spec hnone hc
  | plain _ hnone hc _ _ ih => exact character ih.choose_spec hnone hc

/-- A token begins in a text that does not end, or a block is opened that is not closed. -/
inductive Failure.Within (t : Text) : Failure → Prop
  | token {f} (h : Unended t f) : Within t f
  | unbalanced {i depth} (hi : i < t.length) :
      Within t (.template ⟨.unbalanced i (depth + 1), t.length⟩)

theorem Stuck.within (hd : d.Advancing) (hi : i < t.length) {f : Failure} (h : Stuck d t i f)
    (hf : f.InText) : f.Within t := by
  cases h with
  | unbalanced => exact .unbalanced hi
  | token _ hfault =>
    obtain ⟨ho, token, rfl⟩ := Token.fault_of_atOffset? hd hfault
    exact .token (.intro ho)
  | nothing => exact hf.elim

/-- The scan of a block that is opened at an offset ends in the text: at a brace, or for a token or
the block itself that does not end. -/
theorem scanAt_cases (hd : d.Advancing) (hi : i < t.length) :
    (∃ e, i < e ∧ e < t.length ∧ t[e]? = some '}' ∧ scanAt d t i 0 (i + 1) = .ok (e - (i + 1))) ∨
      ∃ f, scanAt d t i 0 (i + 1) = .error f ∧ f.Within t := by
  have hends : ScanEnds d t i (i + 1) (scanAt d t i 0 (i + 1)) := bodyLength_ends .opened hi
  have hfails : FailsOnly Failure.InText (scanAt d t i 0 (i + 1)) := bodyLength_failsOnly hd _ _ _ _
  generalize scanAt d t i 0 (i + 1) = r at hends hfails
  cases hends with
  | @closed n _ _ hclose =>
    refine .inl ⟨i + 1 + n, by omega, (List.getElem?_eq_some_iff.mp hclose).1, hclose, ?_⟩
    rw [Nat.add_sub_cancel_left]
  | stuck hstuck => exact .inr ⟨_, rfl, hstuck.within hd hi (hfails _ rfl)⟩

/-! ### Templates -/

/-- A turn of the scan of a template, from offset `o` to another one. -/
inductive Turn (d : Dialect) (t : Text) (o : Nat) : (o' : Nat) → Prop
  | plain {c} (hc : t[o]? = some c) (hopen : c ≠ '{')
      (hclose : ¬ (c = '}' ∧ t[o + 1]? = some c)) : Turn d t o (o + 1)
  | doubled {c} (hc : t[o]? = some c) (hbrace : c = '{' ∨ c = '}')
      (hnext : t[o + 1]? = some c) : Turn d t o (o + 2)
  | block {e} (hopen : t[o]? = some '{') (hsingle : t[o + 1]? ≠ some '{')
      (hinside : Inside d t o 0 e) (hnone : Token.atOffset? d t e = .ok none)
      (hclose : t[e]? = some '}') : Turn d t o (e + 1)

/-- The scan of a template takes turns from the start of the text. -/
theorem reached_iff {o : Nat} : Reached d t o ↔ Relation.ReflTransGen (Turn d t) 0 o := by
  constructor
  · intro h
    induction h with
    | start => exact .refl
    | plain _ hc hopen hclose ih => exact ih.tail (.plain hc hopen hclose)
    | doubled _ hc hbrace hnext ih => exact ih.tail (.doubled hc hbrace hnext)
    | block _ hopen hsingle hinside hnone hclose ih =>
      exact ih.tail (.block hopen hsingle hinside hnone hclose)
  · intro h
    induction h with
    | refl => exact .start
    | tail _ hturn ih =>
      cases hturn with
      | plain hc hopen hclose => exact .plain ih hc hopen hclose
      | doubled hc hbrace hnext => exact .doubled ih hc hbrace hnext
      | block hopen hsingle hinside hnone hclose =>
        exact .block ih hopen hsingle hinside hnone hclose

theorem Turn.forward {o o' : Nat} (h : Turn d t o o') : o < o' ∧ o' ≤ t.length := by
  have within {o : Nat} {c : Char} (hc : t[o]? = some c) : o + 1 ≤ t.length :=
    (List.getElem?_eq_some_iff.mp hc).1
  cases h with
  | plain hc => exact ⟨Nat.lt_succ_self o, within hc⟩
  | doubled _ _ hnext => exact ⟨by omega, within hnext⟩
  | block _ _ hinside _ hclose => exact ⟨Nat.lt_succ_of_lt hinside.lt, within hclose⟩

theorem segments_failsWithin (hd : d.Advancing) : FailsOnly (Failure.Within t) (segments d t) := by
  intro f hf
  obtain ⟨i, hopen, hstuck⟩ := stuck_of_segments hf
  exact hstuck.within hd (List.getElem?_eq_some_iff.mp hopen.brace).1 (segments_failsOnly hd f hf)

/-! ### Every loop -/

/-- The loops over a text make progress and stay in it. -/
structure Advances (d : Dialect) (t : Text) : Prop where
  /-- A token covers something and ends in the text, and a fault is one at the offset. -/
  told : ∀ i < t.length, Token.told d t i = .ok none ∨
    (∃ token, Token.told d t i = .error (.template ⟨.unclosed token, i⟩)) ∨
    ∃ kind n, Token.told d t i = .ok (some ⟨kind, n⟩) ∧ 0 < n ∧ i + n ≤ t.length
  parts : ∀ o ≤ t.length, Token.PartsWithin t o
  /-- The loop over a block comment passes something with each delimiter. -/
  delimiters : ∀ opener closer, d.blockComment = some (opener, closer) → opener ≠ [] ∧ closer ≠ []
  /-- The loop that lexes a text. -/
  step : ∀ i found j, Token.Step d t i found j → i < j ∧ j ≤ t.length
  steps : WellFounded fun j i => ∃ found, Token.Step d t i found j
  marks : FailsOnly (Failure.Unended t) (marks d t)
  /-- The loop over a code block takes the same steps, up to the brace that closes the block. -/
  inside : ∀ i < t.length, ∀ depth o, Inside d t i depth o → ∃ es, Token.Run d t (i + 1) es o
  scan : ∀ i < t.length,
    (∃ e, i < e ∧ e < t.length ∧ t[e]? = some '}' ∧ scanAt d t i 0 (i + 1) = .ok (e - (i + 1))) ∨
      ∃ f, scanAt d t i 0 (i + 1) = .error f ∧ f.Within t
  /-- The loop over a template takes turns, over a block in one of them. -/
  reached : ∀ o, Reached d t o ↔ Relation.ReflTransGen (Turn d t) 0 o
  turn : ∀ o o', Turn d t o o' → o < o' ∧ o' ≤ t.length
  turns : WellFounded fun o' o => Turn d t o o'
  segments : FailsOnly (Failure.Within t) (segments d t)

/-- In a dialect that was read, lexing makes progress and stays in the text, whatever the text is.
The markers of line comments are to be texts, not empty and without a line feed at their start; that
the delimiters of block comments are not empty is known from the record. -/
theorem lexing_advances {record : Json} (hread : Dialect.Record.read record = .ok d)
    (hmarkers : ∀ e ∈ d.lineComments, ∃ m, e = .text m ∧ m ≠ [] ∧ m.head? ≠ some '\n') (t : Text) :
    Advances d t := by
  have hd : d.Advancing := ⟨hmarkers, fun _ _ => Dialect.Record.delimiters_ne_nil hread⟩
  exact {
    told := fun _ => Token.told_cases hd
    parts := fun _ => Token.partsWithin
    delimiters := hd.delimiters
    step := fun _ _ _ => Token.Step.forward hd
    steps := wellFounded_of_forward fun _ _ ⟨_, h⟩ => h.forward hd
    marks := marks_failsWithin hd
    inside := fun _ hi _ _ => Inside.run hi
    scan := fun _ => scanAt_cases hd
    reached := fun _ => reached_iff
    turn := fun _ _ => Turn.forward
    turns := wellFounded_of_forward fun _ _ => Turn.forward
    segments := segments_failsWithin hd }

/-- In the block `{b"}" /*}*/}` a comment of five characters begins at offset six. -/
theorem lexing_advances_braces :
    Dialect.Record.read cuttableRecord = .ok cuttableDialect ∧
      Advances cuttableDialect cuttableText ∧
      Token.told cuttableDialect cuttableText 6 = .ok (some ⟨.comment, 5⟩) := by
  have hread : Dialect.Record.read cuttableRecord = .ok cuttableDialect := by cbv
  refine ⟨hread, lexing_advances hread (fun e he => ?_) cuttableText,
    Outcome.ok_of_toOption (by decide +kernel)⟩
  obtain rfl := List.mem_singleton.mp he
  exact ⟨['/', '/'], rfl, by decide, by decide⟩

end Stencil
