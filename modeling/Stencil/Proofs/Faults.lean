import Stencil.Template
import Stencil.Proofs.FormatSpec
import Stencil.Proofs.Segment.Relexing
import Stencil.Proofs.Token.Swap

/-! # What a template is refused for

  Where the comments of a dialect open with a character of the line that they hide, a template is
  read without a failure that comes from the dialect: it is read, or a fault lies at a place in its
  text, or some digits in a format specifier spell no number.

  One lemma for each reader, in the order in which they call one another.
-/

namespace Stencil

open Outcome (FailsOnly)

variable {d : Dialect} {before : Option Char} {t : Text}

/-! ### Dialects whose comments cover something -/

/-- The comments of a dialect open with something, and a line comment with a character of the line
that it hides. -/
structure Dialect.Advancing (d : Dialect) : Prop where
  markers : ∀ e ∈ d.lineComments, ∃ m, e = .text m ∧ m ≠ [] ∧ m.head? ≠ some '\n'
  delimiters : ∀ opener closer, d.blockComment = some (opener, closer) →
    opener ≠ [] ∧ closer ≠ []

theorem Dialect.Regular.advancing (hd : d.Regular) : d.Advancing where
  markers e he := by
    obtain ⟨m, rfl, hne, hfeed⟩ := hd.markers e he
    exact ⟨m, rfl, hne, fun hhead => hfeed (List.mem_of_head? hhead)⟩
  delimiters := hd.delimiters

/-! ### Tokens -/

namespace Token

/-- Markers that are texts are looked for without a fault. -/
theorem lineComment_failsOnly (hd : d.Advancing) :
    FailsOnly (fun _ => False) (lineComment d before t d.lineComments) := by
  have among {markers : List Entry} (hsub : markers ⊆ d.lineComments) :
      FailsOnly (fun _ => False) (lineComment d before t markers) := by
    induction markers with
    | nil => exact .ok none
    | cons e markers ih =>
      obtain ⟨m, rfl, _⟩ := hd.markers e (hsub List.mem_cons_self)
      rw [lineComment]
      split
      · exact .ok _
      · exact ih fun e he => hsub (List.mem_cons_of_mem _ he)
  exact among fun _ he => he

theorem blockComment_failsOnly : FailsOnly (∃ u, · = LexFault.unclosed u) (blockComment d t) := by
  unfold blockComment
  split
  · exact .ok none
  · split
    · split
      · exact .ok _
      · exact .error ⟨_, rfl⟩
    · exact .ok none

/-- A token that cannot be told is one that does not end. -/
theorem at?_failsOnly (hd : d.Advancing) :
    FailsOnly (∃ u, · = LexFault.unclosed u) (at? d before t) := by
  have unclosed (x : Except Unclosed (Option Nat)) :
      FailsOnly (∃ u, · = LexFault.unclosed u) (x.mapError .unclosed) :=
    FailsOnly.mapError (P := fun _ => True) (fun _ _ => trivial) fun u _ => ⟨u, rfl⟩
  unfold at?
  refine FailsOnly.bind (fun e he => (lineComment_failsOnly hd e he).elim) fun line _ => ?_
  cases line with
  | some n => exact .ok _
  | none =>
  refine FailsOnly.bind blockComment_failsOnly fun block _ => ?_
  cases block with
  | some n => exact .ok _
  | none =>
  refine FailsOnly.bind (unclosed _) fun hashed _ => ?_
  cases hashed with
  | some n => exact .ok _
  | none =>
  refine FailsOnly.bind (unclosed _) fun quoted _ => ?_
  cases quoted with
  | some n => exact .ok _
  | none =>
  refine FailsOnly.bind (unclosed _) fun char _ => ?_
  cases char with
  | some n => exact .ok _
  | none => exact .ok none

/-- A token covers something. -/
theorem at?_length_ne_zero (hd : d.Advancing) {kind : Kind} {n : Nat}
    (h : at? d before t = .ok (some ⟨kind, n⟩)) : n ≠ 0 := by
  rw [at?_ok_iff] at h
  rcases h with ⟨n', hline, htoken⟩ | ⟨_, ⟨n', hblock, htoken⟩ | ⟨_, ⟨n', hhashed, htoken⟩ |
    ⟨_, ⟨n', hquoted, htoken⟩ | ⟨_, ⟨n', hchar, htoken⟩ | ⟨_, htoken⟩⟩⟩⟩⟩
  · obtain ⟨_, rfl⟩ := Token.mk.inj (Option.some.inj htoken)
    obtain ⟨m, hm, hpre, _⟩ := exists_marker hline
    obtain ⟨m', hm', hne, hfeed⟩ := hd.markers _ hm
    obtain rfl := Entry.text.inj hm'
    -- The marker begins on the line that the comment covers.
    obtain ⟨x, m, rfl⟩ := List.exists_cons_of_ne_nil hne
    obtain ⟨rest, rfl⟩ := List.isPrefixOf_iff_prefix.mp hpre
    have hx : x ≠ '\n' := fun hx => hfeed (congrArg some hx)
    rw [lineComment_length hline, List.cons_append, List.takeWhile_cons, if_pos (by simpa using hx)]
    exact Nat.succ_ne_zero _
  · obtain ⟨_, rfl⟩ := Token.mk.inj (Option.some.inj htoken)
    obtain ⟨opener, closer, u, rest, hb, _, rfl⟩ := blockComment_spec hblock
    have hlen := List.length_pos_iff.mpr (hd.delimiters _ _ hb).1
    omega
  · obtain ⟨_, rfl⟩ := Token.mk.inj (Option.some.inj htoken)
    obtain ⟨u, _, _, _, rfl, _⟩ := hashedString_ends hhashed
    exact Nat.succ_ne_zero _
  · obtain ⟨_, rfl⟩ := Token.mk.inj (Option.some.inj htoken)
    obtain ⟨u, _, _, _, rfl, _⟩ := quotedString_ends hquoted
    exact Nat.succ_ne_zero _
  · obtain ⟨_, rfl⟩ := Token.mk.inj (Option.some.inj htoken)
    obtain ⟨u, _, _, _, rfl, _⟩ := charLiteral_spec hchar
    exact Nat.succ_ne_zero _
  · simp at htoken

end Token

/-! ### Failures -/

/-- A reason to stop that lies in the text of a template: a fault at a place, or digits that spell
no number. -/
def Failure.InText : Failure → Prop
  | .template _ | .number _ => True
  | .marker _ | .emptyComment | .binding _ => False

/-- A token that does not end lies in the text. -/
theorem inText_at {fault : LexFault} {offset : Nat} (h : ∃ u, fault = .unclosed u) :
    (fault.at offset).InText := by
  obtain ⟨u, rfl⟩ := h
  exact trivial

/-! ### Segments -/

theorem marksFrom_failsOnly (hd : d.Advancing) (kind : Token.Kind) (pending offset : Nat) :
    FailsOnly Failure.InText (marksFrom d kind pending offset before t) := by
  induction t generalizing kind pending offset before with
  | nil => cases pending <;> exact .ok []
  | cons c t ih =>
    cases pending with
    | succ pending => exact (ih _ _ _).map _
    | zero =>
      rw [marksFrom]
      split
      · next h => exact .error (inText_at (Token.at?_failsOnly hd _ h))
      · exact (ih _ _ _).map _
      · next h => exact absurd rfl (Token.at?_length_ne_zero hd h)
      · exact (ih _ _ _).map _

theorem bodyLength_failsOnly (hd : d.Advancing) (opened depth pending offset : Nat) :
    FailsOnly Failure.InText (bodyLength d opened depth pending offset before t) := by
  induction t generalizing depth pending offset before with
  | nil => cases pending <;> exact .error trivial
  | cons c t ih =>
    cases pending with
    | succ pending => exact (ih _ _ _).map _
    | zero =>
      unfold bodyLength
      split
      · next h => exact .error (inText_at (Token.at?_failsOnly hd _ h))
      · next h => exact absurd rfl (Token.at?_length_ne_zero hd h)
      · exact (ih _ _ _).map _
      · split
        · exact (ih _ _ _).map _
        · split
          · cases depth with
            | zero => exact .ok 0
            | succ depth => exact (ih _ _ _).map _
          · exact (ih _ _ _).map _

theorem chunksFrom_failsOnly (hd : d.Advancing) (skip offset : Nat) :
    FailsOnly Failure.InText (chunksFrom d skip offset t) := by
  induction t generalizing skip offset with
  | nil => cases skip <;> exact .ok []
  | cons c t ih =>
    cases skip with
    | succ skip => exact ih _ _
    | zero =>
      rw [chunksFrom]
      split
      · exact (ih _ _).map _
      · split
        · exact (bodyLength_failsOnly hd _ _ _ _).bind fun _ _ => (ih _ _).map _
        · exact (ih _ _).map _

theorem segments_failsOnly (hd : d.Advancing) : FailsOnly Failure.InText (segments d t) := by
  refine (chunksFrom_failsOnly hd 0 0).bind fun chunks _ => ?_
  cases Segment.ofChunks 0 chunks with
  | nil => exact .ok _
  | cons s ss => exact .ok _

/-! ### Parts -/

theorem Block.read_failsOnly (hd : d.Advancing) (base : Int) :
    FailsOnly Failure.InText (Block.read d base t) := by
  intro f h
  cases hmarks : marks d t with
  | error e =>
    unfold Block.read at h
    rw [hmarks] at h
    obtain rfl := Except.error.inj h
    exact marksFrom_failsOnly hd _ _ _ _ hmarks
  | ok ms =>
    obtain ⟨offset, rfl⟩ := Block.read_error hmarks h
    exact trivial

/-- A specifier is refused at a place, or for its digits. -/
theorem FormatSpec.read_failsOnly (offset : Int) :
    FailsOnly Failure.InText (FormatSpec.read d offset t) := by
  refine (FormatSpec.read_inSpec d offset t).imp fun f hf => ?_
  cases f with
  | template e => exact trivial
  | number fault => exact trivial
  | marker value => exact hf.elim
  | emptyComment => exact hf.elim
  | binding fault => exact hf.elim

theorem Template.readPart_failsOnly (hd : d.Advancing) (s : Segment) :
    FailsOnly Failure.InText (readPart d s) := by
  unfold readPart
  cases s.kind with
  | literal => exact .ok _
  | code =>
    refine (Block.read_failsOnly hd _).bind fun b _ => ?_
    dsimp only
    split
    · exact ((FormatSpec.read_failsOnly _).map _).bind fun _ _ => .ok _
    · exact .ok _

/-- A template that is not read is refused for its text. -/
theorem Template.read_failsOnly (hd : d.Advancing) (t : Text) :
    FailsOnly Failure.InText (Template.read d t) :=
  (segments_failsOnly hd).bind fun _ _ =>
    (FailsOnly.mapM fun s _ => Template.readPart_failsOnly hd s).bind fun _ _ => .ok _

end Stencil
