import Stencil.Mask
import Stencil.Segment
import Stencil.Proofs.Outcome

/-! # The scan of a code block

  The scan that looks for the brace at the end of a code block steps over tokens on its way. It
  only answers with a length, so the tokens are brought out here: `bodyMarks` is the same scan with
  a mark for each character that it passed, and `length_bodyMarks` says that it is the same.

  `BodyScan` is a scan that succeeds, as a derivation: one rule for each thing that the scan can do
  at a character. Everything that is proved of a scan goes by induction on that derivation.
-/

namespace Stencil

/-! ### The tokens that a scan steps over -/

/-- The scan of `bodyLength`, with the mark of each character that it passes. The first `pending`
characters belong to a token of the given kind. -/
def bodyMarks (d : Dialect) (opened : Nat) :
    (depth : Nat) → (kind : Token.Kind) → (pending offset : Nat) → (before : Option Char) → Text →
      Except Failure (List Mark)
  | depth, _, _, offset, _, [] => .error (.template ⟨.unbalanced opened (depth + 1), offset⟩)
  | depth, kind, pending + 1, offset, _, c :: t =>
    (bodyMarks d opened depth kind pending (offset + 1) (some c) t).map (.inside kind :: ·)
  | depth, kind, 0, offset, before, c :: t =>
    match Token.at? d before (c :: t) with
    | .error fault => .error (fault.at offset)
    | .ok (some ⟨_, 0⟩) => .error .emptyComment
    | .ok (some ⟨kind, n + 1⟩) =>
      (bodyMarks d opened depth kind n (offset + 1) (some c) t).map (.opens kind :: ·)
    | .ok none =>
      if c = '{' then
        (bodyMarks d opened (depth + 1) kind 0 (offset + 1) (some c) t).map (.plain :: ·)
      else if c = '}' then
        match depth with
        | 0 => .ok []
        | depth + 1 =>
          (bodyMarks d opened depth kind 0 (offset + 1) (some c) t).map (.plain :: ·)
      else (bodyMarks d opened depth kind 0 (offset + 1) (some c) t).map (.plain :: ·)

theorem map_length_cons (x : Except Failure (List Mark)) (m : Mark) :
    (x.map (m :: ·)).map List.length = (x.map List.length).map (· + 1) := by
  cases x <;> rfl

/-- The scan with marks is the scan without them: it stops at the same brace, or with the same
failure. -/
theorem length_bodyMarks (d : Dialect) (opened depth : Nat) (kind : Token.Kind)
    (pending offset : Nat) (before : Option Char) (t : Text) :
    (bodyMarks d opened depth kind pending offset before t).map List.length =
      bodyLength d opened depth pending offset before t := by
  induction t generalizing depth kind pending offset before with
  | nil => cases pending <;> rfl
  | cons c t ih =>
    cases pending with
    | succ pending => rw [bodyMarks, bodyLength, map_length_cons, ih]
    | zero =>
      unfold bodyMarks bodyLength
      cases Token.at? d before (c :: t) with
      | error fault => rfl
      | ok found =>
        -- No token, a comment without characters, and any other token.
        rcases found with _ | ⟨kind', _ | n⟩
        · dsimp only
          split
          · rw [map_length_cons, ih]
          split
          · cases depth with
            | zero => rfl
            | succ depth =>
              dsimp only
              rw [map_length_cons, ih]
          · rw [map_length_cons, ih]
        · rfl
        · dsimp only
          rw [map_length_cons, ih]

/-! ### Scans that succeed -/

/-- A scan over `body` that ends at the brace before `rest`, with the marks of what it passed. It
starts after the character `before` with `depth` more braces open, and the first `pending`
characters belong to a token of the given kind. -/
inductive BodyScan (d : Dialect) : (depth : Nat) → (kind : Token.Kind) → (pending : Nat) →
    (before : Option Char) → (body rest : Text) → List Mark → Prop
  /-- The brace that closes the block. -/
  | close {kind before rest} (h : Token.at? d before ('}' :: rest) = .ok none) :
      BodyScan d 0 kind 0 before [] rest []
  /-- A later character of a token. -/
  | inside {depth kind pending before c body rest ms}
      (next : BodyScan d depth kind pending (some c) body rest ms) :
      BodyScan d depth kind (pending + 1) before (c :: body) rest (.inside kind :: ms)
  /-- The first character of a token. -/
  | token {depth kind kind' n before c body rest ms}
      (h : Token.at? d before (c :: (body ++ '}' :: rest)) = .ok (some ⟨kind', n + 1⟩))
      (next : BodyScan d depth kind' n (some c) body rest ms) :
      BodyScan d depth kind 0 before (c :: body) rest (.opens kind' :: ms)
  /-- A brace that opens. -/
  | up {depth kind before body rest ms}
      (h : Token.at? d before ('{' :: (body ++ '}' :: rest)) = .ok none)
      (next : BodyScan d (depth + 1) kind 0 (some '{') body rest ms) :
      BodyScan d depth kind 0 before ('{' :: body) rest (.plain :: ms)
  /-- A brace that closes another one than that of the block. -/
  | down {depth kind before body rest ms}
      (h : Token.at? d before ('}' :: (body ++ '}' :: rest)) = .ok none)
      (next : BodyScan d depth kind 0 (some '}') body rest ms) :
      BodyScan d (depth + 1) kind 0 before ('}' :: body) rest (.plain :: ms)
  /-- Any other character. -/
  | plain {depth kind before c body rest ms}
      (h : Token.at? d before (c :: (body ++ '}' :: rest)) = .ok none)
      (hopen : c ≠ '{') (hclose : c ≠ '}')
      (next : BodyScan d depth kind 0 (some c) body rest ms) :
      BodyScan d depth kind 0 before (c :: body) rest (.plain :: ms)

/-- A scan with marks that succeeds has a derivation, and its text goes on with a brace. -/
theorem bodyScan_of_bodyMarks {d : Dialect} {opened depth : Nat} {kind : Token.Kind}
    {pending offset : Nat} {before : Option Char} {t : Text} {ms : List Mark}
    (h : bodyMarks d opened depth kind pending offset before t = .ok ms) :
    ∃ body rest, t = body ++ '}' :: rest ∧ BodyScan d depth kind pending before body rest ms := by
  induction t generalizing depth kind pending offset before ms with
  | nil => cases pending <;> simp [bodyMarks] at h
  | cons c t ih =>
    cases pending with
    | succ pending =>
      rw [bodyMarks] at h
      obtain ⟨ms, hms, rfl⟩ := Outcome.map_ok_iff.mp h
      obtain ⟨body, rest, rfl, hscan⟩ := ih hms
      exact ⟨c :: body, rest, rfl, .inside hscan⟩
    | zero =>
      unfold bodyMarks at h
      split at h
      · simp at h
      · simp at h
      · next kind' n htoken =>
        obtain ⟨ms, hms, rfl⟩ := Outcome.map_ok_iff.mp h
        obtain ⟨body, rest, rfl, hscan⟩ := ih hms
        exact ⟨c :: body, rest, rfl, .token htoken hscan⟩
      · next htoken =>
        split at h
        · next hopen =>
          subst hopen
          obtain ⟨ms, hms, rfl⟩ := Outcome.map_ok_iff.mp h
          obtain ⟨body, rest, rfl, hscan⟩ := ih hms
          exact ⟨'{' :: body, rest, rfl, .up htoken hscan⟩
        · next hopen =>
          split at h
          · next hclose =>
            subst hclose
            -- Where no other brace is open the scan stops, and nothing is passed.
            cases depth with
            | zero =>
              obtain rfl : [] = ms := Except.ok.inj h
              exact ⟨[], t, rfl, .close htoken⟩
            | succ depth =>
              obtain ⟨ms, hms, rfl⟩ := Outcome.map_ok_iff.mp h
              obtain ⟨body, rest, rfl, hscan⟩ := ih hms
              exact ⟨'}' :: body, rest, rfl, .down htoken hscan⟩
          · next hclose =>
            obtain ⟨ms, hms, rfl⟩ := Outcome.map_ok_iff.mp h
            obtain ⟨body, rest, rfl, hscan⟩ := ih hms
            exact ⟨c :: body, rest, rfl, .plain htoken hopen hclose hscan⟩

namespace BodyScan

variable {d : Dialect} {depth pending : Nat} {kind : Token.Kind} {before : Option Char}
  {body rest : Text} {ms : List Mark}

theorem length_eq (h : BodyScan d depth kind pending before body rest ms) :
    ms.length = body.length := by
  induction h with
  | close => rfl
  | inside _ ih => rw [List.length_cons, List.length_cons, ih]
  | token _ _ ih => rw [List.length_cons, List.length_cons, ih]
  | up _ _ ih => rw [List.length_cons, List.length_cons, ih]
  | down _ _ ih => rw [List.length_cons, List.length_cons, ih]
  | plain _ _ _ _ ih => rw [List.length_cons, List.length_cons, ih]

/-- The scan ends outside tokens, so that every token ends within the body. -/
theorem pending_le (h : BodyScan d depth kind pending before body rest ms) :
    pending ≤ body.length := by
  induction h with
  | inside _ ih => exact Nat.succ_le_succ ih
  | close => exact Nat.zero_le _
  | token => exact Nat.zero_le _
  | up => exact Nat.zero_le _
  | down => exact Nat.zero_le _
  | plain => exact Nat.zero_le _

end BodyScan

/-- The scan for the end of a code block stops at a brace, and what it passed is a derivation. -/
theorem bodyScan_of_bodyLength {d : Dialect} {opened offset n : Nat} {before : Option Char}
    {t : Text} (h : bodyLength d opened 0 0 offset before t = .ok n) :
    ∃ body rest ms, t = body ++ '}' :: rest ∧ body.length = n ∧
      bodyMarks d opened 0 .comment 0 offset before t = .ok ms ∧
      BodyScan d 0 .comment 0 before body rest ms := by
  rw [← length_bodyMarks d opened 0 .comment 0 offset before t] at h
  obtain ⟨ms, hms, rfl⟩ := Outcome.map_ok_iff.mp h
  obtain ⟨body, rest, htext, hscan⟩ := bodyScan_of_bodyMarks hms
  exact ⟨body, rest, ms, htext, hscan.length_eq.symm, hms, hscan⟩

end Stencil
