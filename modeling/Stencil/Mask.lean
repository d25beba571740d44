import Stencil.Token

/-!
# Masks

A text is lexed from its start: the opaque tokens are found one after the other, and what stands
between them is plain.  A mask is the text with the characters of some tokens blanked, so that
offsets and lines stay where they are.
-/

namespace Stencil

/-- What a character of a lexed text belongs to. -/
inductive Mark where
  /-- No token. -/
  | plain
  /-- The first character of a token. -/
  | opens (kind : Token.Kind)
  /-- A later character of a token. -/
  | inside (kind : Token.Kind)
deriving DecidableEq, Repr

def Mark.kind? : Mark → Option Token.Kind
  | .plain => none
  | .opens kind | .inside kind => some kind

/-- The marks of a text that stands at `offset` after the character `before`, and whose first
`pending` characters belong to a token of the given kind. -/
def marksFrom (d : Dialect) :
    (kind : Token.Kind) → (pending offset : Nat) → (before : Option Char) → Text →
      Except Failure (List Mark)
  | _, _, _, _, [] => .ok []
  | kind, pending + 1, offset, _, c :: t =>
    (marksFrom d kind pending (offset + 1) (some c) t).map (.inside kind :: ·)
  | kind, 0, offset, before, c :: t =>
    match Token.at? d before (c :: t) with
    | .error fault => .error (fault.at offset)
    | .ok none => (marksFrom d kind 0 (offset + 1) (some c) t).map (.plain :: ·)
    | .ok (some ⟨_, 0⟩) => .error .emptyComment
    | .ok (some ⟨kind, n + 1⟩) =>
      (marksFrom d kind n (offset + 1) (some c) t).map (.opens kind :: ·)

/-- The marks of the characters of a text that is lexed on its own. -/
def marks (d : Dialect) (t : Text) : Except Failure (List Mark) := marksFrom d .comment 0 0 none t

/-- A blanked character: line feeds are kept. -/
def blanked (c : Char) : Char := if c = '\n' then '\n' else ' '

/-- A text with the characters blanked whose marks are `hidden`. -/
def maskWith (hidden : Mark → Bool) (t : Text) (ms : List Mark) : Text :=
  List.zipWith (fun c m => if hidden m then blanked c else c) t ms

/-- Whether a character belongs to a token. -/
def Mark.isOpaque (m : Mark) : Bool := m.kind?.isSome

def Mark.isComment (m : Mark) : Bool := m.kind? = some .comment

/-- A text with its tokens blanked. -/
def mask (d : Dialect) (t : Text) : Except Failure Text :=
  (marks d t).map (maskWith Mark.isOpaque t)

/-- A text with its comments blanked. -/
def maskComments (d : Dialect) (t : Text) : Except Failure Text :=
  (marks d t).map (maskWith Mark.isComment t)

/-! ### Small laws -/

/-- A lexed text has one mark for each character. -/
theorem length_marksFrom {d : Dialect} {kind : Token.Kind} {pending offset : Nat}
    {before : Option Char} {t : Text} {ms : List Mark}
    (h : marksFrom d kind pending offset before t = .ok ms) : ms.length = t.length := by
  induction t generalizing kind pending offset before ms with
  | nil => cases pending <;> simp_all [marksFrom]
  | cons c t ih =>
    have step {r : Except Failure (List Mark)} {m : Mark} (hr : r.map (m :: ·) = .ok ms)
        (hlen : ∀ ms', r = .ok ms' → ms'.length = t.length) : ms.length = (c :: t).length := by
      cases r with
      | error => simp [Except.map] at hr
      | ok ms' => simp_all [Except.map]; subst hr; simp [hlen]
    cases pending with
    | succ n => exact step h fun _ h' => ih h'
    | zero =>
      rw [marksFrom] at h
      split at h
      · simp at h
      · exact step h fun _ h' => ih h'
      · simp at h
      · exact step h fun _ h' => ih h'

theorem length_maskWith (hidden : Mark → Bool) {t : Text} {ms : List Mark}
    (h : ms.length = t.length) : (maskWith hidden t ms).length = t.length := by
  simp [maskWith, h]

end Stencil
