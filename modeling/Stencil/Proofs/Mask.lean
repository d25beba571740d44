import Stencil.Dialect.Builtin
import Stencil.Proofs.Token.Run

/-! # Masks keep positions

  A mask differs from its text at the offsets that tokens of some kinds cover, and there it has
  blanks, but for the line feeds (`BlankedAt`). It is as long as its text, so that an offset or a
  line that is found in a mask is one of the text.

  * A mark tells the token that covers its character (`Lexed.kind_iff`).
  * The mask without comments is blanked where comments are, and the mask without tokens is that mask
    blanked where the other tokens are (`masks_keep_positions`).
-/

namespace Stencil

open Dialect (rust)
open Token (Extent)

variable {d : Dialect} {before : Option Char} {t m : Text} {ms : List Mark} {i : Nat}

/-! ### Blanked texts -/

/-- Among some tokens there is one that covers an offset, of a kind that passes a test. -/
def CoveredBy (es : List Extent) (test : Token.Kind → Prop) (i : Nat) : Prop :=
  ∃ e ∈ es, test e.kind ∧ e.Covers i

/-- The text `m` is the text `t` with the characters blanked whose offsets are `hidden`. -/
structure BlankedAt (hidden : Nat → Prop) (t m : Text) : Prop where
  length : m.length = t.length
  feeds : ∀ i : Nat, m[i]? = some '\n' ↔ t[i]? = some '\n'
  shown : ∀ i, ¬ hidden i → m[i]? = t[i]?
  blanks : ∀ i c, hidden i → t[i]? = some c → c ≠ '\n' → m[i]? = some ' '

theorem BlankedAt.of_iff {p q : Nat → Prop} (h : BlankedAt p t m) (hpq : ∀ i, p i ↔ q i) :
    BlankedAt q t m where
  length := h.length
  feeds := h.feeds
  shown i hq := h.shown i fun hp => hq ((hpq i).mp hp)
  blanks i c hq := h.blanks i c ((hpq i).mpr hq)

theorem blanked_eq_feed_iff (c : Char) : blanked c = '\n' ↔ c = '\n' := by
  unfold blanked
  split
  · next hc => exact ⟨fun _ => hc, fun _ => rfl⟩
  · next hc => exact ⟨fun h => absurd h (by decide), fun h => absurd h hc⟩

/-- A mask is blanked where the marks are hidden. -/
theorem blankedAt_maskWith (hidden : Mark → Bool) (hlen : ms.length = t.length) :
    BlankedAt (fun i => ∃ mark, ms[i]? = some mark ∧ hidden mark = true) t
      (maskWith hidden t ms) := by
  -- A character is shown or blanked by its own mark.
  have hat {i : Nat} {c : Char} (hc : t[i]? = some c) : ∃ mark, ms[i]? = some mark ∧
      (maskWith hidden t ms)[i]? = some (if hidden mark then blanked c else c) := by
    have hi : i < ms.length := hlen ▸ (List.getElem?_eq_some_iff.mp hc).1
    have hmark := List.getElem?_eq_getElem hi
    exact ⟨ms[i], hmark, by rw [getElem?_maskWith_of_mark hidden hmark, hc, Option.map_some]⟩
  have hnone {i : Nat} (hc : t[i]? = none) : (maskWith hidden t ms)[i]? = none := by
    rw [List.getElem?_eq_none_iff] at hc ⊢
    rwa [length_maskWith hidden hlen]
  constructor
  · exact length_maskWith hidden hlen
  · intro i
    cases hc : t[i]? with
    | none => rw [hnone hc]
    | some c =>
      obtain ⟨mark, _, hmask⟩ := hat hc
      rw [hmask, Option.some.injEq, Option.some.injEq]
      split
      · exact blanked_eq_feed_iff c
      · rfl
  · intro i hshown
    cases hc : t[i]? with
    | none => exact hnone hc
    | some c =>
      obtain ⟨mark, hmark, hmask⟩ := hat hc
      rw [hmask, if_neg fun h => hshown ⟨mark, hmark, h⟩]
  · intro i c hhidden hc hfeed
    obtain ⟨mark, hmark, hmask⟩ := hat hc
    obtain ⟨mark', hmark', h⟩ := hhidden
    obtain rfl : mark = mark' := Option.some.inj (hmark.symm.trans hmark')
    rw [hmask, if_pos h, blanked, if_neg hfeed]

/-- A mask of a mask hides what either of them hides. -/
theorem maskWith_maskWith {p q r : Mark → Bool} (h : ∀ mark, r mark = (p mark || q mark)) :
    maskWith q (maskWith p t ms) ms = maskWith r t ms := by
  have hblanked (c : Char) : blanked (blanked c) = blanked c := by
    unfold blanked
    split <;> rfl
  unfold maskWith
  induction t generalizing ms with
  | nil => rfl
  | cons c t ih =>
    cases ms with
    | nil => rfl
    | cons mark ms =>
      refine congrArg₂ List.cons ?_ ih
      dsimp only
      rw [h]
      cases p mark <;> cases q mark <;> simp [hblanked]

/-! ### Marks and tokens -/

section token
variable {kind : Token.Kind} {n offset : Nat} {e : Extent} {es : List Extent}
  {test : Token.Kind → Prop}

theorem coveredBy_cons :
    CoveredBy (e :: es) test i ↔ (test e.kind ∧ e.Covers i) ∨ CoveredBy es test i := by
  simp [CoveredBy]

/-- Tokens cover nothing before the offset that they begin at. -/
theorem not_coveredBy_of_lt (hi : i < offset) : ¬ CoveredBy (tokensFrom offset ms) test i := by
  rintro ⟨e, he, _, hcovers⟩
  have hstart := (stop_le_of_mem_tokensFrom he).1
  exact Nat.not_lt.mpr (hstart.trans hcovers.1) hi

theorem kind_in_token (hi : i < n + 1) :
    (Mark.opens kind :: (List.replicate n (.inside kind) ++ ms))[i]?.bind Mark.kind? =
      some kind := by
  cases i with
  | zero => rfl
  | succ i =>
    have hi := Nat.lt_of_succ_lt_succ hi
    rw [List.getElem?_cons_succ, List.getElem?_append_left (by rwa [List.length_replicate]),
      List.getElem?_replicate_of_lt hi]
    rfl

theorem getElem?_behind_token (i : Nat) :
    (Mark.opens kind :: (List.replicate n (.inside kind) ++ ms))[n + 1 + i]? = ms[i]? := by
  have hlen : (Mark.opens kind :: List.replicate n (.inside kind)).length = n + 1 := by simp
  rw [← List.cons_append, List.getElem?_append_right (by omega), hlen, Nat.add_sub_cancel_left]

end token

/-- A character of a lexed text has a mark of the kind of the token that covers it. -/
theorem Lexed.kind_iff (h : Lexed d before t ms) (offset : Nat) {i : Nat} {kind : Token.Kind} :
    ms[i]?.bind Mark.kind? = some kind ↔
      CoveredBy (tokensFrom offset ms) (· = kind) (offset + i) := by
  induction h generalizing offset i with
  | nil => simp [tokensFrom, CoveredBy]
  | @plain _ _ _ ms _ _ ih =>
    rw [tokensFrom]
    cases i with
    | zero =>
      refine ⟨fun hkind => ?_, fun hcovered => ?_⟩
      · cases hkind
      · exact absurd hcovered (not_coveredBy_of_lt (Nat.lt_succ_self offset))
    | succ i =>
      have hrest := ih (offset + 1) (i := i)
      rwa [Nat.add_right_comm, Nat.add_assoc] at hrest
  | @token _ kind' c x t ms _ next ih =>
    rw [tokensFrom_token _ _ _ next.head_ne_inside, coveredBy_cons]
    by_cases hi : i < x.length + 1
    · -- The character stands in the first token, and in none behind it.
      have hstop : offset + i < offset + (x.length + 1) := Nat.add_lt_add_left hi offset
      rw [kind_in_token hi, Option.some.injEq]
      constructor
      · exact fun hkind => .inl ⟨hkind, Nat.le_add_right _ _, hstop⟩
      · exact fun h => (h.resolve_right (not_coveredBy_of_lt hstop)).1
    · -- The character stands behind the first token.
      obtain ⟨i, rfl⟩ := Nat.exists_eq_add_of_le (Nat.not_lt.mp hi)
      rw [getElem?_behind_token, ih (offset + (x.length + 1)), Nat.add_assoc]
      constructor
      · exact .inr
      · intro h
        refine h.resolve_left fun hfirst => ?_
        have hstop : offset + (x.length + 1 + i) < offset + (x.length + 1) := hfirst.2.2
        omega

/-- Marks that are hidden by their kind are those of the tokens of such a kind. -/
theorem Lexed.hidden_iff (h : Lexed d before t ms) {hidden : Mark → Bool} {test : Token.Kind → Prop}
    (hhidden : ∀ mark, hidden mark = true ↔ ∃ kind, mark.kind? = some kind ∧ test kind) :
    (∃ mark, ms[i]? = some mark ∧ hidden mark = true) ↔ CoveredBy (tokensFrom 0 ms) test i := by
  have hkind (kind : Token.Kind) : (∃ mark, ms[i]? = some mark ∧ mark.kind? = some kind) ↔
      CoveredBy (tokensFrom 0 ms) (· = kind) i := by
    rw [← Option.bind_eq_some_iff, h.kind_iff 0, Nat.zero_add]
  constructor
  · rintro ⟨mark, hmark, h⟩
    obtain ⟨kind, hk, htest⟩ := (hhidden mark).mp h
    obtain ⟨e, he, rfl, hcovers⟩ := (hkind kind).mp ⟨mark, hmark, hk⟩
    exact ⟨e, he, htest, hcovers⟩
  · rintro ⟨e, he, htest, hcovers⟩
    obtain ⟨mark, hmark, hk⟩ := (hkind e.kind).mpr ⟨e, he, rfl, hcovers⟩
    exact ⟨mark, hmark, (hhidden mark).mpr ⟨e.kind, hk, htest⟩⟩

/-! ### The masks of a text -/

/-- Tokens that a text is lexed into: one behind the other they are what is told at their offsets,
and between them no token is told. -/
structure TokensOf (d : Dialect) (t : Text) (es : List Extent) : Prop where
  run : Token.Run d t 0 es t.length
  covers : ∀ e ∈ es, e.start < e.stop ∧ e.stop ≤ t.length
  told : ∀ e ∈ es, Token.atOffset? d t e.start = .ok (some ⟨e.kind, e.stop - e.start⟩)
  ordered : es.Pairwise fun a b => a.stop ≤ b.start
  between : ∀ i < t.length, (∀ e ∈ es, ¬ e.Covers i) → Token.atOffset? d t i = .ok none

theorem tokensOf_marks (h : marks d t = .ok ms) : TokensOf d t (tokensFrom 0 ms) := by
  have hends := marks_ends (d := d) (t := t)
  rw [h] at hends
  cases hends with
  | finished hrun =>
    exact ⟨hrun, fun e he => ⟨start_lt_stop_of_mem_tokensFrom he, (hrun.within.2 e he).2⟩, hrun.told,
      hrun.ordered, fun i hi => hrun.none_between (Nat.zero_le i) hi⟩

/-- Both masks of a text have its characters where they show them, and blanks and its line feeds
elsewhere: the one hides its comments, and the other one its other tokens as well. -/
theorem masks_keep_positions
    (h : (∃ full, mask d t = .ok full) ∨ ∃ visible, maskComments d t = .ok visible) :
    ∃ es full visible, mask d t = .ok full ∧ maskComments d t = .ok visible ∧ TokensOf d t es ∧
      BlankedAt (CoveredBy es (· = .comment)) t visible ∧
      BlankedAt (CoveredBy es (· ≠ .comment)) visible full ∧
      BlankedAt (CoveredBy es fun _ => True) t full := by
  obtain ⟨ms, hms⟩ : ∃ ms, marks d t = .ok ms :=
    h.elim Outcome.exists_map_ok_iff.mp Outcome.exists_map_ok_iff.mp
  have hlexed := marks_ok_iff.mp hms
  have hvisible := length_maskWith Mark.isComment hlexed.length_eq
  -- Of the mask without comments only the other tokens are left to hide.
  have hfull : maskWith (fun mark => mark.isOpaque && !mark.isComment)
      (maskWith Mark.isComment t ms) ms = maskWith Mark.isOpaque t ms := by
    refine maskWith_maskWith fun mark => ?_
    unfold Mark.isOpaque Mark.isComment
    cases mark.kind? with
    | none => rfl
    | some kind => cases kind <;> rfl
  refine ⟨tokensFrom 0 ms, maskWith Mark.isOpaque t ms, maskWith Mark.isComment t ms,
    Outcome.map_ok_iff.mpr ⟨ms, hms, rfl⟩, Outcome.map_ok_iff.mpr ⟨ms, hms, rfl⟩,
    tokensOf_marks hms, ?_, ?_, ?_⟩
  · refine (blankedAt_maskWith _ hlexed.length_eq).of_iff fun i => hlexed.hidden_iff fun mark => ?_
    simp [Mark.isComment]
  · rw [← hfull]
    refine (blankedAt_maskWith _ (hlexed.length_eq.trans hvisible.symm)).of_iff fun i =>
      hlexed.hidden_iff fun mark => ?_
    unfold Mark.isOpaque Mark.isComment
    cases mark.kind? <;> simp
  · refine (blankedAt_maskWith _ hlexed.length_eq).of_iff fun i => hlexed.hidden_iff fun mark => ?_
    simp [Mark.isOpaque, Option.isSome_iff_exists]

/-- A string, a comment, and a character on the next line. -/
def twoTokens : Text := ['"', 'a', '"', '/', '/', 'b', '\n', 'c']

theorem masks_keep_positions_two :
    mask rust twoTokens = .ok [' ', ' ', ' ', ' ', ' ', ' ', '\n', 'c'] ∧
      ∃ es visible, maskComments rust twoTokens = .ok visible ∧ TokensOf rust twoTokens es ∧
        BlankedAt (CoveredBy es (· = .comment)) twoTokens visible ∧
        visible[5]? = some ' ' := by
  have hmask : mask rust twoTokens = .ok [' ', ' ', ' ', ' ', ' ', ' ', '\n', 'c'] :=
    Outcome.ok_of_toOption (by decide +kernel)
  have hcomments : maskComments rust twoTokens = .ok ['"', 'a', '"', ' ', ' ', ' ', '\n', 'c'] :=
    Outcome.ok_of_toOption (by decide +kernel)
  obtain ⟨es, full, visible, _, hvisible, htokens, hblanked, _⟩ :=
    masks_keep_positions (.inl ⟨_, hmask⟩)
  refine ⟨hmask, es, visible, hvisible, htokens, hblanked, ?_⟩
  rw [hcomments] at hvisible
  obtain rfl := Except.ok.inj hvisible
  rfl

end Stencil
