import Stencil.Proofs.Dialect.Builtin
import Stencil.Proofs.Token.Lexed

/-! # Edges of tokens

  How tokens meet what stands around them. A string or a character literal ends with a quote or with
  a hash, and a comment ends with its closing mark or at the end of a line. So no token of a built-in
  dialect begins or ends within a word: of two neighbours of which one belongs to a token and the
  other to none, at most one is a character of a word (`Lexed.not_word_behind`,
  `Lexed.not_word_before`).
-/

namespace Stencil

variable {d : Dialect} {before : Option Char} {c : Char} {t x : Text} {ms : List Mark}

/-! ### Ends of tokens -/

namespace Token

/-- The end of a text that a token behind it does not look at: neither a word nor a colon. -/
def Neutral (before : Option Char) : Prop := ∀ c ∈ before, isWordChar c = false ∧ c ≠ ':'

theorem at?_of_neutral (h : Neutral before) (t : Text) : at? d before t = at? d none t := by
  cases before with
  | none => rfl
  | some c => exact at?_after (h c rfl).1 (h c rfl).2 t

theorem neutral_of_isBlank (h : ∀ c ∈ before, isBlank c = true) : Neutral before := by
  intro c hc
  exact ⟨Dialect.isWordChar_of_isBlank (h c hc), Dialect.ne_of_isBlank (h c hc) (by decide)⟩

theorem neutral_blank (h : isBlank c = true) : Neutral (some c) :=
  neutral_of_isBlank fun x hx => by
    obtain rfl := Option.some.inj hx
    exact h

/-- The token at the start of a text, with its last character. -/
theorem getLast?_of_length {u rest : Text} {q : Char} (h : c :: (x ++ t) = u ++ q :: rest)
    (hlen : x.length + 1 = u.length + 1) : (c :: x).getLast? = some q := by
  have hsplit : (c :: x) ++ t = (u ++ [q]) ++ rest := by
    rw [List.append_assoc]
    exact h
  obtain ⟨hx, _⟩ := List.append_inj hsplit (by
    rw [List.length_cons, List.length_append, List.length_singleton]
    exact hlen)
  rw [hx, List.getLast?_concat]

/-- A string or a character literal ends with a quote or with a hash. -/
theorem literal_ends {kind : Kind} (hkind : kind ≠ .comment)
    (h : at? d before (c :: (x ++ t)) = .ok (some ⟨kind, x.length + 1⟩)) :
    ∃ q, (c :: x).getLast? = some q ∧
      (q = '"' ∨ q = '#' ∨ d.isQuote q = true ∨ d.charQuote = some q) := by
  rw [at?_ok_iff] at h
  rcases h with ⟨n, _, htoken⟩ | ⟨_, ⟨n, _, htoken⟩ | ⟨_, ⟨n, h, htoken⟩ |
    ⟨_, ⟨n, h, htoken⟩ | ⟨_, ⟨n, h, htoken⟩ | ⟨_, htoken⟩⟩⟩⟩⟩
  · exact absurd (congrArg Token.kind (Option.some.inj htoken)) hkind
  · exact absurd (congrArg Token.kind (Option.some.inj htoken)) hkind
  · obtain ⟨u, q, rest, ht, hn, _, hq⟩ := hashedString_ends h
    have hlen := (congrArg Token.length (Option.some.inj htoken)).trans hn
    refine ⟨q, getLast?_of_length ht hlen, ?_⟩
    rcases hq with hq | hq
    · exact .inl hq
    · exact .inr (.inl hq)
  · obtain ⟨u, q, rest, ht, hn, hq⟩ := quotedString_ends h
    have hlen := (congrArg Token.length (Option.some.inj htoken)).trans hn
    exact ⟨q, getLast?_of_length ht hlen, .inr (.inr (.inl hq))⟩
  · obtain ⟨u, q, rest, ht, hn, hq⟩ := charLiteral_spec h
    have hlen := (congrArg Token.length (Option.some.inj htoken)).trans hn
    exact ⟨q, getLast?_of_length (u := q :: u) ht hlen, .inr (.inr (.inr hq))⟩
  · simp at htoken

/-- A string or a character literal does not end in a blank. -/
theorem literal_last (hblank : ∀ b, isBlank b = true → d.Inert b) {kind : Kind}
    (hkind : kind ≠ .comment)
    (h : at? d before (c :: (x ++ t)) = .ok (some ⟨kind, x.length + 1⟩)) :
    ∃ q, (c :: x).getLast? = some q ∧ isBlank q = false := by
  obtain ⟨q, hlast, hq⟩ := literal_ends hkind h
  refine ⟨q, hlast, Bool.eq_false_iff.mpr fun hb => ?_⟩
  have hinert := hblank q hb
  rcases hq with rfl | rfl | hq | hq
  · exact absurd hb (by decide)
  · exact absurd hb (by decide)
  · rw [hinert.noQuote] at hq
    exact absurd hq (by decide)
  · exact hinert.noChar hq

/-- No blanks are at the end of a string or a character literal. -/
theorem literal_no_blanks (hblank : ∀ b, isBlank b = true → d.Inert b) {kind : Kind}
    (hkind : kind ≠ .comment)
    (h : at? d before (c :: (x ++ t)) = .ok (some ⟨kind, x.length + 1⟩)) {r w : Text}
    (hx : c :: x = r ++ w) (hw : w.all isBlank = true) : w = [] := by
  apply Classical.byContradiction
  intro hne
  obtain ⟨q, hq, hqblank⟩ := literal_last hblank hkind h
  rw [hx, List.getLast?_append, List.getLast?_eq_some_getLast hne] at hq
  obtain rfl := Option.some.inj hq
  rw [List.all_eq_true.mp hw _ (List.getLast_mem hne)] at hqblank
  exact absurd hqblank (by decide)

/-- Block comments are closed by what a token behind them does not look at. -/
def ClosesNeutral (d : Dialect) : Prop :=
  ∀ opener closer, d.blockComment = some (opener, closer) →
    ∃ u q, closer = u ++ [q] ∧ Neutral (some q)

/-- Behind a comment the line ends, or the comment ends in what a token behind it does not look
at. -/
theorem comment_last (hclose : ClosesNeutral d)
    (h : at? d before (c :: (x ++ t)) = .ok (some ⟨.comment, x.length + 1⟩)) :
    (∀ y ∈ t.head?, y = '\n') ∨ Neutral (c :: x).getLast? := by
  rcases at?_comment h with h | h
  · left
    exact (lineComment_ends (r := c :: x) h).2
  · right
    obtain ⟨opener, closer, u, rest, hb, ht, hn⟩ := blockComment_spec h
    obtain ⟨v, q, rfl, hq⟩ := hclose opener closer hb
    rw [List.length_append, List.length_singleton] at hn
    have hsplit : c :: (x ++ t) = (opener ++ (u ++ v)) ++ q :: rest := by
      rw [ht]
      simp
    rw [getLast?_of_length hsplit (by simp only [List.length_append]; omega)]
    exact hq

theorem closesNeutral_of_builtin (hd : d = Dialect.rust ∨ d = Dialect.python) :
    ClosesNeutral d := by
  intro opener closer hb
  rcases hd with rfl | rfl
  · have hblock : Dialect.rust.blockComment = some (['/', '*'], ['*', '/']) := rfl
    rw [hblock, Option.some.injEq, Prod.mk.injEq] at hb
    refine ⟨['*'], '/', hb.2.symm, ?_⟩
    rintro c hc
    obtain rfl := Option.some.inj hc
    exact ⟨by decide, by decide⟩
  · have hblock : Dialect.python.blockComment = none := rfl
    rw [hblock] at hb
    cases hb

/-! ### Words -/

/-- No character of a word opens a comment of the dialect, or is a quote of it. -/
structure WordFree (d : Dialect) : Prop where
  comments : ∀ y, d.OpensComment y → isWordChar y = false
  quotes : ∀ q, d.isQuote q = true → isWordChar q = false
  chars : ∀ q, d.charQuote = some q → isWordChar q = false

theorem wordFree_of_builtin (hd : d = Dialect.rust ∨ d = Dialect.python) : WordFree d := by
  rcases hd with rfl | rfl
  · refine ⟨fun y hy => ?_, fun q hq => ?_, fun q hq => ?_⟩
    · obtain rfl := Dialect.rust_opensComment hy
      decide
    · obtain rfl := Dialect.rust_isQuote_iff.mp hq
      decide
    · obtain rfl : '\'' = q := Option.some.inj hq
      decide
  · refine ⟨fun y hy => ?_, fun q hq => ?_, fun q hq => ?_⟩
    · obtain rfl := Dialect.python_opensComment hy
      decide
    · rcases Dialect.python_isQuote_iff.mp hq with rfl | rfl <;> decide
    · have hchar : Dialect.python.charQuote = none := rfl
      rw [hchar] at hq
      cases hq

/-- Inside a word no token opens: the letters in front of a string are no part of a longer word. -/
theorem not_word_of_at? (hd : d.Regular) (hfree : WordFree d) {token : Token}
    (hbefore : before.any isWordChar = true) (h : at? d before (c :: t) = .ok (some token)) :
    isWordChar c = false := by
  have hlead : lead d before (c :: t) = ⟨0, false⟩ := by
    unfold lead
    rw [if_pos hbefore]
  have hcomment {n : Nat} (h : at? d before (c :: t) = .ok (some ⟨.comment, n⟩)) :
      isWordChar c = false := hfree.comments c (opensComment_of_at? hd h)
  have hall := h
  rw [at?_ok_iff] at h
  rcases h with ⟨n, _, htoken⟩ | ⟨_, ⟨n, _, htoken⟩ | ⟨_, ⟨n, h, _⟩ |
    ⟨_, ⟨n, h, _⟩ | ⟨_, ⟨n, h, _⟩ | ⟨_, htoken⟩⟩⟩⟩⟩
  · exact hcomment (hall.trans (by rw [htoken]))
  · exact hcomment (hall.trans (by rw [htoken]))
  · -- A raw string with hashes begins with a letter, and so not inside a word.
    unfold hashedString at h
    rw [hlead, hbefore] at h
    simp at h
  · unfold quotedString at h
    rw [hlead] at h
    dsimp only [List.drop_zero] at h
    split at h
    · next hhead =>
      obtain ⟨rfl, _⟩ := List.cons.inj hhead
      split at h
      · next hquote => exact hfree.quotes c hquote
      · simp at h
    · simp at h
  · obtain ⟨u, q, rest, ht, _, hq⟩ := charLiteral_spec h
    obtain ⟨rfl, _⟩ := List.cons.inj ht
    exact hfree.chars c hq
  · simp at htoken

/-- A token ends with no character of a word, or the line ends behind it. -/
theorem token_last (hfree : WordFree d) (hclose : ClosesNeutral d) {kind : Kind}
    (h : at? d before (c :: (x ++ t)) = .ok (some ⟨kind, x.length + 1⟩)) :
    (∀ y ∈ t.head?, y = '\n') ∨ ∀ q ∈ (c :: x).getLast?, isWordChar q = false := by
  by_cases hkind : kind = .comment
  · subst hkind
    rcases comment_last hclose h with hline | hneutral
    · exact .inl hline
    · exact .inr fun q hq => (hneutral q hq).1
  · right
    obtain ⟨q, hlast, hq⟩ := literal_ends hkind h
    intro q' hq'
    obtain rfl := Option.some.inj (hlast.symm.trans hq')
    rcases hq with rfl | rfl | hq | hq
    · decide
    · decide
    · exact hfree.quotes q hq
    · exact hfree.chars q hq

end Token

/-! ### Neighbours -/

section neighbours
variable {m : Mark} {i : Nat} {y z : Char}

/-- Behind a token a word begins only at the start of a line, which is no part of a word. -/
theorem Lexed.not_word_behind (hfree : Token.WordFree d) (hclose : Token.ClosesNeutral d)
    (h : Lexed d before t ms) (hm : ms[i]? = some m) (hmark : m ≠ .plain) (hy : t[i]? = some y)
    (hz : PlainAt t ms z (i + 1)) (hfeed : z ≠ '\n') : isWordChar y = false := by
  induction h generalizing i with
  | nil => simp at hm
  | plain _ _ ih =>
    cases i with
    | zero => exact absurd (Option.some.inj hm).symm hmark
    | succ i => exact ih hm hy hz
  | @token _ kind c x t ms htoken _ ih =>
    have hcount : (Mark.opens kind :: List.replicate x.length (Mark.inside kind)).length =
        (c :: x).length := by simp
    by_cases hi : i < x.length
    · -- The next character still belongs to the token.
      have hinside := hz.2
      rw [List.getElem?_cons_succ, List.getElem?_append_left (by rwa [List.length_replicate]),
        List.getElem?_replicate_of_lt hi] at hinside
      cases hinside
    · -- The character is the last one of the token, or stands behind it.
      obtain ⟨k, rfl⟩ := Nat.exists_eq_add_of_le (Nat.not_lt.mp hi)
      cases k with
      | zero =>
        have hlast : (c :: x).getLast? = some y := by
          rw [List.getLast?_eq_getElem?]
          rw [← List.cons_append, List.getElem?_append_left (by simp)] at hy
          exact hy
        have hnext : t.head? = some z := by
          have hz := (plainAt_append_iff (u := c :: x) (k := 0) hcount).mp (by simpa using hz)
          rw [List.head?_eq_getElem?]
          exact hz.1
        rcases Token.token_last hfree hclose htoken with hline | hword
        · exact absurd (hline z hnext) hfeed
        · exact hword y hlast
      | succ k =>
        have hlen : x.length + (k + 1) = (c :: x).length + k := by
          rw [List.length_cons]
          omega
        rw [hlen] at hm hy hz
        refine ih (i := k) ?_ ?_ ((plainAt_append_iff (u := c :: x) hcount).mp ?_)
        · rw [← hm, ← List.cons_append, ← hcount, List.getElem?_append_right (by omega),
            Nat.add_sub_cancel_left]
        · rw [← hy, ← List.cons_append, List.getElem?_append_right (by omega),
            Nat.add_sub_cancel_left]
        · simpa [Nat.add_assoc] using hz

/-- A token behind a character of a word opens with none. -/
theorem Lexed.not_word_before (hd : d.Regular) (hfree : Token.WordFree d)
    (h : Lexed d before t ms) (hz : PlainAt t ms z i) (hword : isWordChar z = true)
    (hm : ms[i + 1]? = some m) (hmark : m ≠ .plain) (hy : t[i + 1]? = some y) :
    isWordChar y = false := by
  have hrest := h.drop_of_plainAt hz
  have hy' : (t.drop (i + 1)).head? = some y := by
    rw [List.head?_drop]
    exact hy
  have hm' : (ms.drop (i + 1)).head? = some m := by
    rw [List.head?_drop]
    exact hm
  have hbefore : (some z).any isWordChar = true := hword
  generalize t.drop (i + 1) = u at hrest hy'
  generalize ms.drop (i + 1) = ns at hrest hm'
  cases hrest with
  | nil => simp at hy'
  | plain => exact absurd (Option.some.inj hm').symm hmark
  | token htoken =>
    obtain rfl := Option.some.inj hy'
    exact Token.not_word_of_at? hd hfree hbefore htoken

/-- A word does not go from code into a token, nor back: of two neighbours in it, both stand outside
tokens or neither does. -/
theorem Lexed.plainAt_succ_iff (hd : d = Dialect.rust ∨ d = Dialect.python)
    (h : Lexed d before t ms) (hy : t[i]? = some y) (hyword : isWordChar y = true)
    (hz : t[i + 1]? = some z) (hzword : isWordChar z = true) :
    PlainAt t ms y i ↔ PlainAt t ms z (i + 1) := by
  have hfree := Token.wordFree_of_builtin hd
  have hregular := (Dialect.apart_of_builtin hd).toRegular
  have mark_of {k : Nat} {x : Char} (hx : t[k]? = some x) : ∃ m, ms[k]? = some m := by
    have hk := (List.getElem?_eq_some_iff.mp hx).1
    rw [← h.length_eq] at hk
    exact ⟨_, List.getElem?_eq_getElem hk⟩
  constructor
  · intro hplain
    obtain ⟨m, hm⟩ := mark_of hz
    -- A token that began here would begin inside a word.
    refine ⟨hz, hm.trans (congrArg some (Classical.byContradiction fun hmark => ?_))⟩
    rw [h.not_word_before hregular hfree hplain hyword hm hmark hz] at hzword
    cases hzword
  · intro hplain
    obtain ⟨m, hm⟩ := mark_of hy
    refine ⟨hy, hm.trans (congrArg some (Classical.byContradiction fun hmark => ?_))⟩
    -- A token that ended here would end inside one, unless a line feed follows.
    have hfeed : z ≠ '\n' := by
      rintro rfl
      exact absurd hzword (by decide)
    rw [h.not_word_behind hfree (Token.closesNeutral_of_builtin hd) hm hmark hy hplain hfeed]
      at hyword
    cases hyword

end neighbours
end Stencil
