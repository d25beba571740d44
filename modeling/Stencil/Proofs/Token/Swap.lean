import Stencil.Proofs.Token.Seam

/-! # Tokens before a text that is replaced

  The readers of tokens look ahead, so that a token is the same before another text only if the two
  texts begin alike. Where both begin with a character that stands in no token of the dialect but as
  a part of its content, nothing behind that character matters (`at?_swap`), apart from two cases:

  - a quote, since `'x'` is a literal where `'x` is none;
  - the end of the run of a specifier flag, which may lie behind the character.
-/

namespace Stencil

/-! ### Characters that open and close nothing -/

/-- The comments of a dialect open with something, and on one line. -/
structure Dialect.Regular (d : Dialect) : Prop where
  markers : ∀ e ∈ d.lineComments, ∃ m, e = .text m ∧ m ≠ [] ∧ '\n' ∉ m
  delimiters : ∀ opener closer, d.blockComment = some (opener, closer) →
    opener ≠ [] ∧ closer ≠ []

/-- A character that is no part of what a token of the dialect begins with. -/
structure Dialect.Inert (d : Dialect) (x : Char) : Prop extends d.Idle x where
  noMarker : ∀ m, Entry.text m ∈ d.lineComments → x ∉ m
  noDelimiter : ∀ opener closer, d.blockComment = some (opener, closer) →
    x ∉ opener ∧ x ∉ closer
  noChar : d.charQuote ≠ some x

/-- A character that a comment of the dialect begins with. -/
def Dialect.OpensComment (d : Dialect) (x : Char) : Prop :=
  (∃ m, Entry.text m ∈ d.lineComments ∧ m.head? = some x) ∨
    ∃ opener closer, d.blockComment = some (opener, closer) ∧ opener.head? = some x

theorem Dialect.Inert.not_opensComment {d : Dialect} {x : Char} (hx : d.Inert x) :
    ¬ d.OpensComment x := by
  rintro (⟨m, hm, hhead⟩ | ⟨opener, closer, hb, hhead⟩)
  · exact hx.noMarker m hm (List.mem_of_mem_head? hhead)
  · exact (hx.noDelimiter opener closer hb).1 (List.mem_of_mem_head? hhead)

/-- The tokens of a dialect are told apart by how they begin: comments and character literals do not
begin like strings, and a quote is neither in a prefix nor the letter of raw strings. -/
structure Dialect.Apart (d : Dialect) : Prop extends d.Regular where
  quotes : ∀ q, d.isQuote q = true → Caseless q ∧ ∀ p, Entry.text p ∈ d.stringPrefixes → q ∉ p
  raw : d.rawHashes = true → d.isQuote '"' = true ∧ d.isQuote 'r' = false
  chars : ∀ q, d.charQuote = some q → d.Idle q
  comments : ∀ y, d.OpensComment y → d.Idle y ∧ d.charQuote ≠ some y

namespace Token

variable {d : Dialect} {before : Option Char} {r s s' u u' : Text} {x : Char}

/-! ### Characters that open comments -/

theorem lineComment_of_head (hd : d.Regular) (hx : ¬ d.OpensComment x) (t : Text) :
    lineComment d before (x :: t) d.lineComments = .ok none := by
  rw [lineComment_none_iff]
  intro e he
  obtain ⟨m, rfl, hne, _⟩ := hd.markers e he
  obtain ⟨y, m, rfl⟩ := List.exists_cons_of_ne_nil hne
  have hyx : y ≠ x := by
    intro h
    exact hx (.inl ⟨_, he, congrArg some h⟩)
  exact ⟨_, rfl, by simp [List.isPrefixOf, hyx]⟩

theorem blockComment_of_head (hd : d.Regular) (hx : ¬ d.OpensComment x) (t : Text) :
    blockComment d (x :: t) = .ok none := by
  rw [blockComment_none_iff]
  intro opener closer hb
  obtain ⟨y, opener, rfl⟩ := List.exists_cons_of_ne_nil (hd.delimiters _ _ hb).1
  have hyx : y ≠ x := by
    intro h
    exact hx (.inr ⟨_, _, hb, congrArg some h⟩)
  simp [List.isPrefixOf, hyx]

/-- A comment is read by one of the readers of comments. -/
theorem at?_comment {t : Text} {n : Nat} (h : at? d before t = .ok (some ⟨.comment, n⟩)) :
    lineComment d before t d.lineComments = .ok (some n) ∨ blockComment d t = .ok (some n) := by
  rw [at?_ok_iff] at h
  rcases h with ⟨n', h, htoken⟩ | ⟨_, ⟨n', h, htoken⟩ | ⟨_, ⟨n', _, htoken⟩ |
    ⟨_, ⟨n', _, htoken⟩ | ⟨_, ⟨n', _, htoken⟩ | ⟨_, htoken⟩⟩⟩⟩⟩
  · obtain ⟨_, rfl⟩ := Token.mk.inj (Option.some.inj htoken)
    exact .inl h
  · obtain ⟨_, rfl⟩ := Token.mk.inj (Option.some.inj htoken)
    exact .inr h
  · simp at htoken
  · simp at htoken
  · simp at htoken
  · simp at htoken

/-- A comment begins with a character that opens comments. -/
theorem opensComment_of_at? (hd : d.Regular) {t : Text} {n : Nat}
    (h : at? d before (x :: t) = .ok (some ⟨.comment, n⟩)) : d.OpensComment x := by
  apply Classical.byContradiction
  intro hx
  rcases at?_comment h with h | h
  · rw [lineComment_of_head hd hx] at h
    simp at h
  · rw [blockComment_of_head hd hx] at h
    simp at h

/-- No token opens at an inert character. -/
theorem at?_of_inert (hd : d.Regular) (hx : d.Inert x) (t : Text) :
    at? d before (x :: t) = .ok none := by
  rw [at?_ok_iff]
  have hopens := hx.not_opensComment
  exact .inr ⟨lineComment_of_head hd hopens t, .inr ⟨blockComment_of_head hd hopens t,
    .inr ⟨hashedString_of_idle hx.toIdle t, .inr ⟨quotedString_of_idle hx.toIdle t,
      .inr ⟨if_neg hx.noChar, rfl⟩⟩⟩⟩⟩

/-- Where a text opens no token, neither does the part before an idle character. -/
theorem at?_none_of_idle (hr : r ≠ []) (hs : ∀ x ∈ s.head?, d.Idle x)
    (h : at? d before (r ++ s) = .ok none) : at? d before r = .ok none := by
  have nothing : ∀ n ∈ (none : Option Nat), n ≤ r.length := fun _ h => absurd h (by simp)
  rw [at?_ok_iff] at h ⊢
  rcases h with ⟨n, _, htoken⟩ | ⟨hline, ⟨n, _, htoken⟩ | ⟨hblock, ⟨n, _, htoken⟩ |
    ⟨hhashed, ⟨n, _, htoken⟩ | ⟨hquoted, ⟨n, _, htoken⟩ | ⟨hchar, _⟩⟩⟩⟩⟩
  · simp at htoken
  · simp at htoken
  · simp at htoken
  · simp at htoken
  · simp at htoken
  · exact .inr ⟨lineComment_none_of_append hline, .inr ⟨blockComment_none_of_append hblock,
      .inr ⟨(hashedString_append_iff hr hs nothing).mp hhashed,
        .inr ⟨(quotedString_append_iff hr hs nothing).mp hquoted,
          .inr ⟨charLiteral_none_of_append hchar, rfl⟩⟩⟩⟩⟩

/-- Where a text opens no token, it opens none before an inert character, unless a quote of
character literals comes next, in a dialect without specifier flags. -/
theorem at?_none_append (hflags : d.specMarkers = []) (hr : r ≠ []) (hx : d.Inert x)
    (hescape : x ≠ '\\') (hs : ∀ q ∈ s.head?, d.charQuote = some q → x = '\n')
    (h : at? d before r = .ok none) : at? d before (r ++ x :: s) = .ok none := by
  have nothing : ∀ n ∈ (none : Option Nat), n ≤ r.length := fun _ h => absurd h (by simp)
  have hidle : ∀ z ∈ (x :: s).head?, d.Idle z := by
    intro z hz
    obtain rfl := Option.some.inj hz
    exact hx.toIdle
  have line (h : lineComment d before r d.lineComments = .ok none) :
      lineComment d before (r ++ x :: s) d.lineComments = .ok none := by
    rw [lineComment_none_iff] at h ⊢
    intro e he
    obtain ⟨m, rfl, hpass⟩ := h e he
    have hflag (t : Text) : isSpecFlag d m before t = false := by
      rw [isSpecFlag_eq, hflags]
      rfl
    have hpre : m.isPrefixOf (r ++ x :: s) = m.isPrefixOf r :=
      Text.isPrefixOf_append_of_not_mem fun z hz => by
        obtain rfl := Option.some.inj hz
        exact hx.noMarker m he
    rw [hflag] at hpass
    refine ⟨m, rfl, ?_⟩
    rw [hflag, hpre]
    exact hpass
  have hdelimiters : ∀ z ∈ (x :: s).head?, ∀ opener closer,
      d.blockComment = some (opener, closer) → z ∉ opener ∧ z ∉ closer := by
    intro z hz
    obtain rfl := Option.some.inj hz
    exact hx.noDelimiter
  -- None of the readers reads a token, and none of them does so in the longer text.
  rw [at?_ok_iff] at h ⊢
  rcases h with ⟨n, _, htoken⟩ | ⟨hline, ⟨n, _, htoken⟩ | ⟨hblock, ⟨n, _, htoken⟩ |
    ⟨hhashed, ⟨n, _, htoken⟩ | ⟨hquoted, ⟨n, _, htoken⟩ | ⟨hchar, _⟩⟩⟩⟩⟩
  · simp at htoken
  · simp at htoken
  · simp at htoken
  · simp at htoken
  · simp at htoken
  · exact .inr ⟨line hline, .inr ⟨blockComment_append hdelimiters hblock,
      .inr ⟨(hashedString_append_iff hr hidle nothing).mpr hhashed,
        .inr ⟨(quotedString_append_iff hr hidle nothing).mpr hquoted,
          .inr ⟨charLiteral_none_append hx.noChar hescape hs hchar, rfl⟩⟩⟩⟩⟩

/-! ### What follows an inert character -/

/-- A token that ends before an inert character is one before the same character with another text
behind it, and where there was none there is none then. -/
theorem at?_swap (hd : d.Regular) (hx : d.Inert x) (hblank : isBlank x = false)
    (hflag : ∀ m, Entry.text m ∈ d.lineComments → m.isPrefixOf r = true →
      isSpecFlag d m before (r ++ x :: u) = true → isSpecFlag d m before (r ++ x :: u') = true)
    (hu : ∀ q ∈ u'.head?, d.charQuote = some q → u.head? = some q) {o : Option Token}
    (h : at? d before (r ++ x :: u) = .ok o) (ho : ∀ token ∈ o, token.length ≤ r.length) :
    at? d before (r ++ x :: u') = .ok o := by
  by_cases hr : r = []
  · subst hr
    rw [List.nil_append, at?_of_inert hd hx] at h ⊢
    exact h
  have hidle (v : Text) : ∀ y ∈ (x :: v).head?, d.Idle y := by
    rintro y hy
    obtain rfl := Option.some.inj hy
    exact hx.toIdle
  -- Each reader reads the same of the second text, whether it is the one that reads or not.
  have hline {o : Option Nat} (h : lineComment d before (r ++ x :: u) d.lineComments = .ok o)
      (ho : ∀ n ∈ o, n ≤ r.length) :
      lineComment d before (r ++ x :: u') d.lineComments = .ok o := by
    refine lineComment_swap (fun m hm => ?_) hblank hflag h ho
    obtain ⟨m', hm', _, hfeed⟩ := hd.markers _ hm
    obtain rfl := Entry.text.inj hm'
    exact ⟨hfeed, hx.noMarker m hm⟩
  have hblock {o : Option Nat} (h : blockComment d (r ++ x :: u) = .ok o)
      (ho : ∀ n ∈ o, n ≤ r.length) : blockComment d (r ++ x :: u') = .ok o := by
    apply blockComment_append
    · rintro y hy opener closer hb
      obtain rfl := Option.some.inj hy
      exact hx.noDelimiter opener closer hb
    · cases o with
      | none => exact blockComment_none_of_append h
      | some n =>
        exact blockComment_of_append (fun _ _ hb => (hd.delimiters _ _ hb).2) h (ho n rfl)
  have hhashed {o : Option Nat} (h : hashedString d before (r ++ x :: u) = .ok o)
      (ho : ∀ n ∈ o, n ≤ r.length) : hashedString d before (r ++ x :: u') = .ok o :=
    (hashedString_append_iff hr (hidle u') ho).mpr
      ((hashedString_append_iff hr (hidle u) ho).mp h)
  have hquoted {o : Option Nat} (h : quotedString d before (r ++ x :: u) = .ok o)
      (ho : ∀ n ∈ o, n ≤ r.length) : quotedString d before (r ++ x :: u') = .ok o :=
    (quotedString_append_iff hr (hidle u') ho).mpr
      ((quotedString_append_iff hr (hidle u) ho).mp h)
  have hchar {o : Option Nat} (h : charLiteral d (r ++ x :: u) = .ok o)
      (ho : ∀ n ∈ o, n ≤ r.length) : charLiteral d (r ++ x :: u') = .ok o := by
    cases o with
    | none => exact charLiteral_none_swap hx.noChar (fun q _ hq hu' => hu q hu' hq) h
    | some n => exact charLiteral_append (charLiteral_of_append h (ho n rfl))
  have fits {kind : Kind} {n : Nat} (htoken : o = some ⟨kind, n⟩) : ∀ m ∈ some n, m ≤ r.length := by
    rintro m hm
    obtain rfl := Option.some.inj hm
    exact ho _ htoken
  have nothing : ∀ n ∈ (none : Option Nat), n ≤ r.length := fun _ h => absurd h (by simp)
  rw [at?_ok_iff] at h ⊢
  rcases h with ⟨n, h, htoken⟩ | ⟨h₁, ⟨n, h, htoken⟩ | ⟨h₂, ⟨n, h, htoken⟩ | ⟨h₃, ⟨n, h, htoken⟩ |
    ⟨h₄, ⟨n, h, htoken⟩ | ⟨h₅, htoken⟩⟩⟩⟩⟩
  · exact .inl ⟨n, hline h (fits htoken), htoken⟩
  · exact .inr ⟨hline h₁ nothing, .inl ⟨n, hblock h (fits htoken), htoken⟩⟩
  · exact .inr ⟨hline h₁ nothing, .inr ⟨hblock h₂ nothing,
      .inl ⟨n, hhashed h (fits htoken), htoken⟩⟩⟩
  · exact .inr ⟨hline h₁ nothing, .inr ⟨hblock h₂ nothing, .inr ⟨hhashed h₃ nothing,
      .inl ⟨n, hquoted h (fits htoken), htoken⟩⟩⟩⟩
  · exact .inr ⟨hline h₁ nothing, .inr ⟨hblock h₂ nothing, .inr ⟨hhashed h₃ nothing,
      .inr ⟨hquoted h₄ nothing, .inl ⟨n, hchar h (fits htoken), htoken⟩⟩⟩⟩⟩
  · exact .inr ⟨hline h₁ nothing, .inr ⟨hblock h₂ nothing, .inr ⟨hhashed h₃ nothing,
      .inr ⟨hquoted h₄ nothing, .inr ⟨hchar h₅ nothing, htoken⟩⟩⟩⟩⟩

/-! ### What follows a literal -/

/-- A string or a character literal is the same before every text that does not make a longer quote
of its opening one. -/
theorem at?_literal_swap (hd : d.Apart) {kind : Kind} (hkind : kind ≠ .comment)
    (h : at? d before (r ++ s) = .ok (some ⟨kind, r.length⟩))
    (hs : ∀ q ∈ s'.head?, d.isQuote q = true → s.head? = some q) :
    at? d before (r ++ s') = .ok (some ⟨kind, r.length⟩) := by
  have nothing_before {c : Char} {r : Text} (hc : ¬ d.OpensComment c) :
      lineComment d before (c :: r ++ s') d.lineComments = .ok none ∧
        blockComment d (c :: r ++ s') = .ok none :=
    ⟨lineComment_of_head hd.toRegular hc _, blockComment_of_head hd.toRegular hc _⟩
  have not_comment {c : Char} {t : Text} (hc : d.OpensComment c) :
      hashedString d before (c :: t) = .ok none ∧ quotedString d before (c :: t) = .ok none :=
    ⟨hashedString_of_idle (hd.comments c hc).1 t, quotedString_of_idle (hd.comments c hc).1 t⟩
  cases r with
  | nil =>
    -- A token covers something.
    exfalso
    rw [at?_ok_iff] at h
    rcases h with ⟨n, h, htoken⟩ | ⟨_, ⟨n, h, htoken⟩ | ⟨_, ⟨n, h, htoken⟩ |
      ⟨_, ⟨n, h, htoken⟩ | ⟨_, ⟨n, h, htoken⟩ | ⟨_, htoken⟩⟩⟩⟩⟩
    · exact hkind (congrArg Token.kind (Option.some.inj htoken))
    · exact hkind (congrArg Token.kind (Option.some.inj htoken))
    · have := lead_lt_of_hashedString h
      have := congrArg Token.length (Option.some.inj htoken)
      dsimp only [List.length_nil] at this
      omega
    · have := lead_lt_of_quotedString h
      have := congrArg Token.length (Option.some.inj htoken)
      dsimp only [List.length_nil] at this
      omega
    · have := charLiteral_pos h
      have := congrArg Token.length (Option.some.inj htoken)
      dsimp only [List.length_nil] at this
      omega
    · simp at htoken
  | cons c r =>
    rw [at?_ok_iff] at h ⊢
    rcases h with ⟨n, h, htoken⟩ | ⟨_, ⟨n, h, htoken⟩ | ⟨_, ⟨n, h, htoken⟩ |
      ⟨_, ⟨n, h, htoken⟩ | ⟨_, ⟨n, h, htoken⟩ | ⟨_, htoken⟩⟩⟩⟩⟩
    · exact absurd (congrArg Token.kind (Option.some.inj htoken)) hkind
    · exact absurd (congrArg Token.kind (Option.some.inj htoken)) hkind
    · have hn := congrArg Token.length (Option.some.inj htoken)
      dsimp only at hn
      have hc : ¬ d.OpensComment c := by
        intro hc
        rw [List.cons_append, (not_comment hc).1] at h
        simp at h
      have hpart := hashedString_of_append h (Nat.le_of_eq hn.symm)
      have hnew := hashedString_append (s := s')
        (fun hraw => (hd.quotes _ (hd.raw hraw).1).1)
        (fun hraw => (hd.quotes _ (hd.raw hraw).1).2) hpart
      exact .inr ⟨(nothing_before hc).1, .inr ⟨(nothing_before hc).2, .inl ⟨n, hnew, htoken⟩⟩⟩
    · have hn := congrArg Token.length (Option.some.inj htoken)
      dsimp only at hn
      have hc : ¬ d.OpensComment c := by
        intro hc
        rw [List.cons_append, (not_comment hc).2] at h
        simp at h
      obtain ⟨q, body, hdrop, hq, hnew⟩ := quotedString_swap hd.quotes h (Nat.le_of_eq hn.symm) hs
      -- Behind the lead stands a quote, and so no raw string with hashes.
      have hhashed : hashedString d before (c :: r ++ s') = .ok none := by
        unfold hashedString
        simp only [hdrop]
        rw [if_neg]
        rw [Bool.and_eq_true, Bool.and_eq_true, decide_eq_true_iff]
        rintro ⟨⟨hraw, rfl⟩, _⟩
        rw [(hd.raw hraw).2] at hq
        exact absurd hq (by decide)
      exact .inr ⟨(nothing_before hc).1, .inr ⟨(nothing_before hc).2,
        .inr ⟨hhashed, .inl ⟨n, hnew, htoken⟩⟩⟩⟩
    · have hn := congrArg Token.length (Option.some.inj htoken)
      dsimp only at hn
      obtain ⟨_, q, _, hr, _, hquote⟩ := charLiteral_spec h
      obtain rfl : c = q := (List.cons.inj hr).1
      have hidle := hd.chars c hquote
      have hc : ¬ d.OpensComment c := fun hc => (hd.comments c hc).2 hquote
      have hnew := charLiteral_append (s := s') (charLiteral_of_append h (Nat.le_of_eq hn.symm))
      exact .inr ⟨(nothing_before hc).1, .inr ⟨(nothing_before hc).2,
        .inr ⟨hashedString_of_idle hidle _, .inr ⟨quotedString_of_idle hidle _,
          .inl ⟨n, hnew, htoken⟩⟩⟩⟩⟩
    · simp at htoken

end Token
end Stencil
