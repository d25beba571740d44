import Stencil.Proofs.Token.Comment
import Stencil.Proofs.Token.String

/-! # Tokens in a text that is cut

  A piece of a template is lexed again on its own, so that a reader of tokens no longer sees what
  came after the piece. Write `r ++ s` for the whole text and `r` for the piece. The statements
  here say that the readers of `Stencil.Token` together are local:

  - a token that ends within `r` is read from `r` alone (`at?_of_append`);
  - where `r ++ s` opens no token, `r` opens none either (`at?_none_of_append`).

  Two readers look further than the token that they read. The test for a specifier flag runs on to
  the end of the text, and a lead is followed by a quote that may lie past the cut. What both need
  is collected in `Seam`.
-/

namespace Stencil.Token

variable {d : Dialect} {before : Option Char} {r s : Text}

/-! ### Tokens -/

/-- What the readers that look further than their token ask of a cut: a line comment that ends
within `r` opens there as well, and a string whose lead reaches the cut has its quote behind it. -/
structure Seam (d : Dialect) (before : Option Char) (r s : Text) : Prop where
  marker : ∀ m, Entry.text m ∈ d.lineComments → m.isPrefixOf (r ++ s) = true →
    isSpecFlag d m before (r ++ s) = false →
    ((r ++ s).takeWhile (· ≠ '\n')).length ≤ r.length →
    m.length ≤ r.length ∧ isSpecFlag d m before r = false
  lead : r.length ≤ (lead d before (r ++ s)).length →
    ∃ c body, (r ++ s).drop (lead d before (r ++ s)).length = c :: body ∧ d.isQuote c = true

/-- The readers of tokens in their order, each tried where those before it read nothing. -/
theorem at?_ok_iff {t : Text} {token : Option Token} :
    at? d before t = .ok token ↔
      (∃ n, lineComment d before t d.lineComments = .ok (some n) ∧ token = some ⟨.comment, n⟩) ∨
      lineComment d before t d.lineComments = .ok none ∧
        ((∃ n, blockComment d t = .ok (some n) ∧ token = some ⟨.comment, n⟩) ∨
        blockComment d t = .ok none ∧
          ((∃ n, hashedString d before t = .ok (some n) ∧ token = some ⟨.string, n⟩) ∨
          hashedString d before t = .ok none ∧
            ((∃ n, quotedString d before t = .ok (some n) ∧ token = some ⟨.string, n⟩) ∨
            quotedString d before t = .ok none ∧
              ((∃ n, charLiteral d t = .ok (some n) ∧ token = some ⟨.char, n⟩) ∨
              charLiteral d t = .ok none ∧ token = none)))) := by
  unfold at?
  rcases lineComment d before t d.lineComments with e | _ | n <;>
    simp only [bind, Except.bind, pure, Except.pure]
  · simp
  · rcases blockComment d t with e | _ | n <;> simp only
    · simp
    · rcases hashedString d before t with e | _ | n <;>
        simp only [Outcome.mapError_ok, Outcome.mapError_error]
      · simp
      · rcases quotedString d before t with e | _ | n <;>
          simp only [Outcome.mapError_ok, Outcome.mapError_error]
        · simp
        · rcases charLiteral d t with e | _ | n <;> simp [eq_comm]
        · simp [eq_comm]
      · simp [eq_comm]
    · simp [eq_comm]
  · simp [eq_comm]

/-- A token lies within the text that it begins. -/
theorem at?_length_le {t : Text} {token : Token} (h : at? d before t = .ok (some token)) :
    token.length ≤ t.length := by
  rw [at?_ok_iff] at h
  rcases h with ⟨n, hline, htoken⟩ | ⟨_, ⟨n, hblock, htoken⟩ | ⟨_, ⟨n, hhashed, htoken⟩ |
    ⟨_, ⟨n, hquoted, htoken⟩ | ⟨_, ⟨n, hchar, htoken⟩ | ⟨_, htoken⟩⟩⟩⟩⟩
  · obtain rfl := Option.some.inj htoken
    rw [lineComment_length hline]
    exact (List.takeWhile_prefix _).length_le
  · obtain rfl := Option.some.inj htoken
    exact blockComment_le hblock
  · obtain rfl := Option.some.inj htoken
    obtain ⟨u, q, rest, rfl, rfl, _⟩ := hashedString_ends hhashed
    rw [List.length_append, List.length_cons]
    dsimp only
    omega
  · obtain rfl := Option.some.inj htoken
    obtain ⟨u, c, rest, rfl, rfl, _⟩ := quotedString_ends hquoted
    rw [List.length_append, List.length_cons]
    dsimp only
    omega
  · obtain rfl := Option.some.inj htoken
    obtain ⟨u, q, rest, rfl, rfl, _⟩ := charLiteral_spec hchar
    rw [List.length_cons, List.length_append, List.length_cons]
    dsimp only
    omega
  · simp at htoken

/-- Where no quoted string begins, the lead ends before the cut. -/
theorem Seam.lead_lt (hseam : Seam d before r s) (h : quotedString d before (r ++ s) = .ok none) :
    (Token.lead d before (r ++ s)).length < r.length := by
  rw [← Nat.not_le]
  intro hle
  obtain ⟨c, body, hdrop, hc⟩ := hseam.lead hle
  exact quotedString_ne_none hdrop hc h

/-- Where a text opens no token, neither does the part before the cut. -/
theorem at?_none_of_append (hseam : Seam d before r s)
    (h : at? d before (r ++ s) = .ok none) : at? d before r = .ok none := by
  rw [at?_ok_iff] at h ⊢
  rcases h with ⟨n, _, hn⟩ | ⟨hline, ⟨n, _, hn⟩ | ⟨hblock, ⟨n, _, hn⟩ | ⟨hhashed, ⟨n, _, hn⟩ |
    ⟨hquoted, ⟨n, _, hn⟩ | ⟨hchar, _⟩⟩⟩⟩⟩
  · simp at hn
  · simp at hn
  · simp at hn
  · simp at hn
  · simp at hn
  · -- No reader of the whole reads anything, and then none of the part does.
    have hlead := hseam.lead_lt hquoted
    exact .inr ⟨lineComment_none_of_append hline, .inr ⟨blockComment_none_of_append hblock,
      .inr ⟨hashedString_none_of_append hlead hhashed,
        .inr ⟨quotedString_none_of_append hlead hquoted,
          .inr ⟨charLiteral_none_of_append hchar, rfl⟩⟩⟩⟩⟩

/-- A token that ends before the cut is read from the part before it. -/
theorem at?_of_append
    (hclose : ∀ opener closer, d.blockComment = some (opener, closer) → closer ≠ [])
    (hseam : Seam d before r s) {token : Token} (h : at? d before (r ++ s) = .ok (some token))
    (hn : token.length ≤ r.length) : at? d before r = .ok (some token) := by
  rw [at?_ok_iff] at h ⊢
  -- In each case the readers before the one that reads the token read nothing of the part either.
  rcases h with ⟨n, hline, htoken⟩ | ⟨hline, ⟨n, hblock, htoken⟩ | ⟨hblock, ⟨n, hhashed, htoken⟩ |
    ⟨hhashed, ⟨n, hquoted, htoken⟩ | ⟨hquoted, ⟨n, hchar, htoken⟩ | ⟨_, htoken⟩⟩⟩⟩⟩
  · obtain rfl := Option.some.inj htoken
    have hlength := lineComment_length hline
    have hmarker : ∀ m, Entry.text m ∈ d.lineComments → m.isPrefixOf (r ++ s) = true →
        isSpecFlag d m before (r ++ s) = false →
        m.length ≤ r.length ∧ isSpecFlag d m before r = false := fun m hm hpre hflag =>
      hseam.marker m hm hpre hflag (hlength ▸ hn)
    exact .inl ⟨n, lineComment_of_append hmarker hline hn, rfl⟩
  · obtain rfl := Option.some.inj htoken
    exact .inr ⟨lineComment_none_of_append hline,
      .inl ⟨n, blockComment_of_append hclose hblock hn, rfl⟩⟩
  · obtain rfl := Option.some.inj htoken
    exact .inr ⟨lineComment_none_of_append hline, .inr ⟨blockComment_none_of_append hblock,
      .inl ⟨n, hashedString_of_append hhashed hn, rfl⟩⟩⟩
  · obtain rfl := Option.some.inj htoken
    have hlead := Nat.lt_of_lt_of_le (lead_lt_of_quotedString hquoted) hn
    exact .inr ⟨lineComment_none_of_append hline, .inr ⟨blockComment_none_of_append hblock,
      .inr ⟨hashedString_none_of_append hlead hhashed,
        .inl ⟨n, quotedString_of_append hquoted hn, rfl⟩⟩⟩⟩
  · obtain rfl := Option.some.inj htoken
    have hlead := hseam.lead_lt hquoted
    exact .inr ⟨lineComment_none_of_append hline, .inr ⟨blockComment_none_of_append hblock,
      .inr ⟨hashedString_none_of_append hlead hhashed,
        .inr ⟨quotedString_none_of_append hlead hquoted,
          .inl ⟨n, charLiteral_of_append hchar hn, rfl⟩⟩⟩⟩⟩
  · simp at htoken

/-- What stands before a token matters if it is a part of a word or a colon; any other character is
like none at all. -/
theorem at?_after {c : Char} (hword : isWordChar c = false) (hcolon : c ≠ ':') (t : Text) :
    at? d (some c) t = at? d none t := by
  -- Two readers look back: for the colon before a flag, and for a word that goes on.
  have hflag (m : Text) : isSpecFlag d m (some c) t = isSpecFlag d m none t := by
    simp [isSpecFlag, hcolon]
  have hline (markers : List Entry) :
      lineComment d (some c) t markers = lineComment d none t markers := by
    induction markers with
    | nil => rfl
    | cons e markers ih =>
      cases e with
      | other value => rfl
      | text m => rw [lineComment, lineComment, hflag, ih]
  have hany : (some c).any isWordChar = (none : Option Char).any isWordChar := hword
  have hlead : lead d (some c) t = lead d none t := by
    unfold lead
    rw [hany]
  have hhashed : hashedString d (some c) t = hashedString d none t := by
    unfold hashedString
    rw [hlead, hany]
  have hquoted : quotedString d (some c) t = quotedString d none t := by
    unfold quotedString
    rw [hlead]
  unfold at?
  rw [hline, hhashed, hquoted]

end Stencil.Token
