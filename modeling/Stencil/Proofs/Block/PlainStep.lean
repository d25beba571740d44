import Stencil.Proofs.Block.Blanked
import Stencil.Proofs.Token.LineCut

/-! # Plain characters of blanked code

  In Rust the blanks in place of a comment change nothing before them. A comment is two characters
  long or longer, so that the characters behind a quote are either those of the code or blanks.

  In Python they may change what a number sign is. In `x:#a#}` the first one is a flag, because the
  text behind it goes on to a brace; but the brace stands in the comment that the second one opens.
  With that comment blanked, and a line of code behind it, the text reaches no brace any more. The
  flag then becomes a comment. It hides what stands between the two number signs and the blanks
  behind, up to the line end at which the comment of the code was over.
-/

namespace Stencil.Blanked

open Dialect (rust python)

variable {before : Option Char} {c : Char} {t e x : Text}

/-! ### Rust -/

theorem two_le_rust_comment {n : Nat}
    (h : Token.at? rust before t = .ok (some ⟨.comment, n⟩)) : 2 ≤ n := by
  have hmarkers : rust.lineComments = [.text ['/', '/']] := rfl
  have hblock : rust.blockComment = some (['/', '*'], ['*', '/']) := rfl
  rcases Token.at?_comment h with h | h
  · obtain ⟨m, hm, hpre, _⟩ := Token.exists_marker h
    rw [hmarkers, List.mem_singleton] at hm
    obtain rfl := Entry.text.inj hm
    obtain ⟨rest, rfl⟩ := List.isPrefixOf_iff_prefix.mp hpre
    rw [Token.lineComment_length h]
    show 2 ≤ ('/' :: '/' :: rest.takeWhile (· ≠ '\n')).length
    simp
  · obtain ⟨opener, closer, u, rest, hb, _, rfl⟩ := Token.blockComment_spec h
    rw [hblock, Option.some.injEq, Prod.mk.injEq] at hb
    obtain ⟨rfl, rfl⟩ := hb
    simp

theorem rust_plainKept : PlainKept rust := by
  intro before c t e htoken hpiece
  rcases hpiece.first with ⟨s, rfl, hs⟩ | ⟨r, before₁, y, x, t', e', rfl, rfl, hcomment, _, _⟩
  · exact Token.at?_none_of_idle (r := c :: e) (List.cons_ne_nil _ _) hs htoken
  · -- Up to the comment nothing has changed, and a blank opens nothing there.
    have hidle : ∀ z ∈ (y :: (x ++ t')).head?, rust.Idle z := by
      intro z hz
      obtain rfl := Option.some.inj hz
      exact (Dialect.rust_apart.comments _
        (Token.opensComment_of_at? Dialect.rust_regular hcomment)).1
    have hpart := Token.at?_none_of_idle (r := c :: r) (List.cons_ne_nil _ _) hidle htoken
    have hlong : 1 ≤ x.length := Nat.le_of_succ_le_succ (two_le_rust_comment hcomment)
    obtain ⟨y', x, rfl⟩ := List.exists_cons_of_ne_nil (List.length_pos_iff.mp hlong)
    have hy := isBlank_blanked y
    have hinert : rust.Inert (blanked y) := Dialect.inert_of_isBlank (.inl rfl) hy
    have hinert' : rust.Inert (blanked y') :=
      Dialect.inert_of_isBlank (.inl rfl) (isBlank_blanked y')
    refine Token.at?_none_append (r := c :: r) rfl (List.cons_ne_nil _ _) hinert
      (Dialect.ne_of_isBlank hy (by decide)) (fun q hq hquote => ?_) hpart
    obtain rfl := Option.some.inj hq
    exact absurd hquote hinert'.noChar

/-! ### Python -/

/-- Where Python code opens no token, there is no string, and a number sign is a flag. -/
theorem at?_python_none_iff :
    Token.at? python before (c :: t) = .ok none ↔
      (c = '#' → Token.isSpecFlag python ['#'] before (c :: t) = true) ∧
        Token.quotedString python before (c :: t) = .ok none := by
  rw [Token.at?_python]
  by_cases hcomment : c = '#' ∧ Token.isSpecFlag python ['#'] before (c :: t) = false
  · rw [if_pos hcomment]
    constructor
    · intro h
      simp at h
    · intro h
      rw [h.1 hcomment.1] at hcomment
      exact absurd hcomment.2 (by decide)
  · rw [if_neg hcomment]
    rw [not_and, Bool.not_eq_false] at hcomment
    constructor
    · intro h
      obtain ⟨o, ho, hmap⟩ := Outcome.map_ok_iff.mp h
      obtain rfl := Option.map_eq_none_iff.mp hmap
      exact ⟨hcomment, Outcome.mapError_ok_iff.mp ho⟩
    · intro h
      rw [h.2]
      rfl

/-- A comment of Python code goes on to the end of the line. -/
theorem python_comment
    (h : Token.at? python before (c :: (x ++ t)) = .ok (some ⟨.comment, x.length + 1⟩)) :
    c = '#' ∧ '\n' ∉ c :: x ∧ ∀ y ∈ t.head?, y = '\n' := by
  have hc := Dialect.python_opensComment (Token.opensComment_of_at? Dialect.python_regular h)
  rcases Token.at?_comment h with hline | hblock
  · exact ⟨hc, Token.lineComment_ends (r := c :: x) hline⟩
  · simp [Token.blockComment, show python.blockComment = none from rfl] at hblock

/-- A flag that is none any more before other text has run up to that text. -/
theorem all_runsOn {r u v : Text} (hu : Token.reachesBrace (r ++ '#' :: u) = true)
    (hv : Token.reachesBrace (r ++ v) = false) : r.all Token.runsOn = true := by
  have hstop : ('#' :: u).dropWhile isBlank = '#' :: u := rfl
  unfold Token.reachesBrace at hu hv
  rw [Token.dropWhile_run_append] at hu hv
  by_cases hrun : r.dropWhile Token.runsOn = []
  · have hsplit := List.takeWhile_append_dropWhile (p := Token.runsOn) (l := r)
    rw [hrun, List.append_nil] at hsplit
    rw [← hsplit]
    exact List.all_takeWhile
  · exfalso
    rw [if_neg hrun] at hu hv
    cases hblanks : (r.dropWhile Token.runsOn).dropWhile isBlank with
    | nil =>
      rw [if_pos hblanks, hstop] at hu
      simp at hu
    | cons z rest =>
      rw [hblanks, if_neg (List.cons_ne_nil _ _)] at hu hv
      rw [List.cons_append] at hu hv
      rw [hu] at hv
      exact absurd hv (by decide)

theorem not_mem_map_blanked {x : Text} (h : '\n' ∉ x) : '\n' ∉ x.map blanked := by
  intro hmem
  obtain ⟨a, ha, hfeed⟩ := List.mem_map.mp hmem
  unfold blanked at hfeed
  split at hfeed
  · next hline => exact h (hline ▸ ha)
  · exact absurd hfeed (by decide)

/-- Where Python code opens no string, a piece of it opens none. -/
theorem python_quotedString_kept
    (hquoted : Token.quotedString python before (c :: t) = .ok none)
    (hpiece : Blanked python (some c) t e) :
    Token.quotedString python before (c :: e) = .ok none := by
  have nothing {r : Text} : ∀ n ∈ (none : Option Nat), n ≤ r.length := fun _ h => absurd h (by simp)
  have hne {r : Text} : c :: r ≠ [] := List.cons_ne_nil c r
  rcases hpiece.first with ⟨s, rfl, hs⟩ | ⟨r, before₁, y, x, t', e', rfl, rfl, hcomment, _, _⟩
  · exact (Token.quotedString_append_iff (r := c :: e) hne hs nothing).mp hquoted
  · obtain ⟨rfl, _, _⟩ := python_comment hcomment
    have hpart := (Token.quotedString_append_iff (r := c :: r) (s := '#' :: (x ++ t')) hne
      (by simpa using Dialect.python_idle Dialect.opensNoString_hash) nothing).mp hquoted
    have hinert : python.Inert (blanked '#') :=
      Dialect.inert_of_isBlank (.inr rfl) (isBlank_blanked '#')
    exact (Token.quotedString_append_iff (r := c :: r) hne (by simpa using hinert.toIdle)
      nothing).mpr hpart

/-- A plain character of Python code stays plain, or it is a flag that is none in the piece, which
then has a comment of the code. -/
theorem python_plain_or_lost (htoken : Token.at? python before (c :: t) = .ok none)
    (hpiece : Blanked python (some c) t e) :
    Token.at? python before (c :: e) = .ok none ∨
      c = '#' ∧ Token.isSpecFlag python ['#'] before ('#' :: t) = true ∧
        Token.isSpecFlag python ['#'] before ('#' :: e) = false ∧ ∀ s, t ≠ e ++ s := by
  obtain ⟨hflag, hquoted⟩ := at?_python_none_iff.mp htoken
  by_cases hkeep : c = '#' → Token.isSpecFlag python ['#'] before (c :: e) = true
  · exact .inl (at?_python_none_iff.mpr ⟨hkeep, python_quotedString_kept hquoted hpiece⟩)
  · rw [Classical.not_imp, Bool.not_eq_true] at hkeep
    obtain ⟨rfl, hlost⟩ := hkeep
    refine .inr ⟨rfl, hflag rfl, hlost, ?_⟩
    -- Without a comment the piece is a part of the code, and its flags are flags.
    rintro s rfl
    rw [Token.isSpecFlag_of_append (r := '#' :: e) (by simp) (hflag rfl)] at hlost
    cases hlost

theorem python_plainStep : PlainStep python := by
  intro before c t e htoken hpiece
  rcases python_plain_or_lost htoken hpiece with hnone | ⟨rfl, hflag, hlost, hcut⟩
  · exact .inl hnone
  -- The flag has become a comment, up to the line end behind the comment of the code.
  right
  obtain ⟨r, before₁, y, x, t', e', rfl, rfl, hcomment, hnext, hbehind⟩ :=
    hpiece.first.resolve_left fun ⟨s, h, _⟩ => hcut s h
  obtain ⟨rfl, hx, ht'⟩ := python_comment hcomment
  rw [Token.isSpecFlag_hash, Bool.and_eq_true] at hflag
  rw [Token.isSpecFlag_hash, hflag.1, Bool.true_and] at hlost
  have hrun := Token.not_mem_of_runsOn (all_runsOn hflag.2 hlost)
  have hend : e'.takeWhile (· ≠ '\n') = [] := by
    cases e' with
    | nil => rfl
    | cons q e' =>
      have hq : q = '\n' := by
        rcases hnext.head Dialect.python_regular q rfl with hq | ⟨_, z, hz, hopens⟩
        · exact ht' q hq
        · obtain rfl := ht' z hz
          exact absurd (Dialect.python_opensComment hopens) (by decide)
      rw [hq]
      rfl
  have hline : '\n' ∉ '#' :: (r ++ ('#' :: x).map blanked) := by
    simp only [List.mem_cons, List.mem_append, not_or]
    exact ⟨by decide, hrun, not_mem_map_blanked hx⟩
  have hlength : (('#' :: (r ++ (('#' :: x).map blanked ++ e'))).takeWhile (· ≠ '\n')).length =
      (r ++ ('#' :: x).map blanked).length + 1 := by
    rw [← List.append_assoc, ← List.cons_append, Text.takeWhile_line hline hend, List.length_cons]
  have hcount : (r ++ ('#' :: x).map blanked).length = r.length + (x.length + 1) := by simp
  refine ⟨r ++ ('#' :: x).map blanked, e', _, r ++ '#' :: x, t', by rw [List.append_assoc],
    by simp, by simp, ?_, hnext, fun ms hms => ?_, ht'⟩
  · rw [Token.at?_python, if_pos ⟨rfl, by rw [Token.isSpecFlag_hash, hlost, Bool.and_false]⟩,
      hlength]
  · rw [hcount]
    exact (hbehind ms hms).2

/-! ### Pieces of code in both dialects -/

/-- Blanked code is lexed without a fault in both dialects, and in Rust without a comment. It shows
nothing but blanks where the code has a token. -/
theorem exists_lexed {d : Dialect} (hd : d = rust ∨ d = python) (h : Blanked d before t e)
    {before' : Option Char}
    (hbefore : ∀ c u, t = c :: u → Token.at? d before' t = Token.at? d before t) :
    ∃ ms, Lexed d before' e ms ∧ (d = rust → ∀ m ∈ ms, m.isComment = false) ∧
      ∀ ns, Lexed d before t ns → Hides t ns e ms := by
  have hblank : ∀ b, isBlank b = true → d.Inert b := fun _ => Dialect.inert_of_isBlank hd
  have hclose := Token.closesNeutral_of_builtin hd
  rcases hd with rfl | rfl
  · obtain ⟨ms, hms, hcomment, hhides⟩ :=
      h.lexed Dialect.rust_apart hblank hclose rust_plainKept.plainStep hbefore
    exact ⟨ms, hms, fun _ => hcomment rust_plainKept, hhides⟩
  · obtain ⟨ms, hms, _, hhides⟩ :=
      h.lexed Dialect.python_apart hblank hclose python_plainStep hbefore
    exact ⟨ms, hms, fun hrust => absurd (congrArg Dialect.target hrust) (by decide), hhides⟩

end Stencil.Blanked
