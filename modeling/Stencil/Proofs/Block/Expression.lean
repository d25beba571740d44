import Stencil.Proofs.Block.Piece
import Stencil.Proofs.Segment.Relexing

/-! # The tokens of an expression

  The expression of a block is cut out of the code with its comments blanked, and is lexed again on
  its own. It has the tokens that the block has there, without the comments, unless a flag is lost.

  A number sign right behind a colon is a flag if the text behind it goes on to a brace. In `d[x:#a#}`
  with a line of code behind it that brace stands in a comment, which the second number sign opens.
  With the comment blanked the text goes on to the line of code instead, and the flag has become a
  comment itself.

  * `ReadAgain` says that a piece is read in one of these two ways;
  * `Blanked.readAgain` shows it of every piece, by induction along the piece;
  * `Block.expr_tokens_iff`: the expression has the tokens of the block just if its flags are kept.
-/

namespace Stencil

open Dialect (rust python)

variable {d : Dialect} {before before' : Option Char} {c : Char} {t e m u : Text}
  {ms ns es us : List Mark}

/-! ### Two ways to be read again -/

/-- The mark of a character among code without comments. -/
def Mark.visible (m : Mark) : Mark := if m.isComment then .plain else m

/-- Every marker of a comment that stands outside the tokens of `ns`, because it was a flag there,
is a flag in the text `e` as well. -/
def FlagsKept (d : Dialect) (before : Option Char) (e : Text) (ns : List Mark) : Prop :=
  ∀ r m s, e = r ++ (m ++ s) → m ∈ d.specMarkers → ns[r.length]? = some .plain →
    Token.isSpecFlag d m (r.getLast?.or before) (m ++ s) = true

/-- How a piece `e` of code is read again with the marks `es`, where the code has the marks `ns`. -/
inductive ReadAgain (d : Dialect) (before : Option Char) (e : Text) (ns es : List Mark) : Prop
  /-- It has the tokens of the code, without the comments. -/
  | kept (flags : FlagsKept d before e ns) (marks : es = (ns.take e.length).map Mark.visible)
  /-- The flag `m` has become a comment, since a comment of the code was blanked. -/
  | lost (r m s : Text) (text : e = r ++ (m ++ s)) (marker : m ∈ d.specMarkers)
      (plain : ns[r.length]? = some .plain)
      (noFlag : Token.isSpecFlag d m (r.getLast?.or before) (m ++ s) = false)
      (opens : es[r.length]? = some (.opens .comment))
      (comment : ∃ k < e.length, ns[k]? = some (.opens .comment))

/-- What is read behind `u` is read as it is with `u` in front, if `u` has no flag that is lost. -/
theorem ReadAgain.append (hus : us.length = u.length)
    (hflags : ∀ r m s, u ++ e = r ++ (m ++ s) → r.length < u.length → m ∈ d.specMarkers →
      us[r.length]? = some .plain →
        Token.isSpecFlag d m (r.getLast?.or before) (m ++ s) = true)
    (h : ReadAgain d (u.getLast?.or before) e ns es) :
    ReadAgain d before (u ++ e) (us ++ ns) (us.map Mark.visible ++ es) := by
  have hvisible : (us.map Mark.visible).length = u.length := by rw [List.length_map, hus]
  have hlast (r : Text) : (u ++ r).getLast?.or before = r.getLast?.or (u.getLast?.or before) := by
    rw [List.getLast?_append, Option.or_assoc]
  have hmark {xs ys : List Mark} (hxs : xs.length = u.length) (k : Nat) :
      (xs ++ ys)[u.length + k]? = ys[k]? := by
    rw [List.getElem?_append_right (by omega), hxs, Nat.add_sub_cancel_left]
  cases h with
  | kept flags marks =>
    refine .kept (fun r m s htext hm hplain => ?_) ?_
    · -- A flag stands in `u` or behind it.
      by_cases hr : r.length < u.length
      · rw [List.getElem?_append_left (by omega)] at hplain
        exact hflags r m s htext hr hm hplain
      · obtain ⟨r, rfl⟩ : u <+: r := List.prefix_of_prefix_length_le ⟨e, rfl⟩
          ⟨m ++ s, htext.symm⟩ (Nat.not_lt.mp hr)
        rw [List.append_assoc] at htext
        rw [List.length_append, hmark hus] at hplain
        rw [hlast]
        exact flags r m s (List.append_cancel_left htext) hm hplain
    · rw [marks, List.length_append, ← hus, List.take_length_add_append, List.map_append]
  | lost r m s text marker plain noFlag opens comment =>
    obtain ⟨k, hk, hcomment⟩ := comment
    refine .lost (u ++ r) m s (by rw [text, List.append_assoc]) marker ?_ ?_ ?_
      ⟨u.length + k, by rw [List.length_append]; omega, by rw [hmark hus, hcomment]⟩
    · rw [List.length_append, hmark hus, plain]
    · rw [hlast, noFlag]
    · rw [List.length_append, hmark hvisible, opens]

/-- Behind a token nothing but its last character matters. -/
theorem ReadAgain.append_token (before : Option Char) (kind : Token.Kind) {n : Nat}
    (hu : u.length = n + 1) (h : ReadAgain d u.getLast? e ns es) :
    ReadAgain d before (u ++ e) (.opens kind :: (List.replicate n (.inside kind) ++ ns))
      ((Mark.opens kind :: List.replicate n (Mark.inside kind)).map Mark.visible ++ es) := by
  have hlast : u.getLast?.or before = u.getLast? := by
    cases u with
    | nil => cases hu
    | cons c u => rw [List.getLast?_cons, Option.some_or]
  rw [← hlast] at h
  have hlength : (Mark.opens kind :: List.replicate n (Mark.inside kind)).length = u.length := by
    simp [hu]
  refine h.append hlength fun r m s _ _ _ hplain => ?_
  rcases List.mem_cons.mp (List.mem_of_getElem? hplain) with hopens | hinside
  · cases hopens
  · cases List.eq_of_mem_replicate hinside

/-! ### One plain character -/

/-- The first mark of a text that begins with a token. -/
theorem Lexed.head_of_token {kind : Token.Kind} {n : Nat}
    (h : Token.at? d before (c :: t) = .ok (some ⟨kind, n⟩)) (hms : Lexed d before (c :: t) ms) :
    ms[0]? = some (.opens kind) := by
  generalize hu : c :: t = u at h hms
  cases hms with
  | nil => cases hu
  | plain hnone =>
    rw [h] at hnone
    cases hnone
  | token htoken =>
    rw [h] at htoken
    obtain rfl := (Token.mk.inj (Option.some.inj (Except.ok.inj htoken))).1
    rfl

/-- A flag of a built-in dialect is a number sign of Python. -/
theorem marker_of_builtin (hd : d = rust ∨ d = python) (hm : m ∈ d.specMarkers) :
    d = python ∧ m = ['#'] := by
  rcases hd with rfl | rfl
  · exact absurd hm List.not_mem_nil
  · exact ⟨rfl, List.mem_singleton.mp hm⟩

/-- A plain character of the code is plain in the piece, and a flag if it was one, or it opens a
comment there, and there was a comment behind it. -/
theorem Blanked.flag_kept_or_lost (hd : d = rust ∨ d = python)
    (htoken : Token.at? d before (c :: t) = .ok none) (hpiece : Blanked d (some c) t e)
    (hns : Lexed d (some c) t ns) :
    (Token.at? d before (c :: e) = .ok none ∧ ∀ m s, c :: e = m ++ s → m ∈ d.specMarkers →
      Token.isSpecFlag d m before (m ++ s) = true) ∨
    ∃ m s n, c :: e = m ++ s ∧ m ∈ d.specMarkers ∧ Token.isSpecFlag d m before (m ++ s) = false ∧
      Token.at? d before (c :: e) = .ok (some ⟨.comment, n⟩) ∧
      ∃ k < e.length, ns[k]? = some (.opens .comment) := by
  rcases hd with rfl | rfl
  · exact .inl ⟨rust_plainKept htoken hpiece, fun m s _ hm => absurd hm List.not_mem_nil⟩
  rcases python_plain_or_lost htoken hpiece with hnone | ⟨rfl, _, hlost, hcut⟩
  · refine .inl ⟨hnone, fun m s htext hm => ?_⟩
    obtain rfl := (marker_of_builtin (.inr rfl) hm).2
    rw [← htext]
    exact (at?_python_none_iff.mp hnone).1 (List.cons.inj htext).1
  · obtain ⟨r, before₁, y, x, t', e', rfl, rfl, _, _, hbehind⟩ :=
      hpiece.first.resolve_left fun ⟨s, h, _⟩ => hcut s h
    refine .inr ⟨['#'], _, _, rfl, List.mem_singleton.mpr rfl, hlost,
      (Token.at?_python _ _).trans (if_pos ⟨rfl, hlost⟩), r.length, ?_, (hbehind ns hns).1⟩
    rw [List.length_append, List.length_append, List.length_map, List.length_cons]
    omega

/-! ### The whole piece -/

theorem visible_token {kind : Token.Kind} (hkind : kind ≠ .comment) (n : Nat) :
    (Mark.opens kind :: List.replicate n (Mark.inside kind)).map Mark.visible =
      .opens kind :: List.replicate n (.inside kind) := by
  cases kind with
  | comment => exact absurd rfl hkind
  | _ => simp [Mark.visible, Mark.isComment, Mark.kind?]

theorem visible_comment (n : Nat) :
    (Mark.opens .comment :: List.replicate n (Mark.inside .comment)).map Mark.visible =
      List.replicate (n + 1) .plain := by
  simp [Mark.visible, Mark.isComment, Mark.kind?, List.replicate_succ]

/-- A piece of code is read again with its tokens, or with a flag that is lost. The induction is on
the piece next to the code. What stands before the piece is only known to be read alike at its first
character: a comment may have stood there. -/
theorem Blanked.readAgain (hd : d = rust ∨ d = python) (h : Blanked d before t e)
    (hbefore : ∀ c u, t = c :: u → Token.at? d before' t = Token.at? d before t)
    (hns : Lexed d before t ns) (hes : Lexed d before' e es) : ReadAgain d before' e ns es := by
  have hblank : ∀ b, isBlank b = true → d.Inert b := fun _ => Dialect.inert_of_isBlank hd
  have hapart := Dialect.apart_of_builtin hd
  induction h generalizing before' ns es with
  | stop =>
    cases hes
    refine .kept (fun r m s htext hm _ => ?_) rfl
    obtain rfl := (marker_of_builtin hd hm).2
    simp at htext
  | @plain before c t e htoken next ih =>
    obtain ⟨ns, rfl, hbehind⟩ := hns.of_plain htoken
    have hplain := (hbefore c t rfl).trans htoken
    -- Behind the character a comment may have become blanks, so that a marker is no flag any more.
    rcases next.flag_kept_or_lost hd hplain hbehind with
      ⟨hnone, hflags⟩ | ⟨m, s, n, htext, hm, hlost, hcomment, k, hk, hopens⟩
    · obtain ⟨es, rfl, hagain⟩ := hes.of_plain hnone
      have hone : [Mark.plain].length = [c].length := rfl
      refine ReadAgain.append hone (fun r m s htext hr hm _ => ?_)
        (ih (fun _ _ _ => rfl) hbehind hagain)
      obtain rfl : r = [] := List.eq_nil_of_length_eq_zero (Nat.lt_one_iff.mp hr)
      exact hflags m s htext hm
    · exact .lost [] m s htext hm rfl hlost (hes.head_of_token hcomment)
        ⟨k + 1, Nat.succ_lt_succ hk, hopens⟩
  | @comment before c x t e htoken next ih =>
    obtain ⟨ns, rfl, hbehind⟩ := hns.of_token htoken
    -- The comment is blanks in the piece, which are read as no token.
    have hblanks := List.all_eq_true.mpr (isBlank_of_mem_map_blanked (c :: x))
    obtain ⟨es, rfl, hagain⟩ := hes.behind_blanks hapart.toRegular hblank hblanks
    rw [List.map_cons, List.getLast?_cons, Option.some_or, ← List.getLast?_cons,
      ← List.map_cons] at hagain
    have hrest := ih (at?_behind_comment hapart.toRegular hblank
      (Token.closesNeutral_of_builtin hd) htoken) hbehind hagain
    have hlength : ((c :: x).map blanked).length = x.length + 1 := by
      rw [List.length_map, List.length_cons]
    have hwhole := hrest.append_token before' .comment hlength
    rw [visible_comment] at hwhole
    rwa [hlength]
  | @literal before kind c x t e hkind htoken next ih =>
    obtain ⟨ns, rfl, hbehind⟩ := hns.of_token htoken
    have hkeep := literal_kept hapart hblank hkind ((hbefore c (x ++ t) rfl).trans htoken) next
    obtain ⟨es, rfl, hagain⟩ := hes.of_token hkeep
    have hwhole := (ih (fun _ _ _ => rfl) hbehind hagain).append_token before' kind
      (u := c :: x) rfl
    rwa [visible_token hkind] at hwhole

/-! ### What the flags tell -/

theorem isComment_visible (m : Mark) : m.visible.isComment = false := by
  unfold Mark.visible
  split
  · rfl
  · next h => exact Bool.not_eq_true _ ▸ h

theorem visible_eq_inside_iff {kind : Token.Kind} (hkind : kind ≠ .comment) {m : Mark} :
    m.visible = .inside kind ↔ m = .inside kind := by
  cases m with
  | plain => rfl
  | opens kind' => cases kind' <;> simp [Mark.visible, Mark.isComment, Mark.kind?]
  | inside kind' =>
    cases kind' with
    | comment => simp [Mark.visible, Mark.isComment, Mark.kind?, hkind.symm]
    | _ => rfl

/-- Without the comments code has its other tokens. -/
theorem tokensFrom_visible (offset : Nat) (ms : List Mark) :
    tokensFrom offset (ms.map Mark.visible) =
      (tokensFrom offset ms).filter (·.kind ≠ .comment) := by
  induction ms generalizing offset with
  | nil => rfl
  | cons m ms ih =>
    cases m with
    | plain => exact ih (offset + 1)
    | inside kind => cases kind <;> exact ih (offset + 1)
    | opens kind =>
      by_cases hkind : kind = .comment
      · subst hkind
        rw [tokensFrom, List.filter_cons_of_neg (by simp)]
        exact ih (offset + 1)
      · have hopens : (Mark.opens kind).visible = .opens kind := by
          cases kind with
          | comment => exact absurd rfl hkind
          | _ => rfl
        -- A token that is no comment keeps its length.
        have hlength : ((ms.map Mark.visible).takeWhile (· = .inside kind)).length =
            (ms.takeWhile (· = .inside kind)).length := by
          rw [List.takeWhile_map, List.length_map]
          congr 2
          funext m
          exact decide_eq_decide.mpr (visible_eq_inside_iff hkind)
        rw [List.map_cons, hopens, tokensFrom, tokensFrom, hlength, ih,
          List.filter_cons_of_pos (by simpa using hkind)]

/-- Code without comments has its tokens where it had them. -/
theorem maskWith_visible (t : Text) (ms : List Mark) :
    maskWith Mark.isOpaque (maskWith Mark.isComment t ms) (ms.map Mark.visible) =
      maskWith Mark.isOpaque t ms := by
  induction t generalizing ms with
  | nil => rfl
  | cons c t ih =>
    cases ms with
    | nil => rfl
    | cons m ms =>
      refine congrArg₂ List.cons ?_ (ih ms)
      cases m with
      | plain => rfl
      | opens kind => cases kind <;> rfl
      | inside kind => cases kind <;> rfl

theorem mem_tokensFrom_of_opens {kind : Token.Kind} (offset : Nat) {k : Nat}
    (h : ms[k]? = some (.opens kind)) :
    ∃ stop, ⟨kind, offset + k, stop⟩ ∈ tokensFrom offset ms := by
  induction ms generalizing offset k with
  | nil => simp at h
  | cons m ms ih =>
    cases k with
    | zero =>
      obtain rfl : m = .opens kind := by simpa using h
      exact ⟨_, List.mem_cons_self⟩
    | succ k =>
      obtain ⟨stop, hmem⟩ := ih (offset + 1) (k := k) (by simpa using h)
      rw [Nat.add_right_comm, Nat.add_assoc] at hmem
      refine ⟨stop, ?_⟩
      cases m with
      | plain => exact hmem
      | inside kind => exact hmem
      | opens kind => exact List.mem_cons_of_mem _ hmem

/-- Either the flags are kept, and with them all that is not a comment, or somewhere the piece has a
comment whose first character, which is no blank, stands outside the tokens of the code. -/
theorem ReadAgain.kept_or_lost (hd : d = rust ∨ d = python) (h : ReadAgain d before e ns es) :
    (FlagsKept d before e ns ∧ es = (ns.take e.length).map Mark.visible) ∨
    (¬ FlagsKept d before e ns ∧ ∃ (k : Nat) (y : Char), e[k]? = some y ∧ isBlank y = false ∧
      ns[k]? = some .plain ∧ es[k]? = some (.opens .comment) ∧
      ∃ j < e.length, ns[j]? = some (.opens .comment)) := by
  cases h with
  | kept flags marks => exact .inl ⟨flags, marks⟩
  | lost r m s text marker plain noFlag opens comment =>
    have hnot : ¬ FlagsKept d before e ns := by
      intro flags
      rw [flags r m s text marker plain] at noFlag
      cases noFlag
    obtain rfl := (marker_of_builtin hd marker).2
    refine .inr ⟨hnot, r.length, '#', ?_, by decide, plain, opens, comment⟩
    rw [text, List.getElem?_append_right (Nat.le_refl _), Nat.sub_self]
    rfl

namespace ReadAgain

variable (hd : d = rust ∨ d = python)
include hd

theorem no_comment_iff (h : ReadAgain d before e ns es) :
    (∀ m ∈ es, m.isComment = false) ↔ FlagsKept d before e ns := by
  rcases h.kept_or_lost hd with ⟨hkept, rfl⟩ | ⟨hlost, k, y, _, _, _, hopens, _⟩
  · refine iff_of_true (fun m hm => ?_) hkept
    obtain ⟨m, _, rfl⟩ := List.mem_map.mp hm
    exact isComment_visible m
  · refine iff_of_false (fun hall => ?_) hlost
    exact absurd (hall _ (List.mem_of_getElem? hopens)) (by decide)

theorem tokens_iff (h : ReadAgain d before e ns es) (offset : Nat) :
    tokensFrom offset es = (tokensFrom offset (ns.take e.length)).filter (·.kind ≠ .comment) ↔
      FlagsKept d before e ns := by
  rw [← tokensFrom_visible]
  rcases h.kept_or_lost hd with ⟨hkept, rfl⟩ | ⟨hlost, k, y, _, _, _, hopens, _⟩
  · exact iff_of_true rfl hkept
  · refine iff_of_false (fun hsame => ?_) hlost
    obtain ⟨stop, hmem⟩ := mem_tokensFrom_of_opens offset hopens
    rw [hsame, tokensFrom_visible] at hmem
    exact absurd (List.mem_filter.mp hmem).2 (by simp)

/-- The piece has the mask of the code, from which it is cut, just if its flags are kept. -/
theorem mask_iff {i : Nat} (h : ReadAgain d before e (ms.drop i) es)
    (hshown : (maskWith Mark.isComment t ms).slice i (i + e.length) = e) :
    maskWith Mark.isOpaque e es = (maskWith Mark.isOpaque t ms).slice i (i + e.length) ↔
      FlagsKept d before e (ms.drop i) := by
  rcases h.kept_or_lost hd with
    ⟨hkept, rfl⟩ | ⟨hlost, k, y, hy, hyblank, hplain, hopens, _⟩
  · refine iff_of_true ?_ hkept
    have hslice {hidden : Mark → Bool} : (maskWith hidden t ms).slice i (i + e.length) =
        maskWith hidden ((t.drop i).take e.length) ((ms.drop i).take e.length) := by
      rw [maskWith_take, maskWith_drop, Text.slice, Nat.add_sub_cancel_left]
    rw [hslice] at hshown ⊢
    have hvisible := maskWith_visible ((t.drop i).take e.length) ((ms.drop i).take e.length)
    rwa [hshown] at hvisible
  · -- The piece hides a character that the code shows.
    refine iff_of_false (fun hsame => ?_) hlost
    have hk : k < i + e.length - i := by
      rw [Nat.add_sub_cancel_left]
      exact (List.getElem?_eq_some_iff.mp hy).1
    rw [List.getElem?_drop] at hplain
    have hshows : ((maskWith Mark.isOpaque t ms).slice i (i + e.length))[k]? = some y := by
      rw [Text.getElem?_slice hk, getElem?_maskWith _ rfl hplain,
        ← getElem?_maskWith Mark.isComment rfl hplain, ← Text.getElem?_slice hk, hshown, hy]
    have hhides : (maskWith Mark.isOpaque e es)[k]? = some (blanked y) := by
      unfold maskWith
      rw [List.getElem?_zipWith, hy, hopens]
      rfl
    rw [← hsame, hhides] at hshows
    rw [← Option.some.inj hshows, isBlank_blanked] at hyblank
    cases hyblank

/-- Where the code has no comment no flag is lost. -/
theorem flagsKept (h : ReadAgain d before e ns es)
    (hnone : ∀ m ∈ ns.take e.length, m.isComment = false) : FlagsKept d before e ns := by
  rcases h.kept_or_lost hd with ⟨hkept, _⟩ | ⟨_, _, _, _, _, _, _, j, hj, hcomment⟩
  · exact hkept
  · have hmem : Mark.opens .comment ∈ ns.take e.length := by
      refine List.mem_of_getElem? (i := j) ?_
      rw [List.getElem?_take_of_lt hj, hcomment]
    exact absurd (hnone _ hmem) (by decide)

end ReadAgain

/-! ### The expression of a block -/

/-- The token lies between two offsets. -/
def Token.Extent.within (a b : Nat) (x : Token.Extent) : Bool := a ≤ x.start && x.stop ≤ b

theorem Token.Extent.within_iff {a b : Nat} {x : Token.Extent} :
    x.within a b = true ↔ a ≤ x.start ∧ x.stop ≤ b := by
  rw [within, Bool.and_eq_true, decide_eq_true_eq, decide_eq_true_eq]

/-- Between two places outside tokens a text has the tokens that it has alone. -/
theorem tokensFrom_within {a n : Nat} (hn : a + n ≤ ms.length)
    (hfirst : ∀ kind, (ms.drop a).head? ≠ some (.inside kind))
    (hlast : ∀ kind, (ms.drop (a + n)).head? ≠ some (.inside kind)) :
    (tokensFrom 0 ms).filter (Token.Extent.within a (a + n)) =
      tokensFrom a ((ms.drop a).take n) := by
  -- The tokens are those in front of the first place, those between the two and those behind the
  -- second.
  have hbefore : tokensFrom 0 ms = tokensFrom 0 (ms.take a) ++ tokensFrom a (ms.drop a) := by
    have hsplit := tokensFrom_append 0 (ms.take a) hfirst
    rwa [← tokensFrom_shift, List.take_append_drop, List.length_take_of_le (by omega),
      Nat.zero_add] at hsplit
  have hbehind : tokensFrom a (ms.drop a) =
      tokensFrom a ((ms.drop a).take n) ++ tokensFrom (a + n) (ms.drop (a + n)) := by
    rw [← List.drop_drop] at hlast ⊢
    have hsplit := tokensFrom_append a ((ms.drop a).take n) hlast
    rwa [← tokensFrom_shift, List.take_append_drop,
      List.length_take_of_le (by rw [List.length_drop]; omega)] at hsplit
  have hnone : (tokensFrom 0 (ms.take a)).filter (Token.Extent.within a (a + n)) = [] := by
    rw [List.filter_eq_nil_iff]
    intro x hx hwithin
    have hstop := (stop_le_of_mem_tokensFrom hx).2
    have hlt := start_lt_stop_of_mem_tokensFrom hx
    rw [List.length_take_of_le (by omega)] at hstop
    rw [Token.Extent.within_iff] at hwithin
    omega
  have hnone' : (tokensFrom (a + n) (ms.drop (a + n))).filter
      (Token.Extent.within a (a + n)) = [] := by
    rw [List.filter_eq_nil_iff]
    intro x hx hwithin
    have hstart := (stop_le_of_mem_tokensFrom hx).1
    have hlt := start_lt_stop_of_mem_tokensFrom hx
    rw [Token.Extent.within_iff] at hwithin
    omega
  have hall : (tokensFrom a ((ms.drop a).take n)).filter (Token.Extent.within a (a + n)) =
      tokensFrom a ((ms.drop a).take n) := by
    rw [List.filter_eq_self]
    intro x hx
    obtain ⟨hstart, hstop⟩ := stop_le_of_mem_tokensFrom hx
    have hle := List.length_take_le n (ms.drop a)
    rw [Token.Extent.within_iff]
    omega
  rw [hbefore, hbehind, List.filter_append, List.filter_append, hnone, hall, hnone',
    List.nil_append, List.append_nil]

namespace Block

variable {base : Int} {b : Block}

/-- The expression of a block is lexed alone without a comment, and with the other tokens that the
block has there, just if its flags are kept. It keeps them in Rust, where there are none, and where
the block has no comment in it. -/
theorem expr_tokens_iff (hd : d = rust ∨ d = python) (h : read d base t = .ok b) {tail : Tail}
    (htail : tail ∈ b.tail) :
    ∃ (ms es : List Mark) (i : Nat), marks d t = .ok ms ∧ marks d tail.expr = .ok es ∧
      tail.exprOffset = base + i ∧
      ((∀ m ∈ es, m.isComment = false) ↔ FlagsKept d none tail.expr (ms.drop i)) ∧
      (tokensFrom i es = ((tokensFrom 0 ms).filter
          (Token.Extent.within i (i + tail.expr.length))).filter (·.kind ≠ .comment) ↔
        FlagsKept d none tail.expr (ms.drop i)) ∧
      (mask d tail.expr = (mask d t).map (·.slice i (i + tail.expr.length)) ↔
        FlagsKept d none tail.expr (ms.drop i)) ∧
      (d = rust → FlagsKept d none tail.expr (ms.drop i)) ∧
      ((∀ m ∈ (ms.drop i).take tail.expr.length, m.isComment = false) →
        FlagsKept d none tail.expr (ms.drop i)) := by
  obtain ⟨ms, hms, hlies⟩ := liesIn_of_read h
  have hlexed := marks_ok_iff.mp hms
  obtain ⟨start, u, w, _, hstart, hbetween⟩ := exists_between hd h hms htail
  obtain ⟨before, hpiece, hdrop, hsame⟩ := hbetween.exists_blanked hd hlexed hstart
  obtain ⟨es, hes, _, _⟩ := hpiece.exists_lexed hd hsame
  have hagain := hpiece.readAgain hd hsame hdrop hes
  obtain ⟨i, hi, _, _, hle, hshown⟩ := hlies.expr tail htail
  obtain rfl : i = start + u.length := by
    have hoffset := hbetween.offset
    omega
  generalize start + u.length = i at *
  rw [length_maskWith _ hlexed.length_eq, ← hlexed.length_eq] at hle
  -- The expression is cut outside tokens.
  have hspan := tokensFrom_within hle hdrop.head_ne_inside (by
    obtain ⟨_, hbehind⟩ := hpiece.behind hdrop
    rw [List.drop_drop, List.drop_drop] at hbehind
    exact hbehind.head_ne_inside)
  have hmarks : marks d tail.expr = .ok es := marks_ok_iff.mpr hes
  refine ⟨ms, es, i, hms, hmarks, hi, hagain.no_comment_iff hd, ?_, ?_, ?_, hagain.flagsKept hd⟩
  · rw [hspan]
    exact hagain.tokens_iff hd i
  · unfold mask
    rw [hmarks, hms, Except.map, Except.map, Except.map, Except.ok.injEq]
    exact hagain.mask_iff hd hshown
  · rintro rfl r m s _ hm
    exact absurd hm List.not_mem_nil

/-- The first number sign is a flag in the block, since a brace stands in the comment that the
second one opens. In the expression it opens a comment. -/
theorem expr_tokens_iff_flag_lost :
    read python 1 "d[x:#a#\x7d\n1]:>5" = .ok ⟨[], some ⟨"d[x:#a  \n1]", some ">5", 1, 13⟩⟩ ∧
      (∃ es, marks python "d[x:#a  \n1]" = .ok es ∧ ¬ ∀ m ∈ es, m.isComment = false) ∧
      mask python "d[x:#a  \n1]" ≠ (mask python "d[x:#a#\x7d\n1]:>5").map (·.slice 0 11) := by
  have hread : read python 1 "d[x:#a#\x7d\n1]:>5" =
      .ok ⟨[], some ⟨"d[x:#a  \n1]", some ">5", 1, 13⟩⟩ :=
    Outcome.ok_of_toOption (by decide +kernel)
  have hblock : marks python "d[x:#a#\x7d\n1]:>5" =
      .ok (List.replicate 6 .plain ++ [.opens .comment, .inside .comment] ++
        List.replicate 6 .plain) := Outcome.ok_of_toOption (by decide +kernel)
  obtain ⟨ms, es, i, hms, hes, hi, hcomment, _, hmask, _⟩ :=
    expr_tokens_iff (.inr rfl) hread rfl
  obtain rfl : i = 0 := by
    have hoffset : (1 : Int) = 1 + i := hi
    omega
  have hplain : ms[4]? = some .plain := by
    rw [Except.ok.inj (hms.symm.trans hblock)]
    rfl
  have hlost : ¬ FlagsKept python none "d[x:#a  \n1]" (ms.drop 0) := fun hkept =>
    absurd (hkept "d[x:" "#" "a  \n1]" rfl (List.mem_singleton.mpr rfl) hplain) (by decide)
  exact ⟨hread, ⟨es, hes, mt hcomment.mp hlost⟩, mt hmask.mp hlost⟩

end Block
end Stencil
