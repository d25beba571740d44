import Stencil.Block
import Stencil.Proofs.Token.Edge

/-! # Code with its comments blanked

  The expression at the end of a block is cut out of the code with its comments blanked, and is then
  lexed again on its own. `Blanked` describes such a piece next to the code that it comes from, one
  token at a time: it goes along with the code up to some place outside tokens, and has blanks where
  the code has comments.

  The piece is lexed without a fault if the code was, although its tokens may be other ones. A plain
  character either opens no token in the piece, or it opens a comment that is over where a comment
  of the code was over; `PlainStep` says so of a dialect. What is shown of the piece is `LexedWithin`,
  with one lemma for each rule, and `Blanked.lexed` is the induction.
-/

namespace Stencil

/-- A piece `e` of a text `t` with its comments blanked, up to a place outside tokens. -/
inductive Blanked (d : Dialect) : (before : Option Char) → (t e : Text) → Prop
  /-- The place at which the piece ends. -/
  | stop {before t} (h : ∀ x ∈ t.head?, d.Idle x) : Blanked d before t []
  /-- A character outside tokens. -/
  | plain {before c t e} (h : Token.at? d before (c :: t) = .ok none)
      (next : Blanked d (some c) t e) : Blanked d before (c :: t) (c :: e)
  /-- A comment, which is blanked. -/
  | comment {before c x t e}
      (h : Token.at? d before (c :: (x ++ t)) = .ok (some ⟨.comment, x.length + 1⟩))
      (next : Blanked d (c :: x).getLast? t e) :
      Blanked d before (c :: (x ++ t)) ((c :: x).map blanked ++ e)
  /-- A string or a character literal, which stays as it is. -/
  | literal {before kind c x t e} (hkind : kind ≠ .comment)
      (h : Token.at? d before (c :: (x ++ t)) = .ok (some ⟨kind, x.length + 1⟩))
      (next : Blanked d (c :: x).getLast? t e) : Blanked d before (c :: (x ++ t)) (c :: (x ++ e))

variable {d : Dialect} {before before' : Option Char} {c : Char} {t e x : Text} {ms : List Mark}

theorem isBlank_blanked (c : Char) : isBlank (blanked c) = true := by
  unfold blanked
  split <;> decide

/-! ### Pieces of code that is lexed -/

theorem maskWith_append (hidden : Mark → Bool) {s t : Text} {ms ns : List Mark}
    (h : s.length = ms.length) :
    maskWith hidden (s ++ t) (ms ++ ns) = maskWith hidden s ms ++ maskWith hidden t ns := by
  unfold maskWith
  rw [List.zipWith_append h]

theorem maskWith_take (hidden : Mark → Bool) (t : Text) (ms : List Mark) (n : Nat) :
    maskWith hidden (t.take n) (ms.take n) = (maskWith hidden t ms).take n := List.take_zipWith.symm

theorem maskWith_drop (hidden : Mark → Bool) (t : Text) (ms : List Mark) (n : Nat) :
    maskWith hidden (t.drop n) (ms.drop n) = (maskWith hidden t ms).drop n := List.drop_zipWith.symm

theorem maskWith_replicate (hidden : Mark → Bool) (x : Text) (m : Mark) :
    maskWith hidden x (List.replicate x.length m) = if hidden m then x.map blanked else x := by
  induction x with
  | nil => cases hidden m <;> rfl
  | cons c x ih =>
    rw [List.length_cons, List.replicate_succ]
    show (if hidden m then blanked c else c) :: maskWith hidden x _ = _
    rw [ih]
    cases hidden m <;> rfl

theorem isComment_opens (kind : Token.Kind) :
    Mark.isComment (.opens kind) = decide (kind = .comment) := by cases kind <;> rfl

theorem isComment_inside (kind : Token.Kind) :
    Mark.isComment (.inside kind) = decide (kind = .comment) := by cases kind <;> rfl

theorem isBlank_of_mem_map_blanked (x : Text) : ∀ y ∈ x.map blanked, isBlank y = true := by
  intro y hy
  obtain ⟨a, _, rfl⟩ := List.mem_map.mp hy
  exact isBlank_blanked a

theorem neutral_map_blanked (x : Text) : Token.Neutral (x.map blanked).getLast? :=
  Token.neutral_of_isBlank fun y hy => isBlank_of_mem_map_blanked x y (List.mem_of_getLast? hy)

/-- What is shown of a token: blanks of a comment, and any other token as it is. -/
theorem maskWith_token (kind : Token.Kind) (c : Char) (x t : Text) (ms : List Mark) :
    maskWith Mark.isComment (c :: (x ++ t))
        (.opens kind :: (List.replicate x.length (.inside kind) ++ ms)) =
      (if kind = .comment then (c :: x).map blanked else c :: x) ++
        maskWith Mark.isComment t ms := by
  show (if Mark.isComment (.opens kind) then blanked c else c) ::
    maskWith Mark.isComment (x ++ t) _ = _
  rw [maskWith_append _ (by rw [List.length_replicate]), maskWith_replicate, isComment_opens,
    isComment_inside]
  by_cases hkind : kind = .comment
  · simp [hkind]
  · simp [hkind]

theorem drop_token (c : Char) (x t : Text) (k : Nat) :
    (c :: (x ++ t)).drop (x.length + 1 + k) = t.drop k := by
  rw [← List.length_cons (a := c), ← List.cons_append, List.drop_length_add_append]

theorem drop_marks_token (kind : Token.Kind) (x : Text) (ms : List Mark) (k : Nat) :
    (Mark.opens kind :: (List.replicate x.length (.inside kind) ++ ms)).drop (x.length + 1 + k) =
      ms.drop k := by
  have hlength : x.length + 1 =
      (Mark.opens kind :: List.replicate x.length (Mark.inside kind)).length := by simp
  rw [hlength, ← List.cons_append, List.drop_length_add_append]

theorem mem_getLast?_cons {α : Type} {c y : α} {e : List α} (h : y ∈ e.getLast?) :
    y ∈ (c :: e).getLast? := by
  rw [List.getLast?_cons, Option.mem_def.mp h]
  rfl

/-- A cut outside tokens, or at the end of the text, lies behind a token that the text begins
with. -/
theorem cut_behind_token {kind : Token.Kind} {k : Nat} {y : Char}
    (hcut : ∀ m ∈ (Mark.opens kind :: (List.replicate x.length (Mark.inside kind) ++ ms))[k]?,
      m = .plain ∧ (c :: (x ++ t))[k]? = some y) :
    ∃ j, k = x.length + 1 + j ∧ ∀ m ∈ ms[j]?, m = .plain ∧ t[j]? = some y := by
  cases k with
  | zero => exact absurd (hcut _ rfl).1 (by simp)
  | succ k =>
    rw [List.getElem?_cons_succ, List.getElem?_cons_succ] at hcut
    by_cases hk : k < x.length
    · have hinside : (List.replicate x.length (Mark.inside kind) ++ ms)[k]? =
          some (.inside kind) := by
        rw [List.getElem?_append_left (by rwa [List.length_replicate]),
          List.getElem?_replicate_of_lt hk]
      exact absurd (hcut _ hinside).1 (by simp)
    · obtain ⟨j, rfl⟩ := Nat.exists_eq_add_of_le (Nat.not_lt.mp hk)
      have hms : (List.replicate x.length (Mark.inside kind) ++ ms)[x.length + j]? = ms[j]? := by
        rw [List.getElem?_append_right (by rw [List.length_replicate]; omega),
          List.length_replicate, Nat.add_sub_cancel_left]
      have ht : (x ++ t)[x.length + j]? = t[j]? := by
        rw [List.getElem?_append_right (by omega), Nat.add_sub_cancel_left]
      rw [hms, ht] at hcut
      exact ⟨j, by omega, hcut⟩

/-- What is shown of code up to a colon outside tokens, or up to its end, but for the blanks after
it. -/
theorem blanked_of_lexed (hd : d.Apart) (hblank : ∀ b, isBlank b = true → d.Inert b)
    (hcolon : d.Idle ':') (h : Lexed d before t ms) {k : Nat} {b : Text}
    (hcut : ∀ m ∈ ms[k]?, m = .plain ∧ t[k]? = some ':')
    (hshown : (maskWith Mark.isComment t ms).take k = e ++ b) (hb : b.all isBlank = true)
    (hlast : ∀ y ∈ e.getLast?, isBlank y = false) : Blanked d before t e := by
  induction h generalizing k e with
  | nil =>
    obtain ⟨rfl, _⟩ : e = [] ∧ b = [] := by simpa [maskWith] using hshown
    exact .stop (by simp)
  | @plain _ c t ms htoken next ih =>
    cases k with
    | zero =>
      obtain ⟨rfl, _⟩ : e = [] ∧ b = [] := by simpa using hshown
      obtain rfl : c = ':' := by simpa using (hcut .plain rfl).2
      exact .stop (by simpa using hcolon)
    | succ k =>
      have hshown : c :: (maskWith Mark.isComment t ms).take k = e ++ b := hshown
      cases e with
      | nil =>
        -- The character is the first of the blanks after the piece.
        rw [List.nil_append] at hshown
        rw [← hshown, List.all_cons, Bool.and_eq_true] at hb
        exact .stop (by simpa using (hblank c hb.1).toIdle)
      | cons c' e =>
        obtain ⟨rfl, hrest⟩ := List.cons.inj hshown
        exact .plain htoken (ih hcut hrest fun y hy => hlast y (mem_getLast?_cons hy))
  | @token _ kind c x t ms htoken next ih =>
    obtain ⟨j, rfl, hcut'⟩ := cut_behind_token hcut
    rw [maskWith_token] at hshown
    by_cases hkind : kind = .comment
    · subst hkind
      have hlen : x.length + 1 = ((c :: x).map blanked).length := by simp
      rw [if_pos rfl, hlen, List.take_length_add_append] at hshown
      by_cases he : e = []
      · subst he
        refine .stop ?_
        intro y hy
        obtain rfl := Option.some.inj hy
        exact (hd.comments c (Token.opensComment_of_at? hd.toRegular htoken)).1
      · rcases List.append_eq_append_iff.mp hshown with ⟨e', rfl, hrest⟩ | ⟨w, hw, _⟩
        · refine .comment htoken (ih hcut' hrest fun y hy => hlast y ?_)
          rw [List.getLast?_append, Option.mem_def.mp hy]
          rfl
        · -- A piece that ends within the comment would end in a blank.
          exfalso
          have hmem := List.getLast_mem he
          have hy := hlast _ (List.getLast?_eq_some_getLast he)
          have hmap : e.getLast he ∈ (c :: x).map blanked := by
            rw [hw]
            exact List.mem_append_left _ hmem
          obtain ⟨a, _, ha⟩ := List.mem_map.mp hmap
          rw [← ha, isBlank_blanked] at hy
          exact absurd hy (by decide)
    · have hlen : x.length + 1 = (c :: x).length := rfl
      rw [if_neg hkind, hlen, List.take_length_add_append] at hshown
      rcases List.append_eq_append_iff.mp hshown with ⟨e', rfl, hrest⟩ | ⟨w, hw, hbw⟩
      · refine .literal hkind htoken (ih hcut' hrest fun y hy => hlast y ?_)
        rw [List.getLast?_append, Option.mem_def.mp hy]
        rfl
      · -- The blanks after the piece cannot begin in the token, which ends in no blank.
        rw [hbw, List.all_append, Bool.and_eq_true] at hb
        obtain rfl := Token.literal_no_blanks hblank hkind htoken hw hb.1
        rw [List.append_nil] at hw
        rw [← hw]
        have hnext := ih (e := []) hcut' hbw.symm (by simp)
        rw [show c :: x = c :: (x ++ []) by rw [List.append_nil]]
        exact .literal hkind htoken hnext

/-! ### Lexing a piece -/

/-- What the text `e`, lexed with the marks `ms`, shows outside its tokens, blanks apart, the text `t`
has at the same offset outside the tokens of `ns`. -/
def Hides (t : Text) (ns : List Mark) (e : Text) (ms : List Mark) : Prop :=
  ∀ k c, PlainAt e ms c k → isBlank c = false → PlainAt t ns c k

namespace Hides

theorem nil {ns : List Mark} : Hides t ns [] [] := by
  intro k c h
  exact absurd h.1 (by simp)

theorem refl (t : Text) (ns : List Mark) : Hides t ns t ns := fun _ _ h _ => h

theorem of_hidden {ns : List Mark} (h : ∀ m ∈ ms, m.isOpaque = true) : Hides t ns e ms := by
  intro k c hplain
  exact absurd (h _ (List.mem_of_getElem? hplain.2)) (by decide)

theorem of_blank {ns : List Mark} (h : ∀ c ∈ e, isBlank c = true) : Hides t ns e ms := by
  intro k c hplain hc
  rw [h c (List.mem_of_getElem? hplain.1)] at hc
  exact absurd hc (by decide)

/-- Texts one behind the other. -/
theorem append {u u' : Text} {ns ns' ls : List Mark} (hfirst : Hides u ns u' ns')
    (h : Hides t ls e ms) (hns : ns.length = u.length) (hns' : ns'.length = u'.length)
    (hsame : u.length = u'.length) : Hides (u ++ t) (ns ++ ls) (u' ++ e) (ns' ++ ms) := by
  intro k c hplain hc
  by_cases hk : k < u'.length
  · have hfirst := hfirst k c (by
      unfold PlainAt at hplain ⊢
      rwa [List.getElem?_append_left hk, List.getElem?_append_left (by omega)] at hplain) hc
    unfold PlainAt at hfirst ⊢
    rwa [List.getElem?_append_left (by omega), List.getElem?_append_left (by omega)]
  · obtain ⟨j, rfl⟩ := Nat.exists_eq_add_of_le (Nat.not_lt.mp hk)
    have hbehind := h j c ((plainAt_append_iff hns').mp hplain) hc
    rw [← hsame]
    exact (plainAt_append_iff hns).mpr hbehind

end Hides

/-- Behind blanks a text is lexed as it is. -/
theorem lexed_of_blanks (hd : d.Regular) (hblank : ∀ b, isBlank b = true → d.Inert b) {b : Text}
    (hne : b ≠ []) (hb : ∀ y ∈ b, isBlank y = true) (h : Lexed d b.getLast? e ms) :
    Lexed d before (b ++ e) (List.replicate b.length .plain ++ ms) := by
  induction b generalizing before with
  | nil => exact absurd rfl hne
  | cons c b ih =>
    have hc := hblank c (hb c List.mem_cons_self)
    have htoken : Token.at? d before (c :: (b ++ e)) = .ok none := Token.at?_of_inert hd hc _
    by_cases hb' : b = []
    · subst hb'
      exact .plain htoken h
    · have hlast : (c :: b).getLast? = b.getLast? := by
        rw [List.getLast?_cons, List.getLast?_eq_some_getLast hb']
        rfl
      rw [hlast] at h
      exact .plain htoken (ih hb' (fun y hy => hb y (List.mem_cons_of_mem _ hy)) h)

namespace Blanked

/-- A piece begins like the code, or with a blank where the code begins with a comment. -/
theorem head (hd : d.Regular) (h : Blanked d before t e) :
    ∀ q ∈ e.head?, t.head? = some q ∨ isBlank q = true ∧ ∃ y ∈ t.head?, d.OpensComment y := by
  intro q hq
  cases h with
  | stop => simp at hq
  | plain => exact .inl hq
  | literal => exact .inl hq
  | comment htoken =>
    obtain rfl := Option.some.inj hq
    exact .inr ⟨isBlank_blanked _, _, rfl, Token.opensComment_of_at? hd htoken⟩

/-- A piece is the code that it comes from up to the first comment, if there is one. Behind that
comment the code is lexed as it was. -/
theorem first (h : Blanked d before t e) :
    (∃ s, t = e ++ s ∧ ∀ x ∈ s.head?, d.Idle x) ∨
    ∃ r before₁ c x t' e', t = r ++ c :: (x ++ t') ∧ e = r ++ ((c :: x).map blanked ++ e') ∧
      Token.at? d before₁ (c :: (x ++ t')) = .ok (some ⟨.comment, x.length + 1⟩) ∧
      Blanked d (c :: x).getLast? t' e' ∧
      ∀ ms, Lexed d before t ms → ms[r.length]? = some (.opens .comment) ∧
        Lexed d (c :: x).getLast? t' (ms.drop (r.length + (x.length + 1))) := by
  induction h with
  | stop h => exact .inl ⟨_, rfl, h⟩
  | @plain _ c t e htoken _ ih =>
    rcases ih with ⟨s, rfl, hs⟩ | ⟨r, before₁, y, x, t', e', rfl, rfl, hcomment, hnext, hbehind⟩
    · exact .inl ⟨s, rfl, hs⟩
    · refine .inr ⟨c :: r, before₁, y, x, t', e', rfl, rfl, hcomment, hnext, fun ms hms => ?_⟩
      obtain ⟨ns, rfl, hns⟩ := hms.of_plain htoken
      rw [List.length_cons, List.getElem?_cons_succ, Nat.add_right_comm, List.drop_succ_cons]
      exact hbehind ns hns
  | @comment before c x t e h next _ =>
    -- The first comment stands here.
    refine .inr ⟨[], before, c, x, t, e, rfl, rfl, h, next, fun ms hms => ?_⟩
    obtain ⟨ns, rfl, hns⟩ := hms.of_token h
    rw [List.length_nil, Nat.zero_add, ← Nat.add_zero (x.length + 1), drop_marks_token]
    exact ⟨rfl, hns⟩
  | @literal _ kind c x t e _ h _ ih =>
    rcases ih with ⟨s, rfl, hs⟩ | ⟨r, before₁, y, x', t', e', rfl, rfl, hcomment, hnext, hbehind⟩
    · exact .inl ⟨s, by simp, hs⟩
    · refine .inr ⟨c :: (x ++ r), before₁, y, x', t', e', by simp, by simp, hcomment, hnext,
        fun ms hms => ?_⟩
      obtain ⟨ns, rfl, hns⟩ := hms.of_token h
      rw [List.length_cons, List.length_append, List.getElem?_cons_succ,
        List.getElem?_append_right (by rw [List.length_replicate]; omega), List.length_replicate,
        Nat.add_sub_cancel_left, Nat.add_right_comm x.length, Nat.add_assoc (x.length + 1),
        drop_marks_token]
      exact hbehind ns hns

/-- Behind a piece the code is lexed as it was. -/
theorem behind (h : Blanked d before t e) (hms : Lexed d before t ms) :
    ∃ before₁, Lexed d before₁ (t.drop e.length) (ms.drop e.length) := by
  induction h generalizing ms with
  | stop => exact ⟨_, hms⟩
  | plain htoken _ ih =>
    obtain ⟨ns, rfl, hns⟩ := hms.of_plain htoken
    exact ih hns
  | @comment _ c x t e htoken _ ih =>
    obtain ⟨ns, rfl, hns⟩ := hms.of_token htoken
    rw [List.length_append, List.length_map, List.length_cons, drop_marks_token, drop_token]
    exact ih hns
  | @literal _ kind c x t e _ htoken _ ih =>
    obtain ⟨ns, rfl, hns⟩ := hms.of_token htoken
    rw [List.length_cons, List.length_append, Nat.add_right_comm, drop_marks_token, drop_token]
    exact ih hns

/-- What a dialect does at a plain character of a piece: it opens no token there, or a comment that
is over where a line ends, in the piece and in the code, and another piece goes on. -/
def PlainStep (d : Dialect) : Prop :=
  ∀ {before : Option Char} {c : Char} {t e : Text},
    Token.at? d before (c :: t) = .ok none → Blanked d (some c) t e →
      Token.at? d before (c :: e) = .ok none ∨
      ∃ x e' before₁ y t', e = x ++ e' ∧ t = y ++ t' ∧ y.length = x.length ∧
        Token.at? d before (c :: e) = .ok (some ⟨.comment, x.length + 1⟩) ∧
        Blanked d before₁ t' e' ∧
        (∀ ms, Lexed d (some c) t ms → Lexed d before₁ t' (ms.drop x.length)) ∧
        ∀ y ∈ t'.head?, y = '\n'

/-- In a dialect that does this a plain character of a piece stays plain. -/
def PlainKept (d : Dialect) : Prop :=
  ∀ {before : Option Char} {c : Char} {t e : Text},
    Token.at? d before (c :: t) = .ok none → Blanked d (some c) t e →
      Token.at? d before (c :: e) = .ok none

theorem PlainKept.plainStep (h : PlainKept d) : PlainStep d :=
  fun htoken hpiece => .inl (h htoken hpiece)

/-- A piece behind `before'` is lexed without a fault, and without a comment if plain characters stay
plain. It shows nothing but blanks where the code behind `before` has a token. -/
def LexedWithin (d : Dialect) (before before' : Option Char) (t e : Text) : Prop :=
  ∃ ms, Lexed d before' e ms ∧ (PlainKept d → ∀ m ∈ ms, m.isComment = false) ∧
    ∀ ns, Lexed d before t ns → Hides t ns e ms

/-- What stands before a line feed does not matter to it. -/
theorem at?_lineFeed (hd : d.Regular) (hblank : ∀ b, isBlank b = true → d.Inert b)
    (before before' : Option Char) (t : Text) :
    Token.at? d before ('\n' :: t) = Token.at? d before' ('\n' :: t) := by
  have hfeed := hblank '\n' (by decide)
  rw [Token.at?_of_inert hd hfeed, Token.at?_of_inert hd hfeed]

namespace LexedWithin

theorem plain (hcode : Token.at? d before (c :: t) = .ok none)
    (hnone : Token.at? d before' (c :: e) = .ok none)
    (h : LexedWithin d (some c) (some c) t e) : LexedWithin d before before' (c :: t) (c :: e) := by
  obtain ⟨ms, hms, hkept, hhides⟩ := h
  refine ⟨_, .plain hnone hms, fun hd => ?_, fun ns hcodes => ?_⟩
  · rw [List.forall_mem_cons]
    exact ⟨rfl, hkept hd⟩
  · obtain ⟨ns, rfl, hns⟩ := hcodes.of_plain hcode
    have hfirst := Hides.refl [c] [.plain]
    exact hfirst.append (hhides ns hns) rfl rfl rfl

/-- A comment that only the piece has, because a plain character of the code begins it, hides
whatever the code has there. -/
theorem covered {y : Text} {before₁ : Option Char} (hnot : ¬ PlainKept d)
    (hcode : Token.at? d before (c :: (y ++ t)) = .ok none) (hxy : y.length = x.length)
    (hcomment : Token.at? d before' (c :: (x ++ e)) = .ok (some ⟨.comment, x.length + 1⟩))
    (hbehind : ∀ ns, Lexed d (some c) (y ++ t) ns → Lexed d before₁ t (ns.drop x.length))
    (h : LexedWithin d before₁ (c :: x).getLast? t e) :
    LexedWithin d before before' (c :: (y ++ t)) (c :: (x ++ e)) := by
  obtain ⟨ms, hms, _, hhides⟩ := h
  refine ⟨_, .token hcomment hms, fun hd => (hnot @hd).elim, fun ns hcodes => ?_⟩
  obtain ⟨ns, rfl, hns⟩ := hcodes.of_plain hcode
  have hcount := hns.length_eq
  rw [List.length_append] at hcount
  -- The piece hides all characters of its comment.
  have hfirst : Hides (c :: y) ([.plain] ++ ns.take x.length) (c :: x)
      (.opens .comment :: List.replicate x.length (.inside .comment)) := by
    refine .of_hidden fun m hm => ?_
    rcases List.mem_cons.mp hm with rfl | hm
    · rfl
    · rw [List.eq_of_mem_replicate hm]
      rfl
  have hlength : ([Mark.plain] ++ ns.take x.length).length = (c :: y).length := by
    simp only [List.length_append, List.length_cons, List.length_take, List.length_nil]
    omega
  have hhides := hfirst.append (hhides _ (hbehind ns hns)) hlength (by simp) (by simp [hxy])
  rwa [List.append_assoc, List.take_append_drop] at hhides

/-- A comment of the code is blanks in the piece. -/
theorem comment (hd : d.Regular) (hblank : ∀ b, isBlank b = true → d.Inert b)
    (hcomment : Token.at? d before (c :: (x ++ t)) = .ok (some ⟨.comment, x.length + 1⟩))
    (h : LexedWithin d (c :: x).getLast? ((c :: x).map blanked).getLast? t e) :
    LexedWithin d before before' (c :: (x ++ t)) ((c :: x).map blanked ++ e) := by
  obtain ⟨ms, hms, hkept, hhides⟩ := h
  have hblanks := isBlank_of_mem_map_blanked (c :: x)
  refine ⟨_, lexed_of_blanks hd hblank (List.cons_ne_nil _ _) hblanks hms, fun hd m hm => ?_,
    fun ns hcodes => ?_⟩
  · rcases List.mem_append.mp hm with hm | hm
    · rw [List.eq_of_mem_replicate hm]
      rfl
    · exact hkept hd m hm
  · obtain ⟨ns, rfl, hns⟩ := hcodes.of_token hcomment
    have hfirst : Hides (c :: x) (.opens .comment :: List.replicate x.length (.inside .comment))
        ((c :: x).map blanked) (List.replicate ((c :: x).map blanked).length .plain) :=
      .of_blank hblanks
    exact hfirst.append (hhides ns hns) (by simp) (by simp) (by simp)

theorem literal {kind : Token.Kind} (hkind : kind ≠ .comment)
    (hcode : Token.at? d before (c :: (x ++ t)) = .ok (some ⟨kind, x.length + 1⟩))
    (hkeep : Token.at? d before' (c :: (x ++ e)) = .ok (some ⟨kind, x.length + 1⟩))
    (h : LexedWithin d (c :: x).getLast? (c :: x).getLast? t e) :
    LexedWithin d before before' (c :: (x ++ t)) (c :: (x ++ e)) := by
  obtain ⟨ms, hms, hkept, hhides⟩ := h
  refine ⟨_, .token hkeep hms, fun hd => ?_, fun ns hcodes => ?_⟩
  · rw [List.forall_mem_cons, List.forall_mem_append, isComment_opens, decide_eq_false_iff_not]
    refine ⟨hkind, fun m hm => ?_, hkept hd⟩
    rw [List.eq_of_mem_replicate hm, isComment_inside, decide_eq_false_iff_not]
    exact hkind
  · obtain ⟨ns, rfl, hns⟩ := hcodes.of_token hcode
    have hfirst := Hides.refl (c :: x) (.opens kind :: List.replicate x.length (.inside kind))
    exact hfirst.append (hhides ns hns) (by simp) (by simp) rfl

end LexedWithin

/-- A string or a character literal of the code is one in the piece. -/
theorem literal_kept (hd : d.Apart) (hblank : ∀ b, isBlank b = true → d.Inert b)
    {kind : Token.Kind} (hkind : kind ≠ .comment)
    (h : Token.at? d before (c :: (x ++ t)) = .ok (some ⟨kind, x.length + 1⟩))
    (next : Blanked d before' t e) :
    Token.at? d before (c :: (x ++ e)) = .ok (some ⟨kind, x.length + 1⟩) := by
  refine Token.at?_literal_swap (r := c :: x) hd hkind h fun q hq hquote => ?_
  refine (next.head hd.toRegular q hq).resolve_right fun hb => ?_
  rw [(hblank q hb.1).noQuote] at hquote
  exact absurd hquote (by decide)

/-- After a comment the next token is read as it is after blanks. -/
theorem at?_behind_comment (hd : d.Regular) (hblank : ∀ b, isBlank b = true → d.Inert b)
    (hclose : Token.ClosesNeutral d)
    (h : Token.at? d before (c :: (x ++ t)) = .ok (some ⟨.comment, x.length + 1⟩)) :
    ∀ y u, t = y :: u →
      Token.at? d ((c :: x).map blanked).getLast? t = Token.at? d (c :: x).getLast? t := by
  rintro y u rfl
  rcases Token.comment_last hclose h with hline | hneutral
  · obtain rfl := hline y rfl
    exact at?_lineFeed hd hblank _ _ u
  · rw [Token.at?_of_neutral hneutral, Token.at?_of_neutral (neutral_map_blanked (c :: x))]

/-- Behind the blanks in front of a piece the code is lexed as it was, and the rest of the piece is a
piece of it. No token there looks at the blanks. -/
theorem behind_blanks (hd : d.Regular) (hblank : ∀ b, isBlank b = true → d.Inert b)
    (hclose : Token.ClosesNeutral d) {b : Text} (h : Blanked d before t (b ++ e))
    (hb : b.all isBlank = true) (hne : e ≠ []) (he : ∀ y ∈ e.head?, isBlank y = false)
    (hbefore : ∀ c u, t = c :: u → Token.at? d none t = Token.at? d before t) :
    ∃ before₁, Blanked d before₁ (t.drop b.length) e ∧
      (∀ c u, t.drop b.length = c :: u →
        Token.at? d none (t.drop b.length) = Token.at? d before₁ (t.drop b.length)) ∧
      ∀ ns, Lexed d before t ns → Lexed d before₁ (t.drop b.length) (ns.drop b.length) := by
  generalize hwhole : b ++ e = whole at h
  induction h generalizing b with
  | stop => exact absurd (List.append_eq_nil_iff.mp hwhole).2 hne
  | @plain before c t e' htoken next ih =>
    cases b with
    | nil =>
      obtain rfl : e = c :: e' := hwhole
      exact ⟨before, .plain htoken next, hbefore, fun _ h => h⟩
    | cons c' b =>
      obtain ⟨rfl, rfl⟩ := List.cons.inj hwhole
      rw [List.all_cons, Bool.and_eq_true] at hb
      obtain ⟨before₁, hpiece, hsame, hlexed⟩ := ih hb.2
        (fun _ _ _ => (Token.at?_of_neutral (Token.neutral_blank hb.1) t).symm) rfl
      refine ⟨before₁, hpiece, hsame, fun ns hns => ?_⟩
      obtain ⟨ls, rfl, hls⟩ := hns.of_plain htoken
      exact hlexed ls hls
  | @comment before c x t e' htoken next ih =>
    have hblanks := isBlank_of_mem_map_blanked (c :: x)
    -- The rest of the piece does not begin within the comment, where there are blanks.
    obtain ⟨v, rfl, rfl⟩ : ∃ v, b = (c :: x).map blanked ++ v ∧ v ++ e = e' := by
      rcases List.append_eq_append_iff.mp hwhole with ⟨w, hw, rfl⟩ | ⟨v, hv, rfl⟩
      · cases w with
        | nil => exact ⟨[], by rw [hw, List.append_nil, List.append_nil], rfl⟩
        | cons y w =>
          have hy := hblanks y (by rw [hw]; exact List.mem_append_right _ List.mem_cons_self)
          rw [he y rfl] at hy
          cases hy
      · exact ⟨v, hv, rfl⟩
    rw [List.all_append, Bool.and_eq_true] at hb
    obtain ⟨before₁, hpiece, hsame, hlexed⟩ := ih hb.2 (fun y u ht => by
      rw [← Token.at?_of_neutral (neutral_map_blanked (c :: x))]
      exact at?_behind_comment hd hblank hclose htoken y u ht) rfl
    rw [List.length_append, List.length_map, List.length_cons, drop_token]
    refine ⟨before₁, hpiece, hsame, fun ns hns => ?_⟩
    obtain ⟨ls, rfl, hls⟩ := hns.of_token htoken
    rw [drop_marks_token]
    exact hlexed ls hls
  | @literal before kind c x t e' hkind htoken next ih =>
    cases b with
    | nil =>
      obtain rfl : e = c :: (x ++ e') := hwhole
      exact ⟨before, .literal hkind htoken next, hbefore, fun _ h => h⟩
    | cons c' b =>
      -- A token does not begin with a blank.
      obtain ⟨rfl, _⟩ := List.cons.inj hwhole
      rw [List.all_cons, Bool.and_eq_true] at hb
      rw [Token.at?_of_inert hd (hblank c' hb.1)] at htoken
      cases htoken

/-- A piece is lexed within the code that it comes from. What stands before it is only known to be
read alike at its first character: a comment may have stood there. The induction is on the length of
the code, since a comment of the piece may pass several tokens of the code. -/
theorem lexed (hd : d.Apart) (hblank : ∀ b, isBlank b = true → d.Inert b)
    (hclose : Token.ClosesNeutral d) (hstep : PlainStep d) (h : Blanked d before t e)
    (hbefore : ∀ c u, t = c :: u → Token.at? d before' t = Token.at? d before t) :
    LexedWithin d before before' t e := by
  induction hlen : t.length using Nat.strongRecOn generalizing before before' t e with
  | ind len ih =>
    cases h with
    | stop => exact ⟨[], .nil, fun _ m hm => absurd hm List.not_mem_nil, fun _ _ => .nil⟩
    | @plain _ c t e htoken next =>
      rw [List.length_cons] at hlen
      have hpiece := hbefore c t rfl ▸ htoken
      rcases hstep hpiece next with
        hnone | ⟨x, e', before₁, y, t', rfl, rfl, hxy, hcomment, hrest, hbehind, hline⟩
      · exact .plain htoken hnone (ih t.length (by omega) next (fun _ _ _ => rfl) rfl)
      · rw [List.length_append] at hlen
        have hnot : ¬ PlainKept d := fun hkept => by simp [hkept hpiece next] at hcomment
        -- Behind the comment a line begins, whatever was before it.
        refine .covered hnot htoken hxy hcomment hbehind (ih t'.length (by omega) hrest ?_ rfl)
        rintro y u rfl
        obtain rfl := hline y rfl
        exact at?_lineFeed hd.toRegular hblank _ _ u
    | @comment _ c x t e htoken next =>
      rw [List.length_cons, List.length_append] at hlen
      have hbehind := at?_behind_comment hd.toRegular hblank hclose htoken
      exact .comment hd.toRegular hblank htoken (ih t.length (by omega) next hbehind rfl)
    | @literal _ kind c x t e hkind htoken next =>
      rw [List.length_cons, List.length_append] at hlen
      have hkeep := literal_kept hd hblank hkind ((hbefore c (x ++ t) rfl).trans htoken) next
      exact .literal hkind htoken hkeep (ih t.length (by omega) next (fun _ _ _ => rfl) rfl)

end Blanked
end Stencil
