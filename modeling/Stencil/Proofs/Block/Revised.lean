import Stencil.Proofs.Block.Read
import Stencil.Proofs.Segment.Relexing
import Stencil.Proofs.Token.Content

/-! # Code with other contents in its strings

  Rust code whose strings hold other characters has the same tokens in the same places, and so the
  same parts. `Revised` is the relation between the two texts, a rule for each step of the lexer:
  plain characters stay, and a token stays or is a string with other contents.

  - What opens no token and what is a token before the one text is so before the other
    (`at?_none_revised`, `at?_token_revised`).
  - The texts are the same up to a quote (`Alike`), and so are all regions that a block is read
    from, so that blanks tell nothing new (`Block.read_sameShape`).
-/

namespace Stencil

open Dialect (rust)

variable {before : Option Char} {c : Char} {k i j : Nat} {a a' s t t' x x' : Text} {ms : List Mark}

/-! ### Texts that are the same up to a quote -/

/-- Two texts are the same, or have a quote up to which they are. -/
def Alike (t t' : Text) : Prop := t' = t ∨ ∃ p w w', t = p ++ '"' :: w ∧ t' = p ++ '"' :: w'

namespace Alike

theorem refl (t : Text) : Alike t t := .inl rfl

theorem prepend (p : Text) (h : Alike t t') : Alike (p ++ t) (p ++ t') := by
  rcases h with rfl | ⟨q, w, w', rfl, rfl⟩
  · exact refl _
  · exact .inr ⟨p ++ q, w, w', by simp, by simp⟩

theorem append (s s' : Text) (h : Alike t t') (hs : Alike s s') : Alike (t ++ s) (t' ++ s') := by
  rcases h with rfl | ⟨q, w, w', rfl, rfl⟩
  · exact hs.prepend t'
  · exact .inr ⟨q, w ++ s, w' ++ s', by simp, by simp⟩

theorem take (n : Nat) (h : Alike t t') : Alike (t.take n) (t'.take n) := by
  rcases h with rfl | ⟨p, w, w', rfl, rfl⟩
  · exact refl _
  · rw [List.take_append, List.take_append]
    apply prepend
    cases n - p.length with
    | zero => exact refl _
    | succ m => exact .inr ⟨[], w.take m, w'.take m, rfl, rfl⟩

theorem all_isBlank (h : Alike t t') : t'.all isBlank = t.all isBlank := by
  rcases h with rfl | ⟨p, w, w', rfl, rfl⟩
  · rfl
  · have hquote : isBlank '"' = false := by decide
    simp only [List.all_append, List.all_cons, hquote, Bool.false_and, Bool.and_false]

theorem indent (h : Alike t t') : t'.indent = t.indent := by
  rcases h with rfl | ⟨p, w, w', rfl, rfl⟩
  · rfl
  · have hquote (v : Text) : ('"' :: v).takeWhile isBlank = [] := rfl
    unfold Text.indent
    rw [List.takeWhile_append, List.takeWhile_append, hquote, hquote]

end Alike

/-! ### Revised code -/

/-- `t'` is the code `t`, which has the given marks, with other contents in some of its strings. A
plain quote of character literals is followed by no string that begins with such a quote now and did
not before. -/
inductive Revised : (t t' : Text) → List Mark → Prop
  | nil : Revised [] [] []
  /-- A character outside tokens stays. -/
  | plain {c : Char} {t t' : Text} {ms : List Mark}
      (hliteral : c = '\'' → ∀ w w', t = '"' :: w → t' = '"' :: w' → w'.head? = some '\'' →
        w.head? = some '\'')
      (next : Revised t t' ms) : Revised (c :: t) (c :: t') (.plain :: ms)
  /-- A token, which is `c` and the characters `x` after it. -/
  | token {kind : Token.Kind} {c : Char} {x x' t t' : Text} {ms : List Mark}
      (h : x' = x ∨ kind = .string ∧ Token.OtherContent (c :: x) (c :: x'))
      (next : Revised t t' ms) :
      Revised (c :: (x ++ t)) (c :: (x' ++ t'))
        (.opens kind :: (List.replicate x.length (.inside kind) ++ ms))

/-- A string with other contents is the same up to its first quote, and at its end. -/
theorem Token.OtherContent.alike {u u' : Text} (h : OtherContent u u') :
    Alike u u' ∧ u'.getLast? = u.getLast? := by
  constructor
  · by_cases hquote : u.dropWhile (· ≠ '"') = []
    · -- Without a quote there is no content.
      left
      refine h.eq fun k c c' hk hbad => ?_
      have hlong : (opening u).length = u.length + 1 := by
        unfold opening
        rw [List.length_append, Text.length_takeWhile_of_dropWhile_nil hquote]
        rfl
      omega
    · right
      have hsplit : u = u.takeWhile (· ≠ '"') ++ u.dropWhile (· ≠ '"') :=
        List.takeWhile_append_dropWhile.symm
      obtain ⟨q, w, hw⟩ := List.exists_cons_of_ne_nil hquote
      have hq : q = '"' := by
        have hhead := List.head?_dropWhile_not (· ≠ '"') u
        rw [hw] at hhead
        simpa using hhead
      subst hq
      have hlong : (opening u).length = (u.takeWhile (· ≠ '"')).length + 1 := by
        unfold opening
        rw [List.length_append]
        rfl
      unfold OtherContent at h
      rw [hlong] at h
      generalize u.takeWhile (· ≠ '"') = p at h hsplit
      rw [hw] at hsplit
      rw [hsplit] at h
      obtain ⟨p', v, rfl, hp, hv⟩ := h.append
      obtain ⟨c', w', rfl, hc, hw'⟩ := hv.cons
      obtain rfl := hp.eq fun k c c' hk hbad => by omega
      have hsame : '"' = c' := by
        apply Classical.byContradiction
        intro hne
        have := (hc hne).2
        omega
      exact ⟨p', w, w', hsplit, by rw [hsame]⟩
  · -- Something closes the string.
    rw [List.getLast?_eq_getElem?, List.getLast?_eq_getElem?, h.length]
    refine h.getElem?_eq fun c c' hk hbad => ?_
    have hpos : 0 < (closing u).length := Nat.succ_pos _
    omega

/-- A token that is kept, or has other contents, is as long as before. -/
theorem Token.length_of_kept {kind : Kind}
    (h : x' = x ∨ kind = .string ∧ OtherContent (c :: x) (c :: x')) : x'.length = x.length := by
  rcases h with rfl | ⟨_, h⟩
  · rfl
  · simpa using h.length

namespace Revised

theorem length_eq (h : Revised t t' ms) : t'.length = t.length := by
  induction h with
  | nil => rfl
  | plain _ _ ih => simp [ih]
  | token h _ ih => simp [ih, Token.length_of_kept h]

theorem head?_append (h : Revised t t' ms) (s : Text) : (t' ++ s).head? = (t ++ s).head? := by
  cases h <;> rfl

theorem head?_ne_inside (h : Revised t t' ms) (kind : Token.Kind) :
    ms.head? ≠ some (.inside kind) := by
  cases h <;> simp

theorem alike (h : Revised t t' ms) : Alike t t' := by
  induction h with
  | nil => exact .refl []
  | @plain c _ _ _ _ _ ih => exact ih.prepend [c]
  | @token _ c x x' t t' _ h _ ih =>
    have htoken : Alike (c :: x) (c :: x') := by
      rcases h with rfl | ⟨_, h⟩
      · exact .refl _
      · exact h.alike.1
    exact htoken.append t t' ih

end Revised

/-! ### Tokens before revised code -/

/-- Where no token opens before code, none opens before the revised code. -/
theorem at?_none_revised (h : Revised t t' ms)
    (hliteral : c = '\'' → ∀ w w', t = '"' :: w → t' = '"' :: w' → w'.head? = some '\'' →
      w.head? = some '\'')
    (hnone : Token.at? rust before (c :: (t ++ s)) = .ok none) :
    Token.at? rust before (c :: (t' ++ s)) = .ok none := by
  have hlen := h.length_eq
  rcases h.alike with rfl | ⟨p, w, w', rfl, rfl⟩
  · exact hnone
  · rw [List.append_assoc, List.cons_append] at hnone ⊢
    refine Token.at?_none_behind_quote (p := c :: p) (fun hp hw' => ?_) hnone
    obtain ⟨rfl, rfl⟩ := List.cons.inj hp
    -- What comes behind the code is the same.
    cases w with
    | nil =>
      obtain rfl : w' = [] := List.eq_nil_of_length_eq_zero (by simpa using hlen)
      exact hw'
    | cons y w =>
      obtain ⟨y', w', rfl⟩ : ∃ y' v, w' = y' :: v := List.exists_cons_of_ne_nil (by
        rintro rfl
        simp at hlen)
      exact hliteral rfl (y :: w) (y' :: w') rfl rfl hw'

/-- A token before code is one before the revised code, if it is not revised or has other contents
itself. -/
theorem at?_token_revised {kind : Token.Kind} (h : Revised t t' ms)
    (hx : x' = x ∨ kind = .string ∧ Token.OtherContent (c :: x) (c :: x'))
    (htoken : Token.at? rust before (c :: (x ++ (t ++ s))) = .ok (some ⟨kind, x.length + 1⟩)) :
    Token.at? rust before (c :: (x' ++ (t' ++ s))) = .ok (some ⟨kind, x.length + 1⟩) := by
  have hhead := h.head?_append s
  have later {y : Text}
      (htoken : Token.at? rust before (c :: (y ++ (t ++ s))) = .ok (some ⟨kind, y.length + 1⟩)) :
      Token.at? rust before (c :: (y ++ (t' ++ s))) = .ok (some ⟨kind, y.length + 1⟩) := by
    by_cases hkind : kind = .comment
    · subst hkind
      exact Token.at?_comment_swap hhead htoken
    · refine Token.at?_literal_swap (r := c :: y) Dialect.rust_apart hkind htoken ?_
      intro q hq _
      rw [← hhead]
      exact hq
  rcases hx with rfl | ⟨rfl, hx⟩
  · exact later htoken
  · have hlen : x'.length = x.length := by simpa using hx.length
    have hcontent : Token.at? rust before (c :: (x' ++ (t ++ s))) =
        .ok (some ⟨.string, x.length + 1⟩) := Token.at?_string_differ (u := c :: x) htoken hx
    rw [← hlen] at hcontent ⊢
    exact later hcontent

/-! ### Masks of revised code -/

theorem blanked_of_replaceable {c c' : Char} (h : Replaceable c c') : blanked c' = blanked c := by
  have hc : c ≠ '\n' := by
    rintro rfl
    exact h.1 (by decide)
  have hc' : c' ≠ '\n' := by
    rintro rfl
    exact h.2 (by decide)
  unfold blanked
  rw [if_neg hc, if_neg hc']

theorem Differ.map_blanked {P : Nat → Char → Char → Prop} (h : Differ P t t')
    (hP : ∀ k c c', P k c c' → Replaceable c c') : t'.map blanked = t.map blanked := by
  induction t generalizing t' P with
  | nil => rw [List.eq_nil_of_length_eq_zero h.length]
  | cons c t ih =>
    obtain ⟨c', t', rfl, hc, ht⟩ := h.cons
    have hsame : blanked c' = blanked c := by
      by_cases hne : c = c'
      · rw [hne]
      · exact blanked_of_replaceable (hP _ _ _ (hc hne))
    rw [List.map_cons, List.map_cons, hsame, ih ht fun k => hP (k + 1)]

namespace Revised

/-- Without its tokens revised code is the same. -/
theorem masked (h : Revised t t' ms) :
    maskWith Mark.isOpaque t' ms = maskWith Mark.isOpaque t ms := by
  induction h with
  | nil => rfl
  | plain _ _ ih => exact congrArg (_ :: ·) ih
  | @token kind c x x' t t' ms h _ ih =>
    have hlen := Token.length_of_kept h
    have hblanked : x'.map blanked = x.map blanked := by
      rcases h with rfl | ⟨_, h⟩
      · rfl
      · exact (List.cons.inj (h.map_blanked fun _ _ _ h => h.1)).2
    have hinside {y : Text} (hy : y.length = x.length) :
        maskWith Mark.isOpaque y (List.replicate x.length (.inside kind)) = y.map blanked := by
      rw [← hy, maskWith_replicate]
      rfl
    show blanked c :: maskWith Mark.isOpaque (x' ++ t') _ =
      blanked c :: maskWith Mark.isOpaque (x ++ t) _
    rw [maskWith_append _ (by rw [List.length_replicate, hlen]),
      maskWith_append _ (by rw [List.length_replicate]), ih, hinside hlen, hinside rfl, hblanked]

/-- Without its comments revised code is the same up to a quote. -/
theorem visible (h : Revised t t' ms) :
    Alike (maskWith Mark.isComment t ms) (maskWith Mark.isComment t' ms) := by
  induction h with
  | nil => exact .refl []
  | @plain c _ _ _ _ _ ih => exact ih.prepend [c]
  | @token kind c x x' t t' ms h _ ih =>
    rw [maskWith_token, ← Token.length_of_kept h, maskWith_token]
    refine Alike.append _ _ ?_ ih
    rcases h with rfl | ⟨rfl, h⟩
    · exact .refl _
    · exact h.alike.1

/-- Behind a character outside tokens, code is revised for itself. -/
theorem drop_succ (h : Revised t t' ms) (hi : ms[i]? = some .plain) :
    Revised (t.drop (i + 1)) (t'.drop (i + 1)) (ms.drop (i + 1)) := by
  induction h generalizing i with
  | nil => simp at hi
  | plain _ next ih =>
    cases i with
    | zero => exact next
    | succ i => exact ih hi
  | @token kind c x x' t t' ms h next ih =>
    cases i with
    | zero => simp at hi
    | succ i =>
      rw [List.getElem?_cons_succ] at hi
      have hle : x.length ≤ i := by
        rw [← Nat.not_lt]
        intro hlt
        rw [List.getElem?_append_left (by rwa [List.length_replicate]),
          List.getElem?_replicate_of_lt hlt] at hi
        simp at hi
      obtain ⟨j, rfl⟩ := Nat.exists_eq_add_of_le hle
      rw [List.getElem?_append_right (by rwa [List.length_replicate]), List.length_replicate,
        Nat.add_sub_cancel_left] at hi
      have hnext := ih hi
      have hskip {y u : Text} (hy : y.length = x.length) :
          (y ++ u).drop (x.length + (j + 1)) = u.drop (j + 1) := by
        rw [← List.drop_drop, List.drop_left' hy]
      have hmarks : (List.replicate x.length (Mark.inside kind) ++ ms).drop (x.length + (j + 1)) =
          ms.drop (j + 1) := by
        rw [← List.drop_drop, List.drop_left' List.length_replicate]
      rw [List.drop_succ_cons, List.drop_succ_cons, List.drop_succ_cons, Nat.add_assoc, hskip rfl,
        hskip (Token.length_of_kept h), hmarks]
      exact hnext

/-- What is shown behind a character outside tokens, or of all the code, is the same up to a
quote. -/
theorem shown (h : Revised t t' ms) (ha : k = 0 ∨ ∃ y i, k = i + 1 ∧ PlainAt t ms y i) :
    Alike ((maskWith Mark.isComment t ms).drop k) ((maskWith Mark.isComment t' ms).drop k) := by
  rw [← maskWith_drop, ← maskWith_drop]
  rcases ha with rfl | ⟨y, i, rfl, _, hi⟩
  · exact h.visible
  · exact (h.drop_succ hi).visible

end Revised

/-! ### Blocks of the same shape -/

namespace Block

/-- Two blocks, or the faults in their place, that are the same but for the texts of their parts. -/
inductive SameShape : Except Failure Block → Except Failure Block → Prop
  | missing {offset} : SameShape (.error (.template ⟨.missingExpression, offset⟩))
      (.error (.template ⟨.missingExpression, offset⟩))
  /-- Statements alone. -/
  | statements {s s' : Text} (hlength : s'.length = s.length) :
      SameShape (.ok ⟨s, none⟩) (.ok ⟨s', none⟩)
  | tail {s s' : Text} {e e' : Tail} (hlength : s'.length = s.length)
      (hspec : e'.spec.isSome = e.spec.isSome) (hexpr : e'.exprOffset = e.exprOffset)
      (hoffset : e'.specOffset = e.specOffset) : SameShape (.ok ⟨s, some e⟩) (.ok ⟨s', some e'⟩)

/-- The shape of a block is told from its masks up to the quotes in them. -/
theorem ofMasks_sameShape {base : Int} {masked visible visible' : Text} (ht : Alike t t')
    (hlen : t'.length = t.length)
    (htail : Alike (visible.drop (tailStart rust masked)) (visible'.drop (tailStart rust masked)))
    (hspec : ∀ colon, specColon? rust masked (tailStart rust masked) = some colon →
      Alike (visible.drop (colon + 1)) (visible'.drop (colon + 1))) :
    SameShape (ofMasks rust base t masked visible) (ofMasks rust base t' masked visible') := by
  unfold ofMasks
  generalize tailStart rust masked = start at htail hspec
  have hstatements : (t'.take start).length = (t.take start).length := by
    rw [List.length_take, List.length_take, hlen]
  dsimp only
  rw [htail.all_isBlank]
  -- What is blank in the one block is blank in the other, so that both are read in the same way.
  by_cases hblank : (visible.drop start).all isBlank = true
  · rw [if_pos hblank, if_pos hblank, (ht.take start).all_isBlank]
    refine .statements ?_
    by_cases hall : (t.take start).all isBlank = true
    · rw [if_pos hall, if_pos hall]
    · rw [if_neg hall, if_neg hall]
      exact hstatements
  · rw [if_neg hblank, if_neg hblank]
    cases hcolon : specColon? rust masked start with
    | none =>
      refine .tail hstatements rfl ?_ rfl
      dsimp only
      rw [htail.indent]
    | some colon =>
      have hregion : Alike (visible.slice start colon) (visible'.slice start colon) :=
        htail.take (colon - start)
      dsimp only
      rw [hregion.all_isBlank]
      by_cases hmissing : (visible.slice start colon).all isBlank = true
      · rw [if_pos hmissing, if_pos hmissing]
        exact .missing
      · rw [if_neg hmissing, if_neg hmissing]
        refine .tail hstatements rfl ?_ ?_
        · dsimp only
          rw [hregion.indent]
        · dsimp only
          rw [(hspec colon hcolon).indent]

/-- A revised block has the same shape. -/
theorem read_sameShape {base : Int} (h : Revised t t' ms) (hms : marks rust t = .ok ms)
    (hms' : marks rust t' = .ok ms) : SameShape (read rust base t) (read rust base t') := by
  rw [read_of_marks hms, read_of_marks hms', h.masked]
  refine ofMasks_sameShape h.alike h.length_eq (h.shown ?_) fun colon hcolon => h.shown ?_
  · rcases tailStart_cases rust (maskWith Mark.isOpaque t ms) with hzero | ⟨i, hi, hsucc⟩
    · exact .inl hzero
    · exact .inr ⟨';', i, hsucc, plainAt_semicolon (.inl rfl) hi⟩
  · exact .inr ⟨':', colon, rfl, (plainAt_of_specColon hcolon).2⟩

end Block
end Stencil
