import Stencil.Proofs.Token.Marks
import Stencil.Proofs.Token.Swap

/-! # Texts that are lexed

  A text that is lexed without a fault is a sequence of plain characters and of tokens. `Lexed` is
  that sequence as a derivation, with a token as one step, and `marksFrom_ok_iff` says that it is
  what `marksFrom` finds. A statement on a lexed text is proved by induction on the derivation, where
  a token is either passed as a whole or not reached.
-/

namespace Stencil

/-- A text after the character `before` is lexed, with the given marks. -/
inductive Lexed (d : Dialect) : (before : Option Char) → Text → List Mark → Prop
  | nil {before} : Lexed d before [] []
  /-- A character that opens no token. -/
  | plain {before c t ms} (h : Token.at? d before (c :: t) = .ok none)
      (next : Lexed d (some c) t ms) : Lexed d before (c :: t) (.plain :: ms)
  /-- A token, which is `c` and the characters `x` after it. -/
  | token {before kind c x t ms}
      (h : Token.at? d before (c :: (x ++ t)) = .ok (some ⟨kind, x.length + 1⟩))
      (next : Lexed d (c :: x).getLast? t ms) :
      Lexed d before (c :: (x ++ t)) (.opens kind :: (List.replicate x.length (.inside kind) ++ ms))

variable {d : Dialect} {kind : Token.Kind} {offset : Nat} {before : Option Char} {r t u : Text}
  {ms : List Mark}

theorem or_getLast? (c : Char) (x : Text) : x.getLast?.or (some c) = (c :: x).getLast? := by
  rw [List.getLast?_cons]
  cases x.getLast? <;> rfl

theorem Lexed.marksFrom (h : Lexed d before t ms) (kind : Token.Kind) (offset : Nat) :
    Stencil.marksFrom d kind 0 offset before t = .ok ms := by
  induction h generalizing kind offset with
  | nil => rfl
  | plain h _ ih =>
    rw [Stencil.marksFrom, h]
    dsimp only
    rw [ih]
    rfl
  | token h _ ih =>
    rw [Stencil.marksFrom, h]
    dsimp only
    rw [marksFrom_skip, or_getLast?, ih]
    rfl

/-- The marks of a text are those of its derivation. The induction is on the length of the text,
since a token is passed at once. -/
theorem marksFrom_ok_iff :
    marksFrom d kind 0 offset before t = .ok ms ↔ Lexed d before t ms := by
  refine ⟨fun h => ?_, fun h => h.marksFrom kind offset⟩
  induction hlen : t.length using Nat.strongRecOn generalizing kind offset before t ms with
  | ind len ih =>
    cases t with
    | nil =>
      obtain rfl : [] = ms := Except.ok.inj h
      exact .nil
    | cons c t =>
      rw [List.length_cons] at hlen
      rw [marksFrom] at h
      split at h
      · simp at h
      · next htoken =>
        obtain ⟨ms, hms, rfl⟩ := Outcome.map_ok_iff.mp h
        exact .plain htoken (ih t.length (by omega) hms rfl)
      · simp at h
      · next kind' n htoken =>
        obtain ⟨ms, hms, rfl⟩ := Outcome.map_ok_iff.mp h
        -- The token lies within the text, so that it can be split off.
        have hfits : n ≤ t.length := Nat.le_of_succ_le_succ (Token.at?_length_le htoken)
        obtain ⟨x, t, rfl, rfl⟩ : ∃ x t', t = x ++ t' ∧ n = x.length :=
          ⟨t.take n, t.drop n, (List.take_append_drop n t).symm,
            (List.length_take_of_le hfits).symm⟩
        rw [marksFrom_skip, or_getLast?] at hms
        obtain ⟨ms', hms', rfl⟩ := Outcome.map_ok_iff.mp hms
        exact .token htoken (ih t.length (by rw [← hlen, List.length_append]; omega) hms' rfl)

/-- A text that is lexed on its own. -/
theorem marks_ok_iff : marks d t = .ok ms ↔ Lexed d none t ms := marksFrom_ok_iff

/-! ### Characters outside tokens -/

/-- The character `x` stands at offset `i` of a text, outside tokens. -/
def PlainAt (t : Text) (ms : List Mark) (x : Char) (i : Nat) : Prop :=
  t[i]? = some x ∧ ms[i]? = some .plain

/-- What stands behind other text stands there as it does alone. -/
theorem plainAt_append_iff {x : Char} {k : Nat} {ns : List Mark} (h : ns.length = u.length) :
    PlainAt (u ++ t) (ns ++ ms) x (u.length + k) ↔ PlainAt t ms x k := by
  unfold PlainAt
  rw [List.getElem?_append_right (Nat.le_add_right _ _), Nat.add_sub_cancel_left, ← h,
    List.getElem?_append_right (Nat.le_add_right _ _), Nat.add_sub_cancel_left]

theorem plainAt_drop_iff {x : Char} {a k : Nat} :
    PlainAt (t.drop a) (ms.drop a) x k ↔ PlainAt t ms x (a + k) := by
  unfold PlainAt
  rw [List.getElem?_drop, List.getElem?_drop]

namespace Lexed

theorem length_eq (h : Lexed d before t ms) : ms.length = t.length := by
  induction h with
  | nil => rfl
  | plain _ _ ih => rw [List.length_cons, List.length_cons, ih]
  | token _ _ ih =>
    rw [List.length_cons, List.length_cons, List.length_append, List.length_append,
      List.length_replicate, ih]

/-! ### The first step -/

theorem of_plain {c : Char} (h : Token.at? d before (c :: t) = .ok none)
    (hlexed : Lexed d before (c :: t) ms) : ∃ ns, ms = .plain :: ns ∧ Lexed d (some c) t ns := by
  generalize hu : c :: t = u at h hlexed
  cases hlexed with
  | nil => cases hu
  | plain _ next =>
    obtain ⟨rfl, rfl⟩ := List.cons.inj hu
    exact ⟨_, rfl, next⟩
  | token htoken =>
    rw [h] at htoken
    cases htoken

theorem of_token {c : Char} {x : Text}
    (h : Token.at? d before (c :: (x ++ t)) = .ok (some ⟨kind, x.length + 1⟩))
    (hlexed : Lexed d before (c :: (x ++ t)) ms) :
    ∃ ns, ms = .opens kind :: (List.replicate x.length (.inside kind) ++ ns) ∧
      Lexed d (c :: x).getLast? t ns := by
  generalize hu : c :: (x ++ t) = u at h hlexed
  cases hlexed with
  | nil => cases hu
  | plain hnone =>
    rw [h] at hnone
    cases hnone
  | @token _ kind' c' x' t' ns htoken next =>
    rw [h] at htoken
    obtain ⟨rfl, hlength⟩ := Token.mk.inj (Option.some.inj (Except.ok.inj htoken))
    obtain ⟨rfl, hrest⟩ := List.cons.inj hu
    obtain ⟨rfl, rfl⟩ := List.append_inj hrest (Nat.succ.inj hlength)
    exact ⟨ns, rfl, next⟩

/-- A lexed text does not begin inside a token. -/
theorem head_ne_inside (h : Lexed d before t ms) (kind : Token.Kind) :
    ms.head? ≠ some (.inside kind) := by
  cases h <;> simp

/-! ### Texts that are cut outside tokens -/

/-- A place outside tokens lies behind a token that the text begins with. -/
theorem token_passed {kind : Token.Kind} {y r t u : Text} {x : Char} {ms : List Mark}
    (ht : y ++ t = r ++ x :: u)
    (hplain : (List.replicate y.length (Mark.inside kind) ++ ms)[r.length]? = some .plain) :
    ∃ r', r = y ++ r' ∧ t = r' ++ x :: u ∧ ms[r'.length]? = some .plain := by
  have hlong : y.length ≤ r.length := by
    rw [← Nat.not_lt]
    intro hshort
    rw [List.getElem?_append_left (by rwa [List.length_replicate]),
      List.getElem?_replicate_of_lt hshort] at hplain
    simp at hplain
  obtain ⟨r', rfl⟩ : ∃ r', r = y ++ r' := by
    rcases List.append_eq_append_iff.mp ht with ⟨r', hr, _⟩ | ⟨v, hy, _⟩
    · exact ⟨r', hr⟩
    · have hlen := congrArg List.length hy
      rw [List.length_append] at hlen
      obtain rfl : v = [] := List.eq_nil_of_length_eq_zero (by omega)
      exact ⟨[], by rw [hy]; simp⟩
  rw [List.append_assoc] at ht
  rw [List.getElem?_append_right (by rw [List.length_replicate]; exact hlong), List.length_append,
    List.length_replicate, Nat.add_sub_cancel_left] at hplain
  exact ⟨r', rfl, List.append_cancel_left ht, hplain⟩

/-- Behind a character outside tokens, the rest of a text is lexed from there. -/
theorem drop {x : Char} (h : Lexed d before (r ++ x :: u) ms)
    (hplain : ms[r.length]? = some .plain) : Lexed d (some x) u (ms.drop (r.length + 1)) := by
  generalize ht : r ++ x :: u = t at h
  induction h generalizing r with
  | nil => simp at ht
  | plain _ next ih =>
    cases r with
    | nil =>
      obtain ⟨rfl, rfl⟩ := List.cons.inj ht
      exact next
    | cons c r => exact ih hplain (List.cons.inj ht).2
  | @token _ kind c y t ms _ next ih =>
    cases r with
    | nil => simp at hplain
    | cons c' r =>
      obtain ⟨r, rfl, ht, hplain⟩ := token_passed (List.cons.inj ht).2.symm hplain
      have hdrop : (List.replicate y.length (Mark.inside kind) ++ ms).drop
          ((y ++ r).length + 1) = ms.drop (r.length + 1) := by
        rw [List.length_append, Nat.add_assoc, ← List.drop_drop,
          List.drop_left' List.length_replicate]
      rw [List.length_cons, List.drop_succ_cons, hdrop]
      exact ih hplain ht.symm

/-- Up to an inert character outside tokens, and with it, a text is lexed as it was. -/
theorem take {x : Char} (hd : d.Regular) (hx : d.Inert x) (hblank : isBlank x = false)
    (h : Lexed d before (r ++ x :: u) ms) (hplain : ms[r.length]? = some .plain) :
    Lexed d before (r ++ [x]) (ms.take (r.length + 1)) := by
  -- A token of the text that ends before the character is one of the part.
  have keep {before : Option Char} {r : Text} {o : Option Token}
      (h : Token.at? d before (r ++ x :: u) = .ok o)
      (ho : ∀ token ∈ o, token.length ≤ r.length) : Token.at? d before (r ++ [x]) = .ok o := by
    refine Token.at?_swap hd hx hblank (fun m _ hpre hflag => ?_) (by simp) h ho
    have hlen := (List.isPrefixOf_iff_prefix.mp hpre).length_le
    rw [List.append_cons] at hflag
    refine Token.isSpecFlag_of_append ?_ hflag
    rw [List.length_append]
    omega
  generalize ht : r ++ x :: u = t at h
  induction h generalizing r with
  | nil => simp at ht
  | @plain _ c t ms htoken next ih =>
    cases r with
    | nil =>
      obtain ⟨rfl, rfl⟩ := List.cons.inj ht
      exact .plain (Token.at?_of_inert hd hx []) .nil
    | cons c' r =>
      obtain ⟨rfl, ht'⟩ := List.cons.inj ht
      rw [← ht'] at htoken
      exact .plain (keep (r := c' :: r) htoken fun _ h => absurd h (by simp)) (ih hplain ht')
  | @token _ kind c y t ms htoken next ih =>
    cases r with
    | nil => simp at hplain
    | cons c' r =>
      obtain ⟨rfl, ht'⟩ := List.cons.inj ht
      obtain ⟨r, rfl, rfl, hplain⟩ := token_passed ht'.symm hplain
      have htake : (Mark.opens kind :: (List.replicate y.length (Mark.inside kind) ++ ms)).take
          ((c' :: (y ++ r)).length + 1) = Mark.opens kind ::
            (List.replicate y.length (Mark.inside kind) ++ ms.take (r.length + 1)) := by
        have hall : (List.replicate y.length (Mark.inside kind)).take (y.length + (r.length + 1)) =
            List.replicate y.length (Mark.inside kind) :=
          List.take_of_length_le (by rw [List.length_replicate]; omega)
        rw [List.length_cons, List.take_succ_cons, List.length_append, Nat.add_assoc,
          List.take_append, hall, List.length_replicate, Nat.add_sub_cancel_left]
      rw [htake, List.cons_append, List.append_assoc]
      refine .token ?_ (ih hplain rfl)
      rw [← List.append_assoc] at htoken ⊢
      refine keep (r := c' :: (y ++ r)) htoken ?_
      rintro token htoken'
      obtain rfl := Option.some.inj htoken'
      rw [List.length_cons, List.length_append]
      dsimp only
      omega

theorem drop_of_plainAt {x : Char} {i : Nat} (h : Lexed d before t ms) (hx : PlainAt t ms x i) :
    Lexed d (some x) (t.drop (i + 1)) (ms.drop (i + 1)) := by
  obtain ⟨hsplit, hlen⟩ := Text.split_at hx.1
  rw [hsplit] at h
  have hdrop := h.drop (by rw [hlen]; exact hx.2)
  rwa [hlen] at hdrop

theorem take_of_plainAt {x : Char} {i : Nat} (hd : d.Regular) (hinert : d.Inert x) (hblank : isBlank x = false)
    (h : Lexed d before t ms) (hx : PlainAt t ms x i) :
    Lexed d before (t.take (i + 1)) (ms.take (i + 1)) := by
  obtain ⟨hsplit, hlen⟩ := Text.split_at hx.1
  rw [hsplit] at h
  have hcut := h.take hd hinert hblank (by rw [hlen]; exact hx.2)
  rw [hlen] at hcut
  rw [List.take_add_one, hx.1]
  exact hcut

end Lexed
end Stencil
