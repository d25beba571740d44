import Stencil.Proofs.Token.Marks

/-! # Tokens at offsets

  The readers of tokens speak of a text and of the character before it. Here tokens have their places
  in one text: `Token.atOffset?` reads the one at an offset, and `tokensFrom` lists those that the
  marks of a text show, each with its extent.
-/

namespace Stencil

/-! ### The token at an offset -/

/-- The token at offset `o` of a text. -/
def Token.atOffset? (d : Dialect) (t : Text) (o : Nat) : Except LexFault (Option Token) :=
  Token.at? d (t.take o).getLast? (t.drop o)

theorem Token.at?_of_drop {d : Dialect} {t u : Text} {o : Nat} (h : t.drop o = u) :
    Token.at? d (t.take o).getLast? u = Token.atOffset? d t o := by
  rw [← h]
  rfl

/-- Where a text goes on after an offset, its character and what comes before the next offset are
known. -/
theorem drop_eq_cons {t : Text} {o : Nat} {c : Char} {u : Text} (h : t.drop o = c :: u) :
    t[o]? = some c ∧ t.drop (o + 1) = u ∧ (t.take (o + 1)).getLast? = some c := by
  have hc : t[o]? = some c := by rw [← List.head?_drop, h]; rfl
  refine ⟨hc, by rw [← List.tail_drop, h]; rfl, ?_⟩
  rw [List.take_add_one, hc]
  exact List.getLast?_concat

/-! ### The tokens that marks show -/

/-- A token in a text, with its extent. -/
structure Token.Extent where
  kind : Token.Kind
  start : Nat
  stop : Nat
deriving DecidableEq, Repr

/-- The same token in a text with `n` characters in front. -/
def Token.Extent.shift (n : Nat) (e : Token.Extent) : Token.Extent :=
  ⟨e.kind, e.start + n, e.stop + n⟩

/-- The tokens that the marks of a text at an offset show. -/
def tokensFrom (offset : Nat) : List Mark → List Token.Extent
  | [] => []
  | .plain :: ms => tokensFrom (offset + 1) ms
  | .inside _ :: ms => tokensFrom (offset + 1) ms
  | .opens kind :: ms =>
    ⟨kind, offset, offset + 1 + (ms.takeWhile (· = .inside kind)).length⟩ ::
      tokensFrom (offset + 1) ms

theorem tokensFrom_shift (offset n : Nat) (ms : List Mark) :
    tokensFrom (offset + n) ms = (tokensFrom offset ms).map (Token.Extent.shift n) := by
  induction ms generalizing offset with
  | nil => rfl
  | cons m ms ih =>
    have hnext := ih (offset + 1)
    rw [Nat.add_right_comm] at hnext
    cases m with
    | plain => exact hnext
    | inside kind => exact hnext
    | opens kind =>
      have hstop (k : Nat) : offset + n + 1 + k = offset + 1 + k + n := by omega
      rw [tokensFrom, tokensFrom, List.map_cons, hnext, hstop]
      rfl

/-- Every token of a text lies within it. -/
theorem stop_le_of_mem_tokensFrom {e : Token.Extent} {offset : Nat} {ms : List Mark}
    (h : e ∈ tokensFrom offset ms) : offset ≤ e.start ∧ e.stop ≤ offset + ms.length := by
  induction ms generalizing offset with
  | nil => exact absurd h List.not_mem_nil
  | cons m ms ih =>
    rw [List.length_cons]
    have later (h : e ∈ tokensFrom (offset + 1) ms) :
        offset ≤ e.start ∧ e.stop ≤ offset + (ms.length + 1) := by
      have := ih h
      omega
    cases m with
    | plain => exact later h
    | inside kind => exact later h
    | opens kind =>
      rcases List.mem_cons.mp h with rfl | h
      · have hle : (ms.takeWhile (· = .inside kind)).length ≤ ms.length :=
          (List.takeWhile_sublist _).length_le
        refine ⟨Nat.le_refl offset, ?_⟩
        dsimp only
        omega
      · exact later h

/-- A text has its tokens, whatever text comes behind it, and that text has its own. -/
theorem tokensFrom_append (offset : Nat) (ms : List Mark) {ns : List Mark}
    (hns : ∀ kind, ns.head? ≠ some (.inside kind)) :
    tokensFrom offset (ms ++ ns) =
      tokensFrom offset ms ++ (tokensFrom offset ns).map (Token.Extent.shift ms.length) := by
  rw [← tokensFrom_shift]
  induction ms generalizing offset with
  | nil => rfl
  | cons m ms ih =>
    have hnext := ih (offset + 1)
    have hlen : offset + 1 + ms.length = offset + (m :: ms).length := by
      rw [List.length_cons]
      omega
    rw [hlen] at hnext
    cases m with
    | plain => exact hnext
    | inside kind => exact hnext
    | opens kind =>
      -- The marks behind do not go on with the last token.
      have hnil : ns.takeWhile (· = .inside kind) = [] := takeWhile_inside 0 (hns kind)
      have htake : ((ms ++ ns).takeWhile (· = .inside kind)).length =
          (ms.takeWhile (· = .inside kind)).length := by
        rw [List.takeWhile_append, hnil, List.append_nil]
        split
        · next hall => exact hall.symm
        · rfl
      rw [List.cons_append, tokensFrom, tokensFrom, htake, hnext, List.cons_append]

theorem tokensFrom_replicate {m : Mark} (hm : ∀ kind, m ≠ .opens kind) (n offset : Nat) :
    tokensFrom offset (List.replicate n m) = [] := by
  induction n generalizing offset with
  | zero => rfl
  | succ n ih =>
    rw [List.replicate_succ]
    cases m with
    | plain => exact ih (offset + 1)
    | inside kind => exact ih (offset + 1)
    | opens kind => exact absurd rfl (hm kind)

/-- The marks of a token show the token, and behind it come the tokens of the text behind it. -/
theorem tokensFrom_token (kind : Token.Kind) (n offset : Nat) {ms : List Mark}
    (hms : ∀ kind, ms.head? ≠ some (.inside kind)) :
    tokensFrom offset (.opens kind :: (List.replicate n (.inside kind) ++ ms)) =
      ⟨kind, offset, offset + (n + 1)⟩ :: tokensFrom (offset + (n + 1)) ms := by
  rw [tokensFrom, takeWhile_inside n (hms kind), tokensFrom_append _ _ hms,
    tokensFrom_replicate (by simp), List.nil_append, ← tokensFrom_shift, List.length_replicate,
    Nat.add_assoc, Nat.add_comm 1 n]

/-- The marks of a token of the given length are those of one token. -/
theorem tokensFrom_single (kind : Token.Kind) (n : Nat) :
    tokensFrom 0 (.opens kind :: List.replicate n (.inside kind)) = [⟨kind, 0, n + 1⟩] := by
  have hnil : ∀ kind, ([] : List Mark).head? ≠ some (.inside kind) := by simp
  have htoken := tokensFrom_token kind n 0 hnil
  rwa [List.append_nil, Nat.zero_add] at htoken

theorem start_lt_stop_of_mem_tokensFrom {e : Token.Extent} {offset : Nat} {ms : List Mark}
    (h : e ∈ tokensFrom offset ms) : e.start < e.stop := by
  induction ms generalizing offset with
  | nil => exact absurd h List.not_mem_nil
  | cons m ms ih =>
    cases m with
    | plain => exact ih h
    | inside kind => exact ih h
    | opens kind =>
      rcases List.mem_cons.mp h with rfl | h
      · exact Nat.lt_of_lt_of_le (Nat.lt_succ_self offset) (Nat.le_add_right _ _)
      · exact ih h

end Stencil
