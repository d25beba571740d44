import Stencil.Proofs.Token.Extent
import Stencil.Proofs.Token.Lexed

/-! # Lexing as a run

  A text is lexed from its start, in steps. A step asks for the token at the offset where the run
  stands: a token is passed as a whole, and where there is none, one character is passed.

  * The marks of a text show the tokens that the run to its end finds, and a text has no marks where
    the run comes to an offset and does not get on (`marksFrom_ends`).
  * A run stays between its ends (`Run.within`). Its tokens are what is told at their offsets
    (`Run.told`), each behind the ones before it (`Run.ordered`), and at an offset in none of them
    no token is told (`Run.none_between`).
-/

namespace Stencil

variable {d : Dialect} {t : Text} {kind : Token.Kind}

namespace Token

def Extent.Covers (e : Extent) (i : Nat) : Prop := e.start ≤ i ∧ i < e.stop

/-! ### Steps -/

/-- The step of a run from offset `i` to offset `j`, with the token that it finds. -/
inductive Step (d : Dialect) (t : Text) (i : Nat) : (found : Option Extent) → (j : Nat) → Prop
  | plain (hi : i < t.length) (hnone : atOffset? d t i = .ok none) : Step d t i none (i + 1)
  /-- A token is passed as a whole. A token that covers nothing is passed for ever. -/
  | token {kind n} (hi : i < t.length) (htoken : atOffset? d t i = .ok (some ⟨kind, n⟩)) :
      Step d t i (some ⟨kind, i, i + n⟩) (i + n)

/-- The steps from offset `i` to offset `o`, with the tokens that they find. -/
inductive Run (d : Dialect) (t : Text) : (i : Nat) → List Extent → (o : Nat) → Prop
  | stop {i} : Run d t i [] i
  | step {i found j es o} (first : Step d t i found j) (next : Run d t j es o) :
      Run d t i (found.toList ++ es) o

/-- A run goes on with a step from its end. -/
theorem Run.append_step {i o j : Nat} {es : List Extent} {found : Option Extent}
    (h : Run d t i es o) (last : Step d t o found j) : Run d t i (es ++ found.toList) j := by
  induction h with
  | stop =>
    have hone := Run.step last .stop
    rwa [List.append_nil] at hone
  | step first _ ih =>
    rw [List.append_assoc]
    exact .step first (ih last)

/-! ### What a run finds -/

section run
variable {i o : Nat} {es : List Extent}

theorem length_le_of_atOffset? {n : Nat} (hi : i ≤ t.length)
    (h : atOffset? d t i = .ok (some ⟨kind, n⟩)) : i + n ≤ t.length := by
  have hlen := at?_length_le h
  rw [List.length_drop] at hlen
  exact (Nat.le_sub_iff_add_le' hi).mp hlen

/-- The tokens of a run lie between its ends. -/
theorem Run.within (h : Run d t i es o) : i ≤ o ∧ ∀ e ∈ es, i ≤ e.start ∧ e.stop ≤ o := by
  induction h with
  | stop => exact ⟨Nat.le_refl _, fun _ he => absurd he List.not_mem_nil⟩
  | step first _ ih =>
    obtain ⟨hle, hes⟩ := ih
    cases first with
    | plain =>
      exact ⟨Nat.le_of_succ_le hle, fun e he => ⟨Nat.le_of_succ_le (hes e he).1, (hes e he).2⟩⟩
    | token =>
      refine ⟨Nat.le_of_add_right_le hle, List.forall_mem_cons.mpr ⟨⟨Nat.le_refl _, hle⟩, ?_⟩⟩
      exact fun e he => ⟨Nat.le_of_add_right_le (hes e he).1, (hes e he).2⟩

/-- A token of a run is what is told at its offset. -/
theorem Run.told (h : Run d t i es o) :
    ∀ e ∈ es, atOffset? d t e.start = .ok (some ⟨e.kind, e.stop - e.start⟩) := by
  induction h with
  | stop => exact fun _ he => absurd he List.not_mem_nil
  | step first _ ih =>
    cases first with
    | plain => exact ih
    | token _ htoken =>
      refine List.forall_mem_cons.mpr ⟨?_, ih⟩
      rw [Nat.add_sub_cancel_left]
      exact htoken

/-- The tokens of a run lie one behind the other. -/
theorem Run.ordered (h : Run d t i es o) : es.Pairwise (fun a b => a.stop ≤ b.start) := by
  induction h with
  | stop => exact .nil
  | step first next ih =>
    cases first with
    | plain => exact ih
    | token => exact List.pairwise_cons.mpr ⟨fun e he => (next.within.2 e he).1, ih⟩

/-- Between the tokens of a run no token is told. -/
theorem Run.none_between (h : Run d t i es o) {k : Nat} (hik : i ≤ k) (hko : k < o)
    (hk : ∀ e ∈ es, ¬ e.Covers k) : atOffset? d t k = .ok none := by
  induction h with
  | stop => exact absurd hko (Nat.not_lt.mpr hik)
  | @step i found j es o first _ ih =>
    cases first with
    | plain _ hnone =>
      rcases Nat.eq_or_lt_of_le hik with rfl | hik
      · exact hnone
      · exact ih hik hko hk
    | token =>
      obtain ⟨hfirst, hk⟩ := List.forall_mem_cons.mp hk
      exact ih (Nat.not_lt.mp fun hlt => hfirst ⟨hik, hlt⟩) hko hk

end run

/-! ### The end of a run -/

/-- How the lexing of a text ends that goes on from offset `i`. -/
inductive Ends (d : Dialect) (t : Text) (i : Nat) : Except Failure (List Mark) → Prop
  /-- The run comes to the end of the text, and the marks show its tokens. -/
  | finished {ms} (h : Run d t i (tokensFrom i ms) t.length) : Ends d t i (.ok ms)
  /-- The run comes to an offset at which no token can be told. -/
  | stuck {es o fault} (h : Run d t i es o) (ho : o < t.length)
      (hfault : atOffset? d t o = .error fault) : Ends d t i (.error (fault.at o))
  /-- The run comes to a token that covers nothing, and stays there. -/
  | stays {es o kind} (h : Run d t i es o) (ho : o < t.length)
      (hnothing : atOffset? d t o = .ok (some ⟨kind, 0⟩)) : Ends d t i (.error .emptyComment)

section ends
variable {i : Nat} {r : Except Failure (List Mark)}

theorem Ends.plain (hi : i < t.length) (hnone : atOffset? d t i = .ok none)
    (h : Ends d t (i + 1) r) : Ends d t i (r.map (.plain :: ·)) := by
  have first : Step d t i none (i + 1) := .plain hi hnone
  cases h with
  | finished h => exact .finished (.step first h)
  | stuck h ho hfault => exact .stuck (.step first h) ho hfault
  | stays h ho hnothing => exact .stays (.step first h) ho hnothing

theorem Ends.token {n : Nat} (hi : i < t.length)
    (htoken : atOffset? d t i = .ok (some ⟨kind, n + 1⟩)) (h : Ends d t (i + (n + 1)) r)
    (hhead : ∀ ms, r = .ok ms → ∀ kind, ms.head? ≠ some (.inside kind)) :
    Ends d t i (r.map fun ms => .opens kind :: (List.replicate n (.inside kind) ++ ms)) := by
  have first : Step d t i (some ⟨kind, i, i + (n + 1)⟩) (i + (n + 1)) := .token hi htoken
  cases h with
  | @finished ms h =>
    refine .finished ?_
    rw [tokensFrom_token kind n i (hhead ms rfl)]
    exact .step first h
  | stuck h ho hfault => exact .stuck (.step first h) ho hfault
  | stays h ho hnothing => exact .stays (.step first h) ho hnothing

end ends
end Token

/-- What is pending of a token is passed, and the text is lexed on from there. -/
theorem marksFrom_pending {n o : Nat} (hle : o + n ≤ t.length) :
    marksFrom d kind n o (t.take o).getLast? (t.drop o) =
      (marksFrom d kind 0 (o + n) (t.take (o + n)).getLast? (t.drop (o + n))).map
        (List.replicate n (.inside kind) ++ ·) := by
  have hlen : ((t.drop o).take n).length = n :=
    List.length_take_of_le (by rw [List.length_drop]; omega)
  have hsplit : t.drop o = (t.drop o).take n ++ t.drop (o + n) := by
    rw [← List.drop_drop, List.take_append_drop]
  have hlast : (t.take (o + n)).getLast? =
      ((t.drop o).take n).getLast?.or (t.take o).getLast? := by
    rw [List.take_add, List.getLast?_append]
  have hskip : marksFrom d kind ((t.drop o).take n).length o (t.take o).getLast?
      ((t.drop o).take n ++ t.drop (o + n)) = _ := marksFrom_skip _
  rwa [hlen, ← hsplit, ← hlast] at hskip

open Token in
/-- A text is lexed as the run over it ends. The induction is on what is left of the text, since a
token is passed at once. -/
theorem marksFrom_ends {i : Nat} (hi : i ≤ t.length) :
    Ends d t i (marksFrom d kind 0 i (t.take i).getLast? (t.drop i)) := by
  induction hleft : t.length - i using Nat.strongRecOn generalizing kind i with
  | ind left ih =>
    cases hdrop : t.drop i with
    | nil =>
      obtain rfl : i = t.length := Nat.le_antisymm hi (List.drop_eq_nil_iff.mp hdrop)
      exact .finished .stop
    | cons c u =>
      obtain ⟨hc, hnext, hbefore⟩ := drop_eq_cons hdrop
      have hlt := (List.getElem?_eq_some_iff.mp hc).1
      rw [marksFrom, at?_of_drop hdrop]
      split
      · next hfault => exact .stuck .stop hlt hfault
      · next hnone =>
        rw [← hbefore, ← hnext]
        exact (ih _ (by omega) hlt rfl).plain hlt hnone
      · next hnothing => exact .stays .stop hlt hnothing
      · next kind n hsome =>
        have hfits := length_le_of_atOffset? hi hsome
        have hlater : Ends d t (i + (n + 1)) (marksFrom d kind 0 (i + (n + 1))
            (t.take (i + (n + 1))).getLast? (t.drop (i + (n + 1)))) := ih _ (by omega) hfits rfl
        rw [← hbefore, ← hnext, marksFrom_pending (by omega), Nat.add_assoc, Nat.add_comm 1 n,
          Outcome.map_map]
        exact hlater.token hlt hsome fun _ h => (marksFrom_ok_iff.mp h).head_ne_inside

/-- A text is lexed on its own as the run over it ends. -/
theorem marks_ends : Token.Ends d t 0 (marks d t) := by
  have hends : Token.Ends d t 0 (marksFrom d .comment 0 0 (t.take 0).getLast? (t.drop 0)) :=
    marksFrom_ends (Nat.zero_le _)
  rwa [List.drop_zero] at hends

end Stencil
