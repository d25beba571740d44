import Stencil.Mask
import Stencil.Proofs.Token.Seam

/-! # Marks of a text that is lexed in parts

  Where no character is left over from a token, the marks of a text depend on the text and on the
  character before it alone, not on the offset at which faults are reported. Where some are left
  over, they get their marks whatever they are.
-/

namespace Stencil

variable {d : Dialect} {kind kind' : Token.Kind} {pending offset offset' : Nat}
  {before : Option Char} {t x : Text} {ms : List Mark}

/-- The offset of a text, and the kind of a token that is over, do not matter for its marks. -/
theorem marksFrom_congr (hkind : pending = 0 ∨ kind = kind')
    (h : marksFrom d kind pending offset before t = .ok ms) :
    marksFrom d kind' pending offset' before t = .ok ms := by
  induction t generalizing kind kind' pending offset offset' before ms with
  | nil =>
    rw [marksFrom] at h ⊢
    exact h
  | cons c t ih =>
    cases pending with
    | succ pending =>
      obtain rfl : kind = kind' := hkind.resolve_left (Nat.succ_ne_zero pending)
      rw [marksFrom] at h ⊢
      obtain ⟨ms, hms, rfl⟩ := Outcome.map_ok_iff.mp h
      rw [ih (.inr rfl) hms]
      rfl
    | zero =>
      -- A token that opens here has its own kind, whatever kind was over before.
      rw [marksFrom] at h ⊢
      split at h
      · simp at h
      · obtain ⟨ms, hms, rfl⟩ := Outcome.map_ok_iff.mp h
        rw [ih (.inl rfl) hms]
        rfl
      · simp at h
      · obtain ⟨ms, hms, rfl⟩ := Outcome.map_ok_iff.mp h
        rw [ih (.inr rfl) hms]
        rfl

/-- The offset of a text, and the kind of a token that is over, do not matter for whether it is
lexed. -/
theorem exists_marksFrom_congr :
    (∃ ms, marksFrom d kind 0 offset before t = .ok ms) ↔
      ∃ ms, marksFrom d kind' 0 offset' before t = .ok ms := by
  constructor
  · rintro ⟨ms, h⟩
    exact ⟨ms, marksFrom_congr (.inl rfl) h⟩
  · rintro ⟨ms, h⟩
    exact ⟨ms, marksFrom_congr (.inl rfl) h⟩

/-- A text that is all left over from a token belongs to it. -/
theorem marksFrom_of_le_pending (h : t.length ≤ pending) :
    marksFrom d kind pending offset before t = .ok (List.replicate t.length (.inside kind)) := by
  induction t generalizing pending offset before with
  | nil => cases pending <;> rfl
  | cons c t ih =>
    rw [List.length_cons] at h
    obtain ⟨pending, rfl⟩ : ∃ p, pending = p + 1 := ⟨pending - 1, by omega⟩
    rw [marksFrom, ih (by omega)]
    rfl

/-- What is left over from a token is passed, and the text behind it is lexed from there. -/
theorem marksFrom_skip (x : Text) :
    marksFrom d kind x.length offset before (x ++ t) =
      (marksFrom d kind 0 (offset + x.length) (x.getLast?.or before) t).map
        (List.replicate x.length (.inside kind) ++ ·) := by
  induction x generalizing offset before with
  | nil =>
    show marksFrom d kind 0 offset before t = (marksFrom d kind 0 offset before t).map ([] ++ ·)
    cases marksFrom d kind 0 offset before t <;> rfl
  | cons c x ih =>
    have hlast : x.getLast?.or (some c) = (c :: x).getLast?.or before := by
      rw [List.getLast?_cons]
      cases x.getLast? <;> rfl
    have hoffset : offset + 1 + x.length = offset + (c :: x).length := by
      rw [List.length_cons]
      omega
    rw [List.cons_append, List.length_cons, marksFrom, ih, hlast, hoffset]
    cases marksFrom d kind 0 (offset + (c :: x).length) ((c :: x).getLast?.or before) t <;> rfl

/-- Behind what is left over from a token, a text is lexed from there. -/
theorem marksFrom_append (h : marksFrom d kind x.length offset before (x ++ t) = .ok ms) :
    ∃ before' ms', ms = List.replicate x.length (.inside kind) ++ ms' ∧
      marksFrom d kind 0 (offset + x.length) before' t = .ok ms' := by
  rw [marksFrom_skip] at h
  obtain ⟨ms', hms, rfl⟩ := Outcome.map_ok_iff.mp h
  exact ⟨_, ms', rfl, hms⟩

/-- A text after a character that no token looks back at is lexed as one after nothing. -/
theorem marksFrom_after {c : Char} (hword : isWordChar c = false) (hcolon : c ≠ ':') :
    marksFrom d kind 0 offset (some c) t = marksFrom d kind 0 offset none t := by
  cases t with
  | nil => rfl
  | cons c t => rw [marksFrom, marksFrom, Token.at?_after hword hcolon]

/-- What a mask shows of a character depends on its mark. -/
theorem getElem?_maskWith_of_mark (hidden : Mark → Bool) {i : Nat} {mark : Mark}
    (h : ms[i]? = some mark) :
    (maskWith hidden t ms)[i]? = t[i]?.map fun c => if hidden mark then blanked c else c := by
  unfold maskWith
  rw [List.getElem?_zipWith, h]
  cases t[i]? <;> rfl

/-- What is inside a token ends where the next text begins. -/
theorem takeWhile_inside (n : Nat) (hms : ms.head? ≠ some (.inside kind)) :
    (List.replicate n (Mark.inside kind) ++ ms).takeWhile (fun m => m = .inside kind) =
      List.replicate n (.inside kind) := by
  have hnil : ms.takeWhile (fun m => m = .inside kind) = [] := by
    cases ms with
    | nil => rfl
    | cons m ms => exact List.takeWhile_cons_of_neg (by simpa using hms)
  rw [List.takeWhile_append_of_pos (by simp), hnil, List.append_nil]

end Stencil
