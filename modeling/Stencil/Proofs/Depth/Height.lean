import Mathlib.Data.Finset.Lattice.Fold
import Mathlib.Data.Finset.Range
import Mathlib.Data.List.Induction
import Stencil.Depth
import Stencil.Proofs.Text.Cut

/-! # Depth as a height

  A text is walked along: an opener leads one step up, a closer one step down. The number of open
  brackets does not go below zero, so that a closer that closes nothing is passed over, and the
  number depends on all that was read. It is known without that history all the same: it is the
  height of the walk above its lowest point so far (`openAfter_eq_height`).

  * A character changes the height by one, but not below zero (`height_succ`), and so it does the
    number of open brackets (`depthAfter_eq`).
  * A closer at height zero makes a new lowest point, so that nothing changes without it
    (`depths_eraseIdx`).
  * Between two brackets that match, the walk stays above them (`depths_of_matching`), and a closer has
    an opener that it matches just if it is met above height zero (`exists_matching_iff`).
-/

namespace Stencil

variable {t : Text} {c : Char} {i : Nat}

/-! ### The walk -/

/-- The openers less the closers among the first characters of a text. -/
def surplus (t : Text) (i : Nat) : Int := (t.take i).countP isOpener - (t.take i).countP isCloser

/-- The least surplus up to an offset. -/
def lowest (t : Text) (i : Nat) : Int :=
  (Finset.range (i + 1)).inf' Finset.nonempty_range_add_one (surplus t)

/-- How high an offset lies above the lowest point up to it. -/
def height (t : Text) (i : Nat) : Int := surplus t i - lowest t i

/-- The step that a character leads up. -/
def slope (c : Char) : Int := if isOpener c then 1 else if isCloser c then -1 else 0

theorem isOpener_of_isCloser (h : isCloser c = true) : isOpener c = false := by
  unfold isCloser at h
  simp only [Bool.or_eq_true, decide_eq_true_eq] at h
  rcases h with (rfl | rfl) | rfl <;> rfl

theorem isCloser_of_isOpener (h : isOpener c = true) : isCloser c = false := by
  rw [← Bool.not_eq_true]
  intro hclose
  rw [isOpener_of_isCloser hclose] at h
  cases h

theorem surplus_succ (h : t[i]? = some c) : surplus t (i + 1) = surplus t i + slope c := by
  have htake : t.take (i + 1) = t.take i ++ [c] := by
    rw [List.take_add_one, h]
    rfl
  unfold surplus slope
  rw [htake, List.countP_append, List.countP_append, List.countP_singleton, List.countP_singleton]
  by_cases hclose : isCloser c = true
  · rw [isOpener_of_isCloser hclose, if_neg Bool.false_ne_true, if_neg Bool.false_ne_true,
      if_pos hclose, if_pos hclose]
    omega
  · rw [if_neg hclose, if_neg hclose]
    by_cases hopen : isOpener c = true
    · rw [if_pos hopen, if_pos hopen]
      omega
    · rw [if_neg hopen, if_neg hopen]
      omega

theorem le_lowest_iff {n : Int} : n ≤ lowest t i ↔ ∀ j ≤ i, n ≤ surplus t j := by
  unfold lowest
  rw [Finset.le_inf'_iff]
  exact forall_congr' fun j => imp_congr_left Finset.mem_range_succ_iff

theorem lowest_le {j : Nat} (h : j ≤ i) : lowest t i ≤ surplus t j :=
  le_lowest_iff.mp (le_refl _) j h

theorem lowest_succ (t : Text) (i : Nat) :
    lowest t (i + 1) = min (lowest t i) (surplus t (i + 1)) := by
  apply le_antisymm
  · exact le_min (le_lowest_iff.mpr fun j hj => lowest_le (Nat.le_succ_of_le hj))
      (lowest_le (le_refl _))
  · refine le_lowest_iff.mpr fun j hj => ?_
    rcases Nat.le_succ_iff.mp hj with hj | rfl
    · exact (min_le_left _ _).trans (lowest_le hj)
    · exact min_le_right _ _

theorem height_nonneg (t : Text) (i : Nat) : 0 ≤ height t i :=
  Int.sub_nonneg_of_le (lowest_le (le_refl i))

/-- A character leads up or down, but not below the lowest point. -/
theorem height_succ (h : t[i]? = some c) : height t (i + 1) = max 0 (height t i + slope c) := by
  unfold height
  rw [lowest_succ, surplus_succ h]
  omega

/-! ### Open brackets -/

/-- The number of brackets open after a text before which `depth` are open. -/
def openAfter (depth : Nat) (t : Text) : Nat := t.foldl depthAfter depth

theorem depthAfter_opener {depth : Nat} (hopen : isOpener c = true) :
    depthAfter depth c = depth + 1 := if_pos hopen

theorem depthAfter_closer {depth : Nat} (hclose : isCloser c = true) :
    depthAfter depth c = depth - 1 := by
  unfold depthAfter
  rw [isOpener_of_isCloser hclose, hclose]
  rfl

theorem depthAfter_other {depth : Nat} (hopen : isOpener c = false) (hclose : isCloser c = false) :
    depthAfter depth c = depth := by
  unfold depthAfter
  rw [hopen, hclose]
  rfl

/-- A character opens or closes a bracket, but closes none where none is open. -/
theorem depthAfter_eq (depth : Nat) (c : Char) :
    (depthAfter depth c : Int) = max 0 (depth + slope c) := by
  unfold depthAfter slope
  split
  · omega
  · split <;> omega

/-- The number of brackets that are open at an offset is its height. The induction is on the text
before the offset, from its end. -/
theorem openAfter_eq_height (u v : Text) : (openAfter 0 u : Int) = height (u ++ v) u.length := by
  induction u using List.reverseRecOn generalizing v with
  | nil => simp [openAfter, height, lowest, surplus]
  | append_singleton u c ih =>
    have hc : (u ++ [c] ++ v)[u.length]? = some c := by simp
    have hstep : openAfter 0 (u ++ [c]) = depthAfter (openAfter 0 u) c := List.foldl_concat ..
    rw [hstep, depthAfter_eq, ih ([c] ++ v), ← List.append_assoc, ← height_succ hc,
      List.length_append]
    rfl

theorem openAfter_cons (depth : Nat) (c : Char) (t : Text) :
    openAfter depth (c :: t) = openAfter (depthAfter depth c) t := rfl

theorem openAfter_append (depth : Nat) (u v : Text) :
    openAfter depth (u ++ v) = openAfter (openAfter depth u) v := List.foldl_append

theorem depthsFrom_append (depth : Nat) (u v : Text) :
    depthsFrom depth (u ++ v) = depthsFrom depth u ++ depthsFrom (openAfter depth u) v := by
  induction u generalizing depth with
  | nil => rfl
  | cons c u ih => exact congrArg (depthAt depth c :: ·) (ih (depthAfter depth c))

/-- What stands behind other text has the depths that it has where so many brackets are open. -/
theorem getElem?_depths_append (u v : Text) (k : Nat) :
    (depths (u ++ v))[u.length + k]? = (depthsFrom (openAfter 0 u) v)[k]? := by
  unfold depths
  rw [depthsFrom_append, List.getElem?_append_right, length_depthsFrom, Nat.add_sub_cancel_left]
  rw [length_depthsFrom]
  exact Nat.le_add_right u.length k

/-! ### The depth of a character -/

/-- A closer has the depth behind it, and any other character that before it. -/
theorem depthAt_eq (depth : Nat) (c : Char) :
    depthAt depth c = if isCloser c then depthAfter depth c else depth := by
  unfold depthAt depthAfter
  split
  · next hclose => rw [isOpener_of_isCloser hclose, if_neg Bool.false_ne_true]
  · rfl

theorem getElem?_depths (h : t[i]? = some c) :
    ∃ n, (depths t)[i]? = some n ∧ (n : Int) = height t (if isCloser c then i + 1 else i) := by
  obtain ⟨u, v, rfl, rfl⟩ : ∃ u v, t = u ++ c :: v ∧ u.length = i := ⟨_, _, Text.split_at h⟩
  refine ⟨depthAt (openAfter 0 u) c, getElem?_depths_append u (c :: v) 0, ?_⟩
  rw [depthAt_eq]
  split
  · rw [depthAfter_eq, openAfter_eq_height u (c :: v), height_succ h]
  · exact openAfter_eq_height u (c :: v)

/-- The depths of all characters, from the first to the last. -/
theorem map_depths (t : Text) :
    (depths t).map Nat.cast =
      t.zipIdx.map fun (c, i) => height t (if isCloser c then i + 1 else i) := by
  apply List.ext_getElem?
  intro i
  rw [List.getElem?_map, List.getElem?_map, List.getElem?_zipIdx, Nat.zero_add]
  cases hc : t[i]? with
  | none =>
    have hlen : (depths t).length ≤ i := by
      rw [depths, length_depthsFrom]
      exact List.getElem?_eq_none_iff.mp hc
    rw [List.getElem?_eq_none hlen]
    rfl
  | some c =>
    obtain ⟨n, hn, hheight⟩ := getElem?_depths hc
    rw [hn]
    exact congrArg some hheight

/-- Without a closer that closes nothing, every other character has the depth that it had. -/
theorem depths_eraseIdx (hc : t[i]? = some c) (hclose : isCloser c = true) (h : height t i = 0) :
    depths (t.eraseIdx i) = (depths t).eraseIdx i := by
  obtain ⟨u, v, rfl, rfl⟩ : ∃ u v, t = u ++ c :: v ∧ u.length = i := ⟨_, _, Text.split_at hc⟩
  have hopen : openAfter 0 u = 0 := by
    have := openAfter_eq_height u (c :: v)
    omega
  have hafter : depthAfter 0 c = 0 := depthAfter_closer hclose
  have hlen : (depths u).length = u.length := length_depthsFrom 0 u
  unfold depths at hlen ⊢
  rw [List.eraseIdx_append_of_length_le (le_refl _), Nat.sub_self, List.eraseIdx_cons_zero,
    depthsFrom_append, depthsFrom_append, List.eraseIdx_append_of_length_le (Nat.le_of_eq hlen),
    hlen, Nat.sub_self, hopen, depthsFrom, List.eraseIdx_cons_zero, hafter]

/-! ### Brackets that match -/

/-- A text in which every bracket has its partner. The kinds of brackets are not told apart. -/
inductive Nested : Text → Prop
  | nil : Nested []
  | other {c : Char} {t : Text} (hopen : isOpener c = false) (hclose : isCloser c = false)
      (h : Nested t) : Nested (c :: t)
  | pair {o c : Char} {u v : Text} (hopen : isOpener o = true) (hu : Nested u)
      (hclose : isCloser c = true) (hv : Nested v) : Nested (o :: (u ++ c :: v))

/-- The closer at offset `b` of a text closes the opener at offset `a`. -/
inductive Matching : (t : Text) → (a b : Nat) → Prop
  | intro {o c : Char} {u w v : Text} (hopen : isOpener o = true) (hw : Nested w)
      (hclose : isCloser c = true) :
      Matching (u ++ o :: (w ++ c :: v)) u.length (u.length + 1 + w.length)

section pairs
variable {o : Char} {u v w : Text} {depth : Nat}

theorem Nested.append (hu : Nested u) (hv : Nested v) : Nested (u ++ v) := by
  induction hu with
  | nil => exact hv
  | other hopen hclose _ ih => exact .other hopen hclose ih
  | pair hopen hu hclose _ _ ih =>
    rw [List.cons_append, List.append_assoc]
    exact .pair hopen hu hclose ih

/-- Behind a text in which every bracket has its partner, as many brackets are open as before. -/
theorem Nested.openAfter_eq (h : Nested w) (depth : Nat) : openAfter depth w = depth := by
  induction h generalizing depth with
  | nil => rfl
  | other hopen hclose _ ih => rw [openAfter_cons, depthAfter_other hopen hclose, ih]
  | pair hopen _ hclose _ ihu ihv =>
    rw [openAfter_cons, openAfter_append, openAfter_cons, depthAfter_opener hopen, ihu,
      depthAfter_closer hclose, Nat.add_sub_cancel, ihv]

/-- Two brackets that match have one depth, and what stands between them begins one deeper. -/
theorem depthsFrom_pair (hopen : isOpener o = true) (hw : Nested w) (hclose : isCloser c = true) :
    depthsFrom depth (o :: (w ++ c :: v)) =
      depth :: (depthsFrom (depth + 1) w ++ depth :: depthsFrom depth v) := by
  have hopener : depthAt depth o = depth := by
    rw [depthAt_eq, isCloser_of_isOpener hopen]
    rfl
  have hcloser : depthAt (depth + 1) c = depth := by
    rw [depthAt_eq, hclose]
    exact depthAfter_closer hclose
  rw [depthsFrom, hopener, depthAfter_opener hopen, depthsFrom_append, hw.openAfter_eq, depthsFrom,
    hcloser, depthAfter_closer hclose, Nat.add_sub_cancel]

/-- No character of a text in which every bracket has its partner lies less deep than the text. -/
theorem Nested.le_depths (h : Nested w) : ∀ n ∈ depthsFrom depth w, depth ≤ n := by
  induction h generalizing depth with
  | nil => exact fun n hn => absurd hn List.not_mem_nil
  | other hopen hclose _ ih =>
    rw [depthsFrom, depthAt_eq, hclose, depthAfter_other hopen hclose]
    exact List.forall_mem_cons.mpr ⟨le_refl depth, ih⟩
  | pair hopen hu hclose _ ihu ihv =>
    rw [depthsFrom_pair hopen hu hclose]
    refine List.forall_mem_cons.mpr ⟨le_refl depth, List.forall_mem_append.mpr ⟨?_, ?_⟩⟩
    · exact fun n hn => Nat.le_of_succ_le (ihu n hn)
    · exact List.forall_mem_cons.mpr ⟨le_refl depth, ihv⟩

end pairs

/-- Two brackets that match have the same depth, and what stands between them lies deeper. -/
theorem depths_of_matching {a b : Nat} (h : Matching t a b) :
    ∃ n, (depths t)[a]? = some n ∧ (depths t)[b]? = some n ∧
      ∀ k, a < k → k < b → ∃ m, (depths t)[k]? = some m ∧ n < m := by
  cases h with
  | @intro o c u w v hopen hw hclose =>
    have hdepths (k : Nat) : (depths (u ++ o :: (w ++ c :: v)))[u.length + k]? =
        (openAfter 0 u :: (depthsFrom (openAfter 0 u + 1) w ++
          openAfter 0 u :: depthsFrom (openAfter 0 u) v))[k]? := by
      rw [getElem?_depths_append, depthsFrom_pair hopen hw hclose]
    have hlen := length_depthsFrom (openAfter 0 u + 1) w
    refine ⟨openAfter 0 u, hdepths 0, ?_, fun k hak hkb => ?_⟩
    · rw [Nat.add_assoc, Nat.add_comm 1, hdepths, List.getElem?_cons_succ,
        List.getElem?_append_right (Nat.le_of_eq hlen), hlen, Nat.sub_self]
      rfl
    · obtain ⟨j, rfl⟩ : ∃ j, k = u.length + (j + 1) := ⟨k - u.length - 1, by omega⟩
      have hj : j < (depthsFrom (openAfter 0 u + 1) w).length := by omega
      refine ⟨_, ?_, hw.le_depths _ (List.getElem_mem hj)⟩
      rw [hdepths, List.getElem?_cons_succ, List.getElem?_append_left hj,
        List.getElem?_eq_getElem hj]

/-- Where brackets are open there is a last one that was opened and not closed. The induction is on
the length of the text, since a closer at its end leads back to its opener. -/
theorem exists_opener {r : Text} {n : Nat} (h : openAfter 0 r = n + 1) :
    ∃ u o w, r = u ++ o :: w ∧ isOpener o = true ∧ Nested w ∧ openAfter 0 u = n := by
  induction hlen : r.length using Nat.strongRecOn generalizing r n with
  | ind len ih =>
    rcases List.eq_nil_or_concat r with rfl | ⟨s, c, rfl⟩
    · cases h
    · rw [List.concat_eq_append] at h hlen ⊢
      rw [List.length_append] at hlen
      rw [openAfter_append] at h
      have hs : s.length < len := by rw [← hlen]; exact Nat.lt_succ_self _
      by_cases hopen : isOpener c = true
      · rw [openAfter_cons, depthAfter_opener hopen] at h
        exact ⟨s, c, [], rfl, hopen, .nil, Nat.succ.inj h⟩
      · by_cases hclose : isCloser c = true
        · -- The bracket that the closer closes, and the last one that is open before it.
          rw [openAfter_cons, depthAfter_closer hclose] at h
          have hafter : openAfter 0 s - 1 = n + 1 := h
          have hbefore : openAfter 0 s = n + 1 + 1 := by omega
          obtain ⟨x, o', w', rfl, hopen', hw', hx⟩ := ih _ hs hbefore rfl
          rw [List.length_append] at hs
          obtain ⟨u, o, w, rfl, ho, hw, hu⟩ := ih x.length (by omega) hx rfl
          refine ⟨u, o, w ++ o' :: (w' ++ [c]), by simp, ho, ?_, hu⟩
          exact hw.append (.pair hopen' hw' hclose .nil)
        · rw [Bool.not_eq_true] at hopen hclose
          rw [openAfter_cons, depthAfter_other hopen hclose] at h
          obtain ⟨u, o, w, rfl, ho, hw, hu⟩ := ih _ hs h rfl
          exact ⟨u, o, w ++ [c], by simp, ho, hw.append (.other hopen hclose .nil), hu⟩

/-- A closer closes an opener just if it is met above height zero. -/
theorem exists_matching_iff {b : Nat} (hc : t[b]? = some c) (hclose : isCloser c = true) :
    (∃ a, Matching t a b) ↔ 0 < height t b := by
  constructor
  · intro h
    obtain ⟨a, h⟩ := h
    cases h with
    | @intro o c' u w v hopen hw hclose' =>
      have hheight := openAfter_eq_height (u ++ o :: w) (c' :: v)
      rw [openAfter_append, openAfter_cons, depthAfter_opener hopen, hw.openAfter_eq] at hheight
      have hlen : (u ++ o :: w).length = u.length + 1 + w.length := by simp; omega
      rw [hlen, List.append_assoc, List.cons_append] at hheight
      omega
  · intro h
    obtain ⟨r, v, rfl, rfl⟩ : ∃ r v, t = r ++ c :: v ∧ r.length = b := ⟨_, _, Text.split_at hc⟩
    rw [← openAfter_eq_height r (c :: v)] at h
    obtain ⟨n, hn⟩ : ∃ n, openAfter 0 r = n + 1 := ⟨openAfter 0 r - 1, by omega⟩
    obtain ⟨u, o, w, rfl, hopen, hw, _⟩ := exists_opener hn
    have hlen : (u ++ o :: w).length = u.length + 1 + w.length := by simp; omega
    rw [hlen, List.append_assoc, List.cons_append]
    exact ⟨u.length, .intro hopen hw hclose⟩

/-! ### The depths of a text -/

/-- The depth of a character is its height, or for a closer the height behind it. From this it is
seen what a closer does that closes nothing: nothing at all. The other closers have their openers,
with the same depth as their own, and between the two every depth is greater. -/
theorem depths_eq_height (t : Text) :
    (depths t).map Nat.cast =
        t.zipIdx.map (fun (c, i) => height t (if isCloser c then i + 1 else i)) ∧
      (∀ i, 0 ≤ height t i) ∧
      (∀ i c, t[i]? = some c → isCloser c = true → height t i = 0 →
        depths (t.eraseIdx i) = (depths t).eraseIdx i) ∧
      (∀ b c, t[b]? = some c → isCloser c = true →
        ((∃ a, Matching t a b) ↔ 0 < height t b)) ∧
      ∀ a b, Matching t a b → ∃ n, (depths t)[a]? = some n ∧ (depths t)[b]? = some n ∧
        ∀ k, a < k → k < b → ∃ m, (depths t)[k]? = some m ∧ n < m :=
  ⟨map_depths t, height_nonneg t, fun _ _ => depths_eraseIdx, fun _ _ => exists_matching_iff,
    fun _ _ => depths_of_matching⟩

def strayText : Text := ['a', ')', '(', 'b', '[', 'c', ']', ')']

/-- The first closer closes nothing, and the last one the bracket behind the first. -/
theorem depths_eq_height_stray :
    height strayText 1 = 0 ∧ depths (strayText.eraseIdx 1) = [0, 0, 1, 1, 2, 1, 0] ∧
      height strayText 7 = 1 ∧ (∃ a, Matching strayText a 7) ∧
      ∃ n, (depths strayText)[2]? = some n ∧ (depths strayText)[7]? = some n ∧
        ∀ k, 2 < k → k < 7 → ∃ m, (depths strayText)[k]? = some m ∧ n < m := by
  obtain ⟨_, _, hstray, hpartner, hpair⟩ := depths_eq_height strayText
  have hbefore : height strayText 1 = 0 := by decide
  have hlast : height strayText 7 = 1 := by decide
  have hnested : Nested ['b', '[', 'c', ']'] :=
    .other rfl rfl (.pair rfl (.other rfl rfl .nil) rfl .nil)
  have hmatching : Matching strayText 2 7 := .intro (u := ['a', ')']) (v := []) rfl hnested rfl
  refine ⟨hbefore, ?_, hlast, ?_, hpair 2 7 hmatching⟩
  · rw [hstray 1 ')' rfl rfl hbefore]
    rfl
  · exact (hpartner 7 ')' rfl rfl).mpr (by rw [hlast]; decide)

end Stencil
