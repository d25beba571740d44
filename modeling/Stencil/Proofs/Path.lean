import Stencil.Path

/-! # Paths and their spellings

  A path that was read from a text has no empty parts, no single dots and no slashes in its parts, so
  it is read back from its own spelling. Two such paths with one spelling are one path, which is why
  what is kept under the spelling of a path is kept for that path alone.
-/

namespace Stencil

namespace Text

/-! ### Splitting what was joined -/

variable {sep : Char}

theorem splitAt_of_not_mem {t : Text} (h : sep ∉ t) : splitAt sep t = [t] := by
  induction t with
  | nil => rfl
  | cons c t ih =>
    rw [List.mem_cons, not_or] at h
    rw [splitAt, if_neg (Ne.symm h.1), ih h.2]

theorem splitAt_append {t : Text} (h : sep ∉ t) (u : Text) :
    splitAt sep (t ++ sep :: u) = t :: splitAt sep u := by
  induction t with
  | nil => rw [List.nil_append, splitAt, if_pos rfl]
  | cons c t ih =>
    rw [List.mem_cons, not_or] at h
    rw [List.cons_append, splitAt, if_neg (Ne.symm h.1), ih h.2]

/-- Pieces without the separator are found again. -/
theorem splitAt_join {ts : List Text} (hne : ts ≠ []) (h : ∀ t ∈ ts, sep ∉ t) :
    splitAt sep (join [sep] ts) = ts := by
  induction ts with
  | nil => exact absurd rfl hne
  | cons t ts ih =>
    rw [List.forall_mem_cons] at h
    cases ts with
    | nil => exact splitAt_of_not_mem h.1
    | cons u ts =>
      rw [join_cons_cons, List.append_assoc, List.singleton_append, splitAt_append h.1,
        ih (List.cons_ne_nil _ _) h.2]

theorem not_mem_of_mem_splitAt {t piece : Text} (h : piece ∈ splitAt sep t) : sep ∉ piece := by
  induction t generalizing piece with
  | nil =>
    obtain rfl := List.mem_singleton.mp h
    exact List.not_mem_nil
  | cons c t ih =>
    rw [splitAt] at h
    split at h
    · rcases List.mem_cons.mp h with rfl | h
      · exact List.not_mem_nil
      · exact ih h
    · next hc =>
      obtain ⟨first, rest, hsplit⟩ := List.exists_cons_of_ne_nil (splitAt_ne_nil sep t)
      rw [hsplit] at h ih
      rcases List.mem_cons.mp h with rfl | h
      · exact List.not_mem_cons_of_ne_of_not_mem (Ne.symm hc) (ih List.mem_cons_self)
      · exact ih (List.mem_cons_of_mem first h)

end Text

namespace Path

/-! ### Normal paths -/

/-- A path without parts that spell nothing. -/
structure Normal (p : Path) : Prop where
  root : p.root = [] ∨ p.root = ['/'] ∨ p.root = ['/', '/']
  parts : ∀ part ∈ p.parts, part ≠ [] ∧ part ≠ ['.'] ∧ '/' ∉ part

theorem normal_ofText (t : Text) : (ofText t).Normal where
  root := by
    unfold ofText rootOf
    split <;> simp
  parts part hpart := by
    obtain ⟨hpart, hkept⟩ := List.mem_filter.mp hpart
    simp only [Bool.not_eq_true', Bool.or_eq_false_iff, decide_eq_false_iff_not] at hkept
    exact ⟨hkept.1, hkept.2, Text.not_mem_of_mem_splitAt hpart⟩

/-- The first part of a normal path is told from its root. -/
theorem Normal.head?_join {p : Path} (h : p.Normal) :
    (Text.join ['/'] p.parts).head? ≠ some '/' := by
  obtain ⟨root, parts⟩ := p
  cases parts with
  | nil => exact nofun
  | cons part parts =>
    obtain ⟨hne, _, hslash⟩ := h.parts part List.mem_cons_self
    obtain ⟨c, part, rfl⟩ := List.exists_cons_of_ne_nil hne
    have hc : c ≠ '/' := fun hc => hslash (hc ▸ List.mem_cons_self)
    cases parts with
    | nil => simpa [Text.join] using hc
    | cons next parts => simpa [Text.join] using hc

theorem rootOf_append {root t : Text} (hroot : root = [] ∨ root = ['/'] ∨ root = ['/', '/'])
    (ht : t.head? ≠ some '/') : rootOf (root ++ t) = root := by
  cases t with
  | nil => rcases hroot with rfl | rfl | rfl <;> rfl
  | cons c t =>
    have hc : c ≠ '/' := fun hc => ht (congrArg some hc)
    rcases hroot with rfl | rfl | rfl
    · simp [rootOf, hc]
    · simp [rootOf, hc]
    · simp [rootOf, hc]

/-- A root adds no parts. -/
theorem filter_splitAt_append {root t : Text}
    (hroot : root = [] ∨ root = ['/'] ∨ root = ['/', '/']) :
    (Text.splitAt '/' (root ++ t)).filter (fun part => !(part = [] || part = ['.'])) =
      (Text.splitAt '/' t).filter (fun part => !(part = [] || part = ['.'])) := by
  rcases hroot with rfl | rfl | rfl <;> rfl

theorem Normal.ofText_toText {p : Path} (h : p.Normal) : ofText p.toText = p := by
  obtain ⟨root, parts⟩ := p
  unfold toText
  split
  · next hempty =>
    simp only [Bool.and_eq_true, decide_eq_true_eq] at hempty
    obtain ⟨rfl, rfl⟩ := hempty
    rfl
  · unfold ofText
    rw [rootOf_append h.root h.head?_join, filter_splitAt_append h.root]
    congr
    by_cases hparts : parts = []
    · subst hparts
      rfl
    · rw [Text.splitAt_join hparts fun part hpart => (h.parts part hpart).2.2]
      refine List.filter_eq_self.mpr fun part hpart => ?_
      obtain ⟨hne, hdot, _⟩ := h.parts part hpart
      simp [hne, hdot]

/-- Paths that were read from texts are told apart by their spellings. -/
theorem ofText_injective_of_toText {t u : Text} (h : (ofText t).toText = (ofText u).toText) :
    ofText t = ofText u := by
  rw [← (normal_ofText t).ofText_toText, h, (normal_ofText u).ofText_toText]

end Path
end Stencil
