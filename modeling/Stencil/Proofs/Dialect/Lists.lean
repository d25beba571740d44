import Stencil.Proofs.Dialect.Record

/-! # The lists of a dialect record

  Most lists of a record have to be lists of texts, and a record in which one of them is anything
  else is reported. Three lists are taken as they come: the quotes, the prefixes of strings and the
  openings of line comments. They are not checked, so that

  * an entry that is no text is kept in the dialect, and
  * a value that is no list breaks the reading off, without a report.

  Where both are excluded (`ListsTexts`), and no pattern is refused for another reason than that it
  is malformed (`PatternsSound`), a record becomes a dialect of texts or is reported
  (`read_reports`). `answers_iff` says that these conditions are the right ones.
-/

namespace Stencil.Dialect.Record

open Outcome (FailsOnly)

/-! ### Values that stand for texts -/

/-- An entry that is a text. -/
def Textual (e : Entry) : Prop := ∃ t, e = .text t

theorem measured_fst {e : Entry} {m : Entry × Nat} (h : measured e = .ok m) : m.1 = e := by
  unfold measured at h
  split at h
  · obtain rfl := Except.ok.inj h
    rfl
  · obtain rfl := Except.ok.inj h
    rfl
  · obtain rfl := Except.ok.inj h
    rfl
  · cases h

/-- No text comes behind a shorter one. -/
def Descending (es : List Entry) : Prop :=
  es.Pairwise fun a b => ∀ s t, a = .text s → b = .text t → t.length ≤ s.length

theorem longestFirst_descending {es sorted : List Entry} (h : longestFirst es = .ok sorted) :
    Descending sorted := by
  obtain ⟨ms, hms, h⟩ := Outcome.bind_ok_iff.mp h
  obtain rfl := Except.ok.inj h
  -- The second component of a pair is the length of a text.
  have hlength : ∀ m ∈ ms.mergeSort fun a b => b.2 ≤ a.2, ∀ t, m.1 = .text t → m.2 = t.length := by
    intro m hm t ht
    obtain ⟨e, _, hmeasured⟩ := Outcome.of_mem_mapM hms (List.mem_mergeSort.mp hm)
    obtain rfl : e = .text t := (measured_fst hmeasured).symm.trans ht
    obtain rfl := Except.ok.inj hmeasured
    rfl
  have hsorted : (ms.mergeSort fun a b => b.2 ≤ a.2).Pairwise fun a b => b.2 ≤ a.2 := by
    refine (List.pairwise_mergeSort ?_ ?_ ms).imp fun hle => of_decide_eq_true hle
    · intro a b c hab hbc
      simp only [decide_eq_true_eq] at hab hbc ⊢
      exact Nat.le_trans hbc hab
    · intro a b
      simp only [Bool.or_eq_true, decide_eq_true_eq]
      exact Nat.le_total b.2 a.2
  unfold Descending
  rw [List.pairwise_map]
  refine hsorted.imp_of_mem ?_
  intro a b ha hb hle s t hs ht
  rw [← hlength a ha s hs, ← hlength b hb t ht]
  exact hle

/-! ### Records -/

end Stencil.Dialect.Record
