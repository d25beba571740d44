import Stencil.FreeNames
import Stencil.Proofs.Text.Cut
import Stencil.Proofs.Text.Word

/-! # Names in a text

  Plain names are looked for from the start of a text, each as long as it can be: a name ends where
  no character of a name follows (`Use.NameAt`), and the next one begins behind it.
-/

namespace Stencil.Use

variable {skip offset i : Nat} {name t : Text}

/-- The plain name `name` stands at offset `i` of a text, and does not go on behind. -/
structure NameAt (t name : Text) (i : Nat) : Prop where
  first : ∃ c more, name = c :: more ∧ isPlainStart c = true
  plain : ∀ c ∈ name, isPlainChar c = true
  stands : ∀ k c, name[k]? = some c → t[i + k]? = some c
  ends : ∀ c, t[i + name.length]? = some c → isPlainChar c = false

namespace NameAt

theorem ne_nil (h : NameAt t name i) : name ≠ [] := by
  obtain ⟨c, more, rfl, _⟩ := h.first
  exact List.cons_ne_nil c more

theorem length_le (h : NameAt t name i) : i + name.length ≤ t.length := by
  have hpos := List.length_pos_iff.mpr h.ne_nil
  have hlast := h.stands (name.length - 1) _ (List.getElem?_eq_getElem (by omega))
  have := (List.getElem?_eq_some_iff.mp hlast).1
  omega

theorem drop_eq (h : NameAt t name i) : t.drop i = name ++ t.drop (i + name.length) := by
  refine List.ext_getElem? fun k => ?_
  rw [List.getElem?_drop]
  by_cases hk : k < name.length
  · rw [List.getElem?_append_left hk, List.getElem?_eq_getElem hk]
    exact h.stands k _ (List.getElem?_eq_getElem hk)
  · rw [List.getElem?_append_right (Nat.not_lt.mp hk), List.getElem?_drop, Nat.add_assoc,
      Nat.add_sub_cancel' (Nat.not_lt.mp hk)]

/-- A name stands where it does behind another character, too. -/
theorem cons (c : Char) (h : NameAt t name i) : NameAt (c :: t) name (i + 1) where
  first := h.first
  plain := h.plain
  stands k x hx := by
    rw [Nat.add_right_comm, List.getElem?_cons_succ]
    exact h.stands k x hx
  ends x hx := by
    rw [Nat.add_right_comm, List.getElem?_cons_succ] at hx
    exact h.ends x hx

/-- The name at the start of a text is as long as it can be. -/
theorem of_takeWhile {c : Char} (h : isPlainStart c = true) :
    NameAt (c :: t) (c :: t.takeWhile isPlainChar) 0 where
  first := ⟨c, _, rfl, h⟩
  plain := by
    rw [List.forall_mem_cons]
    exact ⟨isPlainChar_of_isPlainStart h, List.all_eq_true.mp List.all_takeWhile⟩
  stands k x hx := by
    rw [Nat.zero_add]
    obtain ⟨rest, hrest⟩ : (c :: t.takeWhile isPlainChar) <+: c :: t :=
      (List.prefix_cons_inj c).mpr (List.takeWhile_prefix isPlainChar)
    rw [← hrest, List.getElem?_append_left (List.getElem?_eq_some_iff.mp hx).1]
    exact hx
  ends x hx := by
    have hhead : (t.dropWhile isPlainChar).head? = some x := by
      rw [← Text.drop_takeWhile, List.head?_drop, ← hx, Nat.zero_add, List.length_cons,
        List.getElem?_cons_succ]
    have hstop := List.head?_dropWhile_not isPlainChar t
    rw [hhead] at hstop
    simpa using hstop

end NameAt

/-! ### Names that are found -/

theorem mem_namesFrom (h : (name, i) ∈ namesFrom skip offset t) :
    ∃ k, i = offset + k ∧ skip ≤ k ∧ NameAt t name k := by
  induction t generalizing skip offset with
  | nil => cases skip <;> simp [namesFrom] at h
  | cons c t ih =>
    -- What is found behind the first character stands one place further on.
    have behind {skip : Nat} (h : (name, i) ∈ namesFrom skip (offset + 1) t) :
        ∃ k, i = offset + k ∧ skip + 1 ≤ k ∧ NameAt (c :: t) name k := by
      obtain ⟨k, rfl, hk, hname⟩ := ih h
      exact ⟨k + 1, by omega, by omega, hname.cons c⟩
    cases skip with
    | succ skip => exact behind h
    | zero =>
      rw [namesFrom] at h
      split at h
      · next hfirst =>
        rcases List.mem_cons.mp h with h | h
        · obtain ⟨rfl, rfl⟩ := Prod.mk.inj h
          exact ⟨0, rfl, Nat.le_refl 0, .of_takeWhile hfirst⟩
        · obtain ⟨k, hi, _, hname⟩ := behind h
          exact ⟨k, hi, Nat.zero_le k, hname⟩
      · obtain ⟨k, hi, _, hname⟩ := behind h
        exact ⟨k, hi, Nat.zero_le k, hname⟩

theorem nameAt_of_mem_names (h : (name, i) ∈ names t) : NameAt t name i := by
  obtain ⟨k, rfl, _, hname⟩ := mem_namesFrom h
  rw [Nat.zero_add]
  exact hname

/-- Each name is found behind the one before it. -/
theorem pairwise_namesFrom (skip offset : Nat) (t : Text) :
    (namesFrom skip offset t).Pairwise fun a b => a.2 < b.2 := by
  induction t generalizing skip offset with
  | nil => cases skip <;> exact .nil
  | cons c t ih =>
    cases skip with
    | succ skip => exact ih skip (offset + 1)
    | zero =>
      rw [namesFrom]
      split
      · refine List.pairwise_cons.mpr ⟨fun b hb => ?_, ih _ _⟩
        obtain ⟨k, hk, hskip, _⟩ := mem_namesFrom hb
        rw [hk]
        dsimp only
        omega
      · exact ih 0 (offset + 1)

/-! ### Names that are used -/

/-- What a piece of code uses are names of it that no word goes on with and that have no meaning of
their own, one behind the other. -/
theorem usesIn_spec {d : Dialect} (h : (name, i) ∈ usesIn d t) :
    NameAt t name i ∧ isGiven d name = false ∧
      ∀ k c, i = k + 1 → t[k]? = some c → isWordChar c = false := by
  unfold usesIn at h
  rw [List.mem_filter] at h
  simp only [Bool.and_eq_true, Bool.not_eq_true'] at h
  obtain ⟨hname, ⟨⟨hword, hgiven⟩, _⟩, _⟩ := h
  refine ⟨nameAt_of_mem_names hname, hgiven, ?_⟩
  rintro k c rfl hc
  unfold continuesWord at hword
  rw [Nat.add_sub_cancel, hc] at hword
  simpa using hword

theorem pairwise_usesIn (d : Dialect) (t : Text) :
    (usesIn d t).Pairwise fun a b => a.2 < b.2 :=
  (pairwise_namesFrom 0 0 t).filter _

end Stencil.Use
