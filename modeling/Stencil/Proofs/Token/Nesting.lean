import Stencil.Proofs.Token.Comment

/-! # Where a block comment ends

  A block comment ends at the closing delimiter that matches its opening one. The reader counts the
  comments that are open; `Closes` says the same without a count, by what the inside of a comment
  consists of:

  * characters at which no delimiter stands,
  * whole comments, in a dialect in which comments may stand in each other, and
  * at last the closing delimiter.

  Where both delimiters stand at one place, the opening one counts. `blockEnd_eq_some_iff` says that
  the reader comes to exactly this end.
-/

namespace Stencil.Token

/-- The block comment that a text continues ends after the given number of characters. -/
inductive Closes (opener closer : Text) (nested : Bool) : Text → Nat → Prop
  | closer {t} (hopen : ¬ (nested && opener.isPrefixOf t) = true)
      (hclose : closer.isPrefixOf t = true) : Closes opener closer nested t closer.length
  /-- A comment in the comment is passed as a whole. -/
  | inner {t m n} (hopen : (nested && opener.isPrefixOf t) = true)
      (hinner : Closes opener closer nested (t.drop opener.length) m)
      (hrest : Closes opener closer nested (t.drop (opener.length + m)) n) :
      Closes opener closer nested t (opener.length + m + n)
  | char {c t n} (hopen : ¬ (nested && opener.isPrefixOf (c :: t)) = true)
      (hclose : ¬ closer.isPrefixOf (c :: t) = true) (hrest : Closes opener closer nested t n) :
      Closes opener closer nested (c :: t) (n + 1)

variable {opener closer : Text} {nested : Bool} {t : Text}

/-! ### Delimiters are passed as a whole -/

theorem map_add_add (o : Option Nat) (m n : Nat) :
    (o.map (· + m)).map (· + n) = o.map (· + (m + n)) := by
  cases o with
  | none => rfl
  | some k => exact congrArg some (Nat.add_assoc k m n)

/-- What is being passed is passed. -/
theorem blockEnd_skip (depth skip : Nat) (t : Text) :
    blockEnd opener closer nested depth skip t =
      (blockEnd opener closer nested depth 0 (t.drop skip)).map (· + skip) := by
  induction skip generalizing t with
  | zero =>
    rw [List.drop_zero]
    exact Option.map_id'.symm
  | succ skip ih =>
    cases t with
    | nil => rfl
    | cons c t => rw [blockEnd, ih, map_add_add, List.drop_succ_cons]

/-- Behind the first character of a delimiter, the rest of it is passed. -/
theorem blockEnd_delimiter {p : Text} (hp : p ≠ []) (depth : Nat) (c : Char) (t : Text) :
    (blockEnd opener closer nested depth (p.length - 1) t).map (· + 1) =
      (blockEnd opener closer nested depth 0 ((c :: t).drop p.length)).map (· + p.length) := by
  obtain ⟨k, hk⟩ : ∃ k, p.length = k + 1 :=
    ⟨p.length - 1, (Nat.sub_add_cancel (List.length_pos_iff.mpr hp)).symm⟩
  rw [hk, Nat.add_sub_cancel, blockEnd_skip, map_add_add, List.drop_succ_cons]

theorem blockEnd_opener (hopener : opener ≠ []) (hopen : (nested && opener.isPrefixOf t) = true)
    (depth : Nat) : blockEnd opener closer nested depth 0 t =
      (blockEnd opener closer nested (depth + 1) 0 (t.drop opener.length)).map
        (· + opener.length) := by
  cases t with
  | nil =>
    rw [Bool.and_eq_true] at hopen
    exact absurd (List.prefix_nil.mp (List.isPrefixOf_iff_prefix.mp hopen.2)) hopener
  | cons c t => rw [blockEnd_cons, if_pos hopen, blockEnd_delimiter hopener]

theorem blockEnd_closer (hcloser : closer ≠ []) (hopen : ¬ (nested && opener.isPrefixOf t) = true)
    (hclose : closer.isPrefixOf t = true) (depth : Nat) :
    blockEnd opener closer nested 0 0 t = some closer.length ∧
      blockEnd opener closer nested (depth + 1) 0 t =
        (blockEnd opener closer nested depth 0 (t.drop closer.length)).map (· + closer.length) := by
  cases t with
  | nil => exact absurd (List.prefix_nil.mp (List.isPrefixOf_iff_prefix.mp hclose)) hcloser
  | cons c t =>
    constructor
    · rw [blockEnd_cons, if_neg hopen, if_pos hclose, if_pos rfl]
    · rw [blockEnd_cons, if_neg hopen, if_pos hclose, if_neg (Nat.succ_ne_zero depth),
        Nat.add_sub_cancel, blockEnd_delimiter hcloser]

/-! ### The reader and the end -/

/-- Within another comment, the reader passes a comment that ends. The induction is on what the
comment consists of. -/
theorem Closes.blockEnd_succ (hopener : opener ≠ []) (hcloser : closer ≠ []) {m : Nat}
    (h : Closes opener closer nested t m) (depth : Nat) :
    blockEnd opener closer nested (depth + 1) 0 t =
      (blockEnd opener closer nested depth 0 (t.drop m)).map (· + m) := by
  induction h generalizing depth with
  | closer hopen hclose => exact (blockEnd_closer hcloser hopen hclose depth).2
  | inner hopen _ _ ihinner ihrest =>
    rw [blockEnd_opener hopener hopen, ihinner, List.drop_drop, ihrest, List.drop_drop,
      map_add_add, map_add_add]
    congr 2
    funext k
    omega
  | char hopen hclose _ ih =>
    rw [blockEnd_cons, if_neg hopen, if_neg hclose, ih, map_add_add, List.drop_succ_cons]

/-- The outermost comment is over where it ends. -/
theorem Closes.blockEnd_zero (hopener : opener ≠ []) (hcloser : closer ≠ []) {n : Nat}
    (h : Closes opener closer nested t n) : blockEnd opener closer nested 0 0 t = some n := by
  induction h with
  | closer hopen hclose => exact (blockEnd_closer hcloser hopen hclose 0).1
  | inner hopen hinner _ _ ihrest =>
    rw [blockEnd_opener hopener hopen, hinner.blockEnd_succ hopener hcloser, List.drop_drop,
      ihrest]
    simp only [Option.map_some, Option.some.injEq]
    omega
  | char hopen hclose _ ih =>
    rw [blockEnd_cons, if_neg hopen, if_neg hclose, ih]
    rfl

/-- Where the reader comes to an end, the innermost comment that is open ends, which is the whole
one at depth 0. The induction is on the length of the text, since a comment in the comment is passed
before the reader goes on. -/
theorem closes_of_blockEnd (hopener : opener ≠ []) (hcloser : closer ≠ []) {depth n : Nat}
    (h : blockEnd opener closer nested depth 0 t = some n) :
    ∃ m, Closes opener closer nested t m ∧ (depth = 0 → m = n) := by
  induction hlen : t.length using Nat.strongRecOn generalizing t depth n with
  | ind len ih =>
    have hpos := List.length_pos_iff.mpr hopener
    cases t with
    | nil => cases h
    | cons c t =>
      by_cases hopen : (nested && opener.isPrefixOf (c :: t)) = true
      · -- A comment in the comment, then what is left of the latter.
        have hshorter : ∀ k, ((c :: t).drop (opener.length + k)).length < len := by
          intro k
          rw [List.length_drop, ← hlen, List.length_cons]
          omega
        rw [blockEnd_opener hopener hopen] at h
        obtain ⟨n', hn', rfl⟩ := Option.map_eq_some_iff.mp h
        obtain ⟨m, hinner, _⟩ := ih _ (hshorter 0) hn' rfl
        rw [hinner.blockEnd_succ hopener hcloser, List.drop_drop] at hn'
        obtain ⟨n'', hn'', rfl⟩ := Option.map_eq_some_iff.mp hn'
        obtain ⟨k, hrest, hzero⟩ := ih _ (hshorter m) hn'' rfl
        refine ⟨_, .inner hopen hinner hrest, fun hdepth => ?_⟩
        rw [hzero hdepth]
        omega
      · by_cases hclose : closer.isPrefixOf (c :: t) = true
        · refine ⟨_, .closer hopen hclose, fun hdepth => ?_⟩
          subst hdepth
          rw [(blockEnd_closer hcloser hopen hclose 0).1] at h
          exact Option.some.inj h
        · rw [blockEnd_cons, if_neg hopen, if_neg hclose] at h
          obtain ⟨n', hn', rfl⟩ := Option.map_eq_some_iff.mp h
          obtain ⟨m, hrest, hzero⟩ := ih t.length (by rw [← hlen]; exact Nat.lt_succ_self _) hn' rfl
          exact ⟨m + 1, .char hopen hclose hrest, fun hdepth => by rw [hzero hdepth]⟩

/-- The reader of a block comment comes to the delimiter that matches the opening one, if there is
one. -/
theorem blockEnd_eq_some_iff (hopener : opener ≠ []) (hcloser : closer ≠ []) {n : Nat} :
    blockEnd opener closer nested 0 0 t = some n ↔ Closes opener closer nested t n := by
  constructor
  · intro h
    obtain ⟨m, hm, hzero⟩ := closes_of_blockEnd hopener hcloser h
    rw [← hzero rfl]
    exact hm
  · intro h
    exact h.blockEnd_zero hopener hcloser

theorem blockEnd_eq_none_iff (hopener : opener ≠ []) (hcloser : closer ≠ []) :
    blockEnd opener closer nested 0 0 t = none ↔ ∀ n, ¬ Closes opener closer nested t n := by
  rw [Option.eq_none_iff_forall_ne_some]
  exact forall_congr' fun n => not_congr (blockEnd_eq_some_iff hopener hcloser)

end Stencil.Token
