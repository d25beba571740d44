import Stencil.Proofs.Block.Parts

/-! # Where the parts of a code block lie

  A code block is read from two masks of its body: terminators and colons are looked for in the one
  without tokens, and the texts are cut from the one without comments (`Block.ofMasks`). Each part
  is a piece of the body, and its offset says where (`Block.LiesIn`):

  - the statements are the body up to some offset;
  - the expression and the specifier are what the body shows at their offsets, behind the
    statements.
-/

namespace Stencil.Block

variable {d : Dialect} {base : Int} {t : Text} {ms : List Mark} {b : Block}

/-! ### Reading from masks -/

/-- What is read of a block with the body `t`, whose masks without tokens and without comments are
given. -/
def ofMasks (d : Dialect) (base : Int) (t masked visible : Text) : Except Failure Block :=
  let start := tailStart d masked
  let statements := t.take start
  if (visible.drop start).all isBlank then
    .ok ⟨if statements.all isBlank then [] else statements, none⟩
  else
    match specColon? d masked start with
    | none =>
      let region : Text := visible.drop start
      .ok ⟨statements, some ⟨region.trim, none, base + start + region.indent, 0⟩⟩
    | some colon =>
      let region : Text := visible.slice start colon
      let specRegion : Text := visible.drop (colon + 1)
      if region.all isBlank then .error (.template ⟨.missingExpression, base + colon⟩)
      else
        .ok ⟨statements, some ⟨region.trim, some specRegion.trim, base + start + region.indent,
          base + colon + 1 + specRegion.indent⟩⟩

/-- A block is read from the masks of its body. -/
theorem read_of_marks (h : marks d t = .ok ms) :
    read d base t =
      ofMasks d base t (maskWith Mark.isOpaque t ms) (maskWith Mark.isComment t ms) := by
  have hstart : (terminators d (maskWith Mark.isOpaque t ms)).getLast?.elim 0 (· + 1) =
      tailStart d (maskWith Mark.isOpaque t ms) := rfl
  unfold read ofMasks
  rw [h, Outcome.ok_bind]
  dsimp only
  rw [hstart]
  generalize tailStart d (maskWith Mark.isOpaque t ms) = start
  by_cases hblank : ((maskWith Mark.isComment t ms).drop start).all isBlank = true
  · rw [if_pos hblank, if_pos hblank]
    rfl
  · rw [if_neg hblank, if_neg hblank]
    cases specColon? d (maskWith Mark.isOpaque t ms) start with
    | none => rfl
    | some colon =>
      dsimp only
      by_cases hregion : ((maskWith Mark.isComment t ms).slice start colon).all isBlank = true
      · rw [if_pos hregion, if_pos hregion]
        rfl
      · rw [if_neg hregion, if_neg hregion]
        rfl

/-- A block that is read is lexed first. -/
theorem marks_of_read (h : read d base t = .ok b) :
    ∃ ms, marks d t = .ok ms ∧
      ofMasks d base t (maskWith Mark.isOpaque t ms) (maskWith Mark.isComment t ms) = .ok b := by
  obtain ⟨ms, hms, _⟩ := Outcome.bind_ok_iff.mp h
  exact ⟨ms, hms, read_of_marks hms ▸ h⟩

/-- Only a colon without an expression before it is a fault. -/
theorem ofMasks_error {masked visible : Text} {f : Failure}
    (h : ofMasks d base t masked visible = .error f) :
    ∃ colon : Nat, masked[colon]? = some ':' ∧ f = .template ⟨.missingExpression, base + colon⟩ := by
  unfold ofMasks at h
  dsimp only at h
  split at h
  · cases h
  · split at h
    · cases h
    · next colon hcolon =>
      split at h
      · exact ⟨colon, (colon_of_specColon hcolon).2, (Except.error.inj h).symm⟩
      · cases h

/-! ### Offsets of the parts -/

/-- A text shows `u` at offset `i`. -/
def ShownAt (visible u : Text) (i : Nat) : Prop :=
  i + u.length ≤ visible.length ∧ visible.slice i (i + u.length) = u

/-- The parts of a block lie in its body `t`, which stands at `base` and shows the text `visible`
without its comments. -/
structure LiesIn (base : Int) (t visible : Text) (b : Block) : Prop where
  statements : b.statements <+: t
  /-- The expression is shown behind the statements. -/
  expr : ∀ tail ∈ b.tail, ∃ i : Nat, tail.exprOffset = base + i ∧ b.statements.length ≤ i ∧
    tail.expr ≠ [] ∧ ShownAt visible tail.expr i
  /-- The specifier is shown where its offset says. -/
  spec : ∀ tail ∈ b.tail, ∀ spec ∈ tail.spec, ∃ i : Nat, tail.specOffset = base + i ∧
    ShownAt visible spec i

/-- What is left of a slice without the blanks around it is shown behind the blanks in front. -/
theorem shownAt_trim {visible : Text} {a b : Nat} (ha : a ≤ visible.length) :
    ShownAt visible (visible.slice a b).trim (a + (visible.slice a b).indent) := by
  obtain ⟨hle, hslice⟩ := Text.slice_indent (visible.slice a b)
  constructor
  · have hlen : (visible.slice a b).length ≤ visible.length - a := by
      unfold Text.slice
      rw [List.length_take, List.length_drop]
      omega
    omega
  · rw [Nat.add_assoc, ← Text.slice_slice hle, hslice]

theorem tailStart_le (d : Dialect) (masked : Text) : tailStart d masked ≤ masked.length := by
  rcases tailStart_cases d masked with hzero | ⟨i, hi, hsucc⟩
  · omega
  · have := (List.getElem?_eq_some_iff.mp (mem_outerOffsets_iff.mp hi).1).1
    omega

/-- The parts that are read from masks lie in the body. -/
theorem liesIn_of_ofMasks {masked visible : Text} (hmasked : masked.length = visible.length)
    (h : ofMasks d base t masked visible = .ok b) : LiesIn base t visible b := by
  unfold ofMasks at h
  have hstart : tailStart d masked ≤ visible.length := hmasked ▸ tailStart_le d masked
  generalize tailStart d masked = start at h hstart
  have hbegins : t.take start <+: t := List.take_prefix start t
  have hexpr {stop : Nat} (hne : ¬ (visible.slice start stop).all isBlank = true) :
      ∃ i : Nat, base + start + (visible.slice start stop).indent = base + i ∧
        (t.take start).length ≤ i ∧ (visible.slice start stop).trim ≠ [] ∧
        ShownAt visible (visible.slice start stop).trim i := by
    refine ⟨start + (visible.slice start stop).indent, ?_, ?_, Text.trim_ne_nil hne,
      shownAt_trim hstart⟩
    · rw [Int.natCast_add, Int.add_assoc]
    · have := List.length_take_le start t
      omega
  dsimp only at h
  split at h
  · -- Statements alone, of which blank ones are dropped.
    obtain rfl := Except.ok.inj h
    refine ⟨?_, fun _ h => absurd h (by simp), fun _ h => absurd h (by simp)⟩
    dsimp only
    split
    · exact List.nil_prefix
    · exact hbegins
  · next hblank =>
    split at h
    · -- An expression up to the end.
      obtain rfl := Except.ok.inj h
      rw [← Text.slice_to_length] at hblank ⊢
      refine ⟨hbegins, fun tail htail => ?_, fun tail htail spec hspec => ?_⟩
      · obtain rfl := Option.some.inj htail
        exact hexpr hblank
      · obtain rfl := Option.some.inj htail
        simp at hspec
    · -- An expression up to a colon, and a specifier behind it.
      next colon hcolon =>
      have hlt : colon < visible.length := by
        rw [← hmasked]
        exact (List.getElem?_eq_some_iff.mp (colon_of_specColon hcolon).2).1
      split at h
      · simp at h
      · next hregion =>
        obtain rfl := Except.ok.inj h
        rw [← Text.slice_to_length visible (colon + 1)]
        refine ⟨hbegins, fun tail htail => ?_, fun tail htail spec hspec => ?_⟩
        · obtain rfl := Option.some.inj htail
          exact hexpr hregion
        · obtain rfl := Option.some.inj htail
          obtain rfl := Option.some.inj hspec
          refine ⟨colon + 1 + (visible.slice (colon + 1) visible.length).indent, ?_,
            shownAt_trim hlt⟩
          dsimp only
          omega

/-- The parts of a block that is read lie in its body. -/
theorem liesIn_of_read (h : read d base t = .ok b) :
    ∃ ms, marks d t = .ok ms ∧ LiesIn base t (maskWith Mark.isComment t ms) b := by
  obtain ⟨ms, hms, h⟩ := marks_of_read h
  have hlen := length_marksFrom hms
  exact ⟨ms, hms, liesIn_of_ofMasks (by rw [length_maskWith _ hlen, length_maskWith _ hlen]) h⟩

end Stencil.Block
