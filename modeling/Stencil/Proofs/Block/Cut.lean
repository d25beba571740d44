import Stencil.Proofs.Block.Colon
import Stencil.Proofs.Block.Read

/-! # How a code block is cut

  The body of a block is cut behind its last terminator at depth zero (`TailBegins`). What comes
  before the cut is the statements. What comes behind it, without comments, is blank, or it is an
  expression between blanks, or an expression and a format specifier with the last colon that
  introduces one between them (`Tail.Cut`). So nothing of a body is lost but blanks, comments and
  that colon, and the offsets of the parts are exact (`read_cuts`).
-/

namespace Stencil

variable {d : Dialect} {base : Int} {t masked visible : Text} {start : Nat}

/-! ### The cut -/

/-- The tail of a body begins at `start`: at the start of the body, or behind a terminator at depth
zero, and no such terminator comes later. -/
structure TailBegins (d : Dialect) (masked : Text) (start : Nat) : Prop where
  cut : start = 0 ∨ ∃ i, start = i + 1 ∧ OuterAt masked d.terminator i
  last : ∀ i, OuterAt masked d.terminator i → i < start

theorem Block.tailBegins_tailStart (d : Dialect) (masked : Text) :
    TailBegins d masked (Block.tailStart d masked) := by
  have hincreasing : (Block.terminators d masked).Pairwise (· < ·) := pairwise_outerFrom
  unfold Block.tailStart
  cases hlast : (Block.terminators d masked).getLast? with
  | none =>
    refine ⟨.inl rfl, fun i hi => ?_⟩
    have hmem := mem_outerOffsets_iff.mpr hi
    rw [show outerOffsets (· = d.terminator) masked = [] from List.getLast?_eq_none_iff.mp hlast]
      at hmem
    exact absurd hmem List.not_mem_nil
  | some last =>
    obtain ⟨hmem, hle⟩ := (getLast?_eq_some_iff_of_increasing hincreasing).mp hlast
    exact ⟨.inr ⟨last, rfl, mem_outerOffsets_iff.mp hmem⟩, fun i hi =>
      Nat.lt_succ_of_le (hle i (mem_outerOffsets_iff.mpr hi))⟩

/-- The parts of a tail, which is what `visible` shows from `start` on. Without a colon the tail is
an expression between blanks; with colons it is cut at the last of them. -/
inductive Tail.Cut (d : Dialect) (base : Int) (masked visible : Text) (start : Nat) : Tail → Prop
  where
  | bare {b expr w : Text} (hcolon : ∀ i, ¬ Block.SpecColon d masked start i)
      (hshown : visible.drop start = b ++ expr ++ w)
      (hb : b.all isBlank = true) (hw : w.all isBlank = true)
      (htrimmed : expr.Trimmed) (hne : expr ≠ []) :
      Cut d base masked visible start ⟨expr, none, base + (start + b.length : Nat), 0⟩
  | specified {colon : Nat} {b expr w b' spec w' : Text}
      (hcolon : Block.LastColon d masked start colon)
      (hshown : visible.drop start = (b ++ expr ++ w) ++ ':' :: (b' ++ spec ++ w'))
      (hat : colon = start + (b ++ expr ++ w).length)
      (hb : b.all isBlank = true) (hw : w.all isBlank = true)
      (hb' : b'.all isBlank = true) (hw' : w'.all isBlank = true)
      (htrimmed : expr.Trimmed) (hne : expr ≠ []) (hspec : spec.Trimmed) :
      Cut d base masked visible start
        ⟨expr, some spec, base + (start + b.length : Nat),
          base + (colon + 1 + b'.length : Nat)⟩

namespace Block

/-! ### Reading from masks -/

section masks
variable (hcolons : ∀ i : Nat, masked[i]? = some ':' → visible[i]? = some ':')
include hcolons

/-- Where there is a colon, the text from `start` on is split at it. -/
theorem drop_of_lastColon {colon : Nat} (h : LastColon d masked start colon) :
    visible.drop start = visible.slice start colon ++ ':' :: visible.drop (colon + 1) ∧
      (visible.slice start colon).length = colon - start := by
  have hcolon : masked[colon]? = some ':' := by
    have houter := h.outer.1
    rwa [List.getElem?_drop, Nat.add_sub_cancel' h.behind] at houter
  exact Text.drop_eq_slice_append h.behind (hcolons colon hcolon)

/-- A tail with a colon is not blank. -/
theorem not_blank_of_lastColon {colon : Nat} (h : LastColon d masked start colon) :
    ¬ (visible.drop start).all isBlank = true := by
  rw [(drop_of_lastColon hcolons h).1, List.all_append, List.all_cons]
  intro hblank
  simp only [Bool.and_eq_true] at hblank
  exact absurd hblank.2.1 (by decide)

/-- The only fault is a last colon with nothing but blanks between the cut and it. -/
theorem ofMasks_error_iff {f : Failure} (hstart : start = tailStart d masked) :
    ofMasks d base t masked visible = .error f ↔
      ∃ colon : Nat, LastColon d masked start colon ∧
        (visible.slice start colon).all isBlank = true ∧
        f = .template ⟨.missingExpression, base + colon⟩ := by
  unfold ofMasks
  rw [← hstart]
  dsimp only
  constructor
  · intro h
    split at h
    · cases h
    · split at h
      · cases h
      · next colon hcolon =>
        split at h
        · next hblank =>
          exact ⟨colon, specColon?_eq_some_iff.mp hcolon, hblank, (Except.error.inj h).symm⟩
        · cases h
  · rintro ⟨colon, hcolon, hblank, rfl⟩
    rw [if_neg (not_blank_of_lastColon hcolons hcolon), specColon?_eq_some_iff.mpr hcolon]
    exact if_pos hblank

/-- A block that is read has no tail if what is shown behind the cut is blank, and else the tail is
cut into its parts. -/
theorem ofMasks_ok {b : Block} (hstart : start = tailStart d masked)
    (h : ofMasks d base t masked visible = .ok b) :
    ((visible.drop start).all isBlank = true ∧
        b = ⟨if (t.take start).all isBlank then [] else t.take start, none⟩) ∨
      (¬ (visible.drop start).all isBlank = true ∧
        ∃ tail, b = ⟨t.take start, some tail⟩ ∧ tail.Cut d base masked visible start) := by
  unfold ofMasks at h
  rw [← hstart] at h
  dsimp only at h
  split at h
  · next hblank => exact .inl ⟨hblank, (Except.ok.inj h).symm⟩
  · next hblank =>
    refine .inr ⟨hblank, ?_⟩
    split at h
    · -- Without a colon the expression goes on to the end.
      next hcolon =>
      obtain ⟨b, w, hsplit, hb, hw, htrimmed, hindent⟩ := Text.trim_spec (visible.drop start)
      refine ⟨_, (Except.ok.inj h).symm, ?_⟩
      rw [← List.append_assoc] at hsplit
      rw [← hindent, Int.add_assoc, ← Int.natCast_add]
      exact .bare (specColon?_eq_none_iff.mp hcolon) hsplit hb hw htrimmed (Text.trim_ne_nil hblank)
    · next colon hcolon =>
      split at h
      · cases h
      · -- With one, what stands on either side of it is trimmed by itself.
        next hregion =>
        have hcolon := specColon?_eq_some_iff.mp hcolon
        obtain ⟨hdrop, hlength⟩ := drop_of_lastColon hcolons hcolon
        obtain ⟨b, w, hsplit, hb, hw, htrimmed, hindent⟩ :=
          Text.trim_spec (visible.slice start colon)
        obtain ⟨b', w', hsplit', hb', hw', hspec, hindent'⟩ :=
          Text.trim_spec (visible.drop (colon + 1))
        refine ⟨_, (Except.ok.inj h).symm, ?_⟩
        rw [← List.append_assoc] at hsplit hsplit'
        have hat : colon = start + (visible.slice start colon).length := by
          have := hcolon.behind
          omega
        have hexprOffset : base + start + (visible.slice start colon).indent
            = base + (start + b.length : Nat) := by
          rw [hindent]
          omega
        have hspecOffset : base + colon + 1 + Text.indent (visible.drop (colon + 1))
            = base + (colon + 1 + b'.length : Nat) := by
          rw [hindent']
          omega
        rw [hsplit] at hat
        rw [hsplit, hsplit'] at hdrop
        rw [hexprOffset, hspecOffset]
        exact .specified hcolon hdrop hat hb hw hb' hw' htrimmed (Text.trim_ne_nil hregion) hspec

end masks

/-- A character outside tokens is shown in the mask without comments. -/
theorem shown_of_plainAt {ms : List Mark} {x : Char} {i : Nat} (h : PlainAt t ms x i) :
    (maskWith Mark.isComment t ms)[i]? = some x := masked_of_plainAt rfl h

/-- What is read of a lexed body. The tail is cut off behind the last terminator; it is blank, or
cut into the parts that its text shows at their offsets, and a fault is a colon with nothing but
blanks between the cut and it. -/
theorem read_cuts (d : Dialect) (base : Int) {t masked : Text} (h : mask d t = .ok masked) :
    ∃ visible start, maskComments d t = .ok visible ∧ TailBegins d masked start ∧
      ((∃ b, read d base t = .ok b ∧ b.tail = none) ↔ (visible.drop start).all isBlank = true) ∧
      (∀ b, read d base t = .ok b → b.tail = none →
        b.statements = if (t.take start).all isBlank then [] else t.take start) ∧
      (∀ b tail, read d base t = .ok b → b.tail = some tail →
        b.statements = t.take start ∧ tail.Cut d base masked visible start ∧
        (∃ i : Nat, tail.exprOffset = base + i ∧ ShownAt visible tail.expr i) ∧
        ∀ spec ∈ tail.spec, ∃ i : Nat, tail.specOffset = base + i ∧ ShownAt visible spec i) ∧
      ∀ f, read d base t = .error f ↔
        ∃ colon : Nat, LastColon d masked start colon ∧
          (visible.slice start colon).all isBlank = true ∧
          f = .template ⟨.missingExpression, base + colon⟩ := by
  obtain ⟨ms, hms, rfl⟩ := Outcome.map_ok_iff.mp h
  have hvisible : maskComments d t = .ok (maskWith Mark.isComment t ms) := by
    unfold maskComments
    rw [hms]
    rfl
  -- A colon that is seen without the tokens stands outside them, and no comment hides it.
  have hcolons : ∀ i : Nat, (maskWith Mark.isOpaque t ms)[i]? = some ':' →
      (maskWith Mark.isComment t ms)[i]? = some ':' := fun i hi =>
    shown_of_plainAt (plainAt_of_masked hi (by decide))
  refine ⟨_, _, hvisible, tailBegins_tailStart d _, ?_, ?_, ?_, ?_⟩
  · rw [read_of_marks hms]
    constructor
    · rintro ⟨b, hb, htail⟩
      rcases ofMasks_ok hcolons rfl hb with ⟨hblank, _⟩ | ⟨_, tail, rfl, _⟩
      · exact hblank
      · cases htail
    · intro hblank
      exact ⟨_, if_pos hblank, rfl⟩
  · intro b hb htail
    rw [read_of_marks hms] at hb
    rcases ofMasks_ok hcolons rfl hb with ⟨_, rfl⟩ | ⟨_, tail, rfl, _⟩
    · rfl
    · cases htail
  · intro b tail hb htail
    have hlies := liesIn_of_read hb
    rw [read_of_marks hms] at hb
    rcases ofMasks_ok hcolons rfl hb with ⟨_, rfl⟩ | ⟨_, tail', rfl, hcut⟩
    · cases htail
    · obtain rfl := Option.some.inj htail
      obtain ⟨ms', hms', hlies⟩ := hlies
      obtain rfl := Except.ok.inj (hms.symm.trans hms')
      obtain ⟨i, hi, _, _, hshown⟩ := hlies.expr tail' rfl
      exact ⟨rfl, hcut, ⟨i, hi, hshown⟩, fun spec hspec => hlies.spec tail' rfl spec hspec⟩
  · intro f
    rw [read_of_marks hms]
    exact ofMasks_error_iff hcolons rfl

theorem read_cuts_label :
    mask .rust "g(); 'a: loop \x7b break f::x \x7d /* : */ : >4 " =
        .ok "g(); 'a: loop \x7b break f::x \x7d         : >4 " ∧
      ∃ visible start,
        Tail.Cut .rust 2 "g(); 'a: loop \x7b break f::x \x7d         : >4 " visible start
          ⟨"'a: loop \x7b break f::x \x7d", some ">4", 7, 41⟩ := by
  have hmask : mask .rust "g(); 'a: loop \x7b break f::x \x7d /* : */ : >4 " =
      .ok "g(); 'a: loop \x7b break f::x \x7d         : >4 " :=
    Outcome.ok_of_toOption (by decide +kernel)
  have hread : read .rust 2 "g(); 'a: loop \x7b break f::x \x7d /* : */ : >4 " =
      .ok ⟨"g();", some ⟨"'a: loop \x7b break f::x \x7d", some ">4", 7, 41⟩⟩ :=
    Outcome.ok_of_toOption (by decide +kernel)
  obtain ⟨visible, start, _, _, _, _, htail, _⟩ := read_cuts .rust 2 hmask
  exact ⟨hmask, visible, start, (htail _ _ hread rfl).2.1⟩

end Block
end Stencil
