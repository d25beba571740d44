import Stencil.Proofs.Block.Piece
import Stencil.Proofs.FreeNames.Names

/-! # Uses in a code block

  The names that a block uses are found in its pieces, and their offsets are put together from those
  of the pieces. `Use.PlacedAt` says what such an offset means in the block itself: the name stands
  there, outside tokens, and is no part of a longer word in front of it. The uses of a block are
  found in the order of its text (`Use.ofBlock_places`).
-/

namespace Stencil

variable {d : Dialect} {base : Int} {t e name : Text} {ms es : List Mark} {i o : Nat}

namespace Use

/-- A name that the text `t` uses stands at offset `i` of it. -/
structure PlacedAt (d : Dialect) (t : Text) (ms : List Mark) (name : Text) (i : Nat) : Prop where
  nameAt : NameAt t name i
  /-- No character of the name belongs to a token. -/
  outside : ∀ k c, name[k]? = some c → PlainAt t ms c (i + k)
  /-- No character of a word stands in front of the name. -/
  alone : ∀ k c, i = k + 1 → t[k]? = some c → isWordChar c = false
  own : isGiven d name = false

end Use

open Use

/-- A use that is found in a piece is placed where the piece has it: a character of a word next to
the name in the text would stand next to it in the mask of the piece. -/
theorem PieceAt.placedAt (hd : d = Dialect.rust ∨ d = Dialect.python) (hlexed : Lexed d none t ms)
    (hpiece : PieceAt d t ms o e es) (h : (name, i) ∈ usesIn d (maskWith Mark.isOpaque e es)) :
    PlacedAt d t ms name (o + i) ∧ i + name.length ≤ e.length := by
  obtain ⟨hname, hown, halone⟩ := usesIn_spec h
  have hlength := hname.length_le
  rw [length_maskWith _ hpiece.lexed.length_eq] at hlength
  have hword (k : Nat) (c : Char) (hc : name[k]? = some c) : isWordChar c = true :=
    isWordChar_of_isPlainChar (hname.plain c (List.mem_of_getElem? hc))
  have hinner (k : Nat) (c : Char) (hc : name[k]? = some c) : PlainAt e es c (i + k) :=
    plainAt_of_masked (hname.stands k c hc) (not_blank_of_word (hword k c hc))
  have houter (k : Nat) (c : Char) (hc : name[k]? = some c) : PlainAt t ms c (o + i + k) := by
    rw [Nat.add_assoc]
    exact hpiece.plainAt_of_word (hinner k c hc) (hword k c hc)
  refine ⟨⟨⟨hname.first, hname.plain, fun k c hc => (houter k c hc).1, fun c hc => ?_⟩, houter,
    fun k c hk hc => ?_, hown⟩, hlength⟩
  · -- The character behind the name.
    obtain ⟨n, hn⟩ : ∃ n, name.length = n + 1 :=
      Nat.exists_eq_succ_of_ne_zero (mt List.length_eq_zero_iff.mp hname.ne_nil)
    obtain ⟨z, hz⟩ : ∃ z, name[n]? = some z := ⟨_, List.getElem?_eq_getElem (by omega)⟩
    rw [← Bool.not_eq_true]
    intro hplain
    rw [hn, ← Nat.add_assoc, Nat.add_assoc o] at hc
    have hnext := hpiece.plainAt_succ hd hlexed (hinner n z hz) (hword n z hz) hc
      (isWordChar_of_isPlainChar hplain)
    rw [hname.ends c (by rw [hn]; exact masked_of_plainAt rfl hnext)] at hplain
    cases hplain
  · -- The character in front of it.
    obtain ⟨z, more, rfl, _⟩ := hname.first
    rw [← Bool.not_eq_true]
    intro hcword
    obtain ⟨j, rfl, hlast⟩ := hpiece.plainAt_pred hd hlexed hk hc hcword (hinner 0 z rfl)
      (hword 0 z rfl)
    rw [halone j c rfl (masked_of_plainAt rfl hlast)] at hcword
    cases hcword

theorem PieceAt.masked_eq {masked : Text} (h : PieceAt d t ms o e es)
    (hmasked : mask d e = .ok masked) : masked = maskWith Mark.isOpaque e es := by
  obtain ⟨es', hes', rfl⟩ := Outcome.map_ok_iff.mp hmasked
  rw [Except.ok.inj (hes'.symm.trans (marks_ok_iff.mpr h.lexed))]

namespace Use

variable {bound bound' : List Text} {masked : Text} {spans : List (Nat × Nat)} {uses : List Use}
  {u : Use}

/-! ### Uses in a piece -/

theorem mem_freeIn (h : u ∈ freeIn d masked base bound) :
    ∃ k : Nat, (u.name, k) ∈ usesIn d masked ∧ u.offset = base + k := by
  obtain ⟨⟨name, k⟩, hmem, rfl⟩ := List.mem_map.mp h
  exact ⟨k, (List.mem_filter.mp hmem).1, rfl⟩

theorem increasing_freeIn (d : Dialect) (masked : Text) (base : Int) (bound : List Text) :
    (freeIn d masked base bound).Pairwise fun u v => u.offset < v.offset := by
  refine List.pairwise_map.mpr (((pairwise_usesIn d masked).filter _).imp fun {a b} hab => ?_)
  dsimp only
  omega

/-! ### Uses in statements -/

/-- The uses in statements are those in the first of them and those in the rest. -/
theorem ofStatements_cons_ok {start stop : Nat}
    (h : ofStatements d t base bound ((start, stop) :: spans) = .ok (uses, bound')) :
    ∃ masked here later bound₁ bound₂, mask d (t.slice start stop) = .ok masked ∧
      (here = [] ∨ here = freeIn d masked (base + start) bound₁) ∧
      ofStatements d t base bound₂ spans = .ok (later, bound') ∧ uses = here ++ later := by
  rw [ofStatements] at h
  obtain ⟨masked, hmasked, h⟩ := Outcome.bind_ok_iff.mp h
  split at h
  · exact ⟨masked, [], uses, bound, bound, hmasked, .inl rfl, h, rfl⟩
  · obtain ⟨names, _, h⟩ := Outcome.bind_ok_iff.mp h
    obtain ⟨⟨later, bound₁⟩, hlater, h⟩ := Outcome.bind_ok_iff.mp h
    obtain ⟨rfl, rfl⟩ := Prod.mk.inj (Except.ok.inj h)
    exact ⟨masked, _, later, _, _, hmasked, .inr rfl, hlater, rfl⟩

/-- Each use in statements is one in the mask of some statement. -/
theorem mem_ofStatements (h : ofStatements d t base bound spans = .ok (uses, bound'))
    (hu : u ∈ uses) : ∃ a z masked, (a, z) ∈ spans ∧ mask d (t.slice a z) = .ok masked ∧
      ∃ k : Nat, (u.name, k) ∈ usesIn d masked ∧ u.offset = base + a + k := by
  induction spans generalizing bound uses with
  | nil =>
    obtain ⟨rfl, _⟩ := Prod.mk.inj (Except.ok.inj h)
    exact absurd hu List.not_mem_nil
  | cons span spans ih =>
    obtain ⟨start, stop⟩ := span
    obtain ⟨masked, here, later, _, _, hmasked, hhere, hlater, rfl⟩ := ofStatements_cons_ok h
    rcases List.mem_append.mp hu with hu | hu
    · rcases hhere with rfl | rfl
      · exact absurd hu List.not_mem_nil
      · exact ⟨start, stop, masked, List.mem_cons_self, hmasked, mem_freeIn hu⟩
    · obtain ⟨a, z, masked', hspan, hrest⟩ := ih hlater hu
      exact ⟨a, z, masked', List.mem_cons_of_mem _ hspan, hrest⟩

/-- The offset of a use in a statement lies in the span of that statement. -/
theorem lt_of_mem_usesIn {a z k : Nat} (hmasked : mask d (t.slice a z) = .ok masked)
    (h : (name, k) ∈ usesIn d masked) : a + k < z := by
  obtain ⟨ms, hms, rfl⟩ := Outcome.map_ok_iff.mp hmasked
  have hname := (usesIn_spec h).1
  have hlength := hname.length_le
  have hpos := List.length_pos_iff.mpr hname.ne_nil
  rw [length_maskWith _ (length_marksFrom hms)] at hlength
  have := Text.length_slice_le t a z
  omega

/-- The uses in statements that stand one behind the other are found in their order. -/
theorem increasing_ofStatements (hspans : spans.Pairwise fun p q => p.2 ≤ q.1)
    (h : ofStatements d t base bound spans = .ok (uses, bound')) :
    uses.Pairwise fun u v => u.offset < v.offset := by
  induction spans generalizing bound uses with
  | nil =>
    obtain ⟨rfl, _⟩ := Prod.mk.inj (Except.ok.inj h)
    exact .nil
  | cons span spans ih =>
    obtain ⟨start, stop⟩ := span
    obtain ⟨hbehind, hspans⟩ := List.pairwise_cons.mp hspans
    obtain ⟨masked, here, later, _, _, hmasked, hhere, hlater, rfl⟩ := ofStatements_cons_ok h
    -- Uses of one statement are in order, and those of a later one stand behind its start.
    refine List.pairwise_append.mpr ⟨?_, ih hspans hlater, fun u hu v hv => ?_⟩
    · rcases hhere with rfl | rfl
      · exact .nil
      · exact increasing_freeIn _ _ _ _
    · rcases hhere with rfl | rfl
      · exact absurd hu List.not_mem_nil
      · obtain ⟨k, hk, hu⟩ := mem_freeIn hu
        obtain ⟨a, z, _, hspan, _, l, _, hv⟩ := mem_ofStatements hlater hv
        have := lt_of_mem_usesIn hmasked hk
        have := hbehind _ hspan
        dsimp only at this
        omega

/-! ### Uses in a block -/

/-- Each span of statements begins where the one before it ends, or behind that. -/
theorem pairwise_spansFrom {start stop : Nat} {offsets : List Nat}
    (h : offsets.Pairwise (· < ·)) :
    (Block.spansFrom start stop offsets).Pairwise fun p q => p.2 ≤ q.1 := by
  induction offsets generalizing start with
  | nil => exact List.pairwise_singleton _ _
  | cons i offsets ih =>
    obtain ⟨hbehind, hoffsets⟩ := List.pairwise_cons.mp h
    refine List.pairwise_cons.mpr ⟨fun q hq => ?_, ih hoffsets⟩
    rcases (Block.mem_spansFrom (a := q.1) (b := q.2) hq).1 with hq | ⟨j, hj, hq⟩
    · exact Nat.le_of_eq hq.symm
    · have := hbehind j hj
      dsimp only
      omega

/-- The uses in a block are those in its statements and those in its expression. -/
theorem ofBlock_ok {s : Segment} {b : Block} (h : ofBlock d s b = .ok uses) :
    ∃ spans here bound later, (spans = [] ∨ Block.statementSpans d b.statements = .ok spans) ∧
      ofStatements d b.statements s.bodyStart [] spans = .ok (here, bound) ∧
      uses = here ++ later ∧ (later = [] ∨ ∃ tail ∈ b.tail, ∃ masked bound',
        mask d tail.expr = .ok masked ∧ later = freeIn d masked tail.exprOffset bound') := by
  unfold ofBlock at h
  extract_lets usesOf at h
  -- Blank statements have no spans.
  obtain ⟨spans, hspans, h⟩ : ∃ spans,
      (spans = [] ∨ Block.statementSpans d b.statements = .ok spans) ∧
        usesOf spans = .ok uses := by
    split at h
    · exact ⟨[], .inl rfl, h⟩
    · obtain ⟨spans, hspans, h⟩ := Outcome.bind_ok_iff.mp h
      exact ⟨spans, .inr hspans, h⟩
  unfold usesOf at h
  obtain ⟨⟨here, bound⟩, hhere, h⟩ := Outcome.bind_ok_iff.mp h
  refine ⟨spans, here, bound, ?_⟩
  dsimp only at h
  split at h
  · obtain rfl := Except.ok.inj h
    exact ⟨[], hspans, hhere, (List.append_nil here).symm, .inl rfl⟩
  · next tail htail =>
    obtain ⟨masked, hmasked, h⟩ := Outcome.bind_ok_iff.mp h
    obtain ⟨names, _, h⟩ := Outcome.bind_ok_iff.mp h
    obtain rfl := Except.ok.inj h
    exact ⟨_, hspans, hhere, rfl, .inr ⟨tail, htail, masked, _, hmasked, rfl⟩⟩

/-- The spans of statements stand one behind the other. -/
theorem pairwise_of_statementSpans (h : Block.statementSpans d t = .ok spans) :
    spans.Pairwise fun p q => p.2 ≤ q.1 := by
  obtain ⟨masked, _, h⟩ := Outcome.bind_ok_iff.mp h
  obtain rfl := Except.ok.inj h
  exact pairwise_spansFrom pairwise_outerFrom

/-- The uses in a block are found in the order of its text, and each stands in it where its offset
says. -/
theorem ofBlock_places (hd : d = Dialect.rust ∨ d = Dialect.python) {s : Segment} {b : Block}
    (hb : Block.read d s.bodyStart s.text = .ok b) (hms : marks d s.text = .ok ms)
    (h : ofBlock d s b = .ok uses) :
    (uses.Pairwise fun u v => u.offset < v.offset) ∧
      ∀ u ∈ uses, ∃ i : Nat, u.offset = s.bodyStart + i ∧ PlacedAt d s.text ms u.name i := by
  have hlexed := marks_ok_iff.mp hms
  obtain ⟨spans, here, bound, later, hspans, hhere, rfl, hlater⟩ := ofBlock_ok h
  -- A use in a statement stands before the end of the statements.
  have statements (u : Use) (hu : u ∈ here) : ∃ i : Nat, u.offset = s.bodyStart + i ∧
      i < b.statements.length ∧ PlacedAt d s.text ms u.name i := by
    obtain ⟨a, z, masked, hspan, hmasked, k, hk, hoffset⟩ := mem_ofStatements hhere hu
    have hspans := hspans.resolve_left (List.ne_nil_of_mem hspan)
    obtain ⟨hz, es, hpiece⟩ := Block.pieceAt_of_span hd hb hms hspans hspan
    have hlt := lt_of_mem_usesIn hmasked hk
    rw [hpiece.masked_eq hmasked] at hk
    exact ⟨a + k, by omega, by omega, (hpiece.placedAt hd hlexed hk).1⟩
  -- One in the expression stands behind it.
  have expression (u : Use) (hu : u ∈ later) : ∃ i : Nat, u.offset = s.bodyStart + i ∧
      b.statements.length ≤ i ∧ PlacedAt d s.text ms u.name i := by
    rcases hlater with rfl | ⟨tail, htail, masked, bound', hmasked, rfl⟩
    · exact absurd hu List.not_mem_nil
    · obtain ⟨k, hk, hoffset⟩ := mem_freeIn hu
      obtain ⟨o, es, ho, hle, hpiece, _⟩ := Block.pieceAt_of_expr hd hb hms htail
      rw [hpiece.masked_eq hmasked] at hk
      exact ⟨o + k, by omega, by omega, (hpiece.placedAt hd hlexed hk).1⟩
  constructor
  · refine List.pairwise_append.mpr ⟨increasing_ofStatements ?_ hhere, ?_, fun u hu v hv => ?_⟩
    · rcases hspans with rfl | hspans
      · exact .nil
      · exact pairwise_of_statementSpans hspans
    · rcases hlater with rfl | ⟨tail, _, masked, bound', _, rfl⟩
      · exact .nil
      · exact increasing_freeIn _ _ _ _
    · obtain ⟨i, hi, hlt, _⟩ := statements u hu
      obtain ⟨j, hj, hle, _⟩ := expression v hv
      omega
  · intro u hu
    rcases List.mem_append.mp hu with hu | hu
    · obtain ⟨i, hi, _, hplaced⟩ := statements u hu
      exact ⟨i, hi, hplaced⟩
    · obtain ⟨i, hi, _, hplaced⟩ := expression u hu
      exact ⟨i, hi, hplaced⟩

end Use
end Stencil
