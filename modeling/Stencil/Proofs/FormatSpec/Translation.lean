import Stencil.Proofs.FormatSpec.Grammar

/-! # Format specifiers written for Python

  A format specifier is written again for Python: a debug mode spells the value itself, so that the
  sign, the alternate form and the type are left out; the other parts are kept, and the numbers are
  written anew. The text is grammatical, so that its parts do not run into one another, and it is
  read as the parts that it was written from.

  A width is written as it was read, if its digits are those from `0` to `9`: it has no leading zero
  then. A width of another script may be zero, and a zero in front of nothing is a flag.

  * `SpecParts.grammatical_written`: the parts that are written are grammatical;
  * `FormatSpec.read_toPython`: they are read back, in the mode for display.
-/

namespace Stencil

/-! ### Modes -/

namespace FormatSpec

variable {s : FormatSpec}

theorem mode_eq_display_iff : s.mode = .display ↔ s.typeFlag.endsWith ['?'] = false := by
  unfold mode isDebug
  cases s.typeFlag.endsWith ['?'] <;> cases s.alternate <;> decide

theorem mode_eq_pretty_iff :
    s.mode = .pretty ↔ s.typeFlag.endsWith ['?'] = true ∧ s.alternate = true := by
  unfold mode isDebug
  cases s.typeFlag.endsWith ['?'] <;> cases s.alternate <;> decide

/-- The layout of the text that a debug mode spells. -/
def layout (s : FormatSpec) : FormatSpec :=
  { s with sign := none, alternate := false, typeFlag := [] }

theorem mode_layout (s : FormatSpec) : s.layout.mode = .display := mode_eq_display_iff.mpr rfl

/-- Nothing that is written in a debug mode depends on what is left out. -/
theorem toPython_layout (h : s.mode ≠ .display) : s.layout.toPython = s.toPython := by
  unfold toPython
  rw [mode_layout, show s.layout.padZero = s.padZero from rfl]
  simp [h, layout]

/-- The format specifier that is written for Python. -/
def translated (s : FormatSpec) : FormatSpec :=
  { (if s.mode = .display then s else s.layout) with raw := s.toPython }

theorem mode_translated (s : FormatSpec) : s.translated.mode = .display := by
  show (if s.mode = .display then s else s.layout).mode = .display
  split
  · next h => exact h
  · exact mode_layout s

theorem toPython_translated (s : FormatSpec) : s.translated.toPython = s.toPython := by
  show (if s.mode = .display then s else s.layout).toPython = s.toPython
  split
  · rfl
  · next h => exact toPython_layout h

end FormatSpec

/-! ### The parts that are written -/

namespace SpecParts

open FormatSpec (numberOf)

/-- The parts of the text that is written for Python. -/
def written (s : FormatSpec) : SpecParts where
  fill := s.fill
  align := s.align
  sign := if s.mode = .display then s.sign else none
  alternate := s.mode = .display && s.alternate
  padZero := s.padZero
  width := s.width.elim [] Text.ofNat
  precision := s.precision.map Text.ofNat
  type := if s.mode = .display then s.typeFlag else []

theorem text_written {s : FormatSpec} (hfill : s.fill.isSome → s.align.isSome) :
    (written s).text = s.toPython := by
  have halign : s.fill.toList ++ (s.align.map Alignment.char).toList
      = s.align.elim [] fun a => s.fill.toList ++ [a.char] := by
    cases halign : s.align with
    | some a => rfl
    | none =>
      cases hf : s.fill with
      | none => rfl
      | some c =>
        rw [hf, halign] at hfill
        exact absurd (hfill rfl) Bool.false_ne_true
  unfold FormatSpec.toPython text signed alternated padded counted pointed written
  dsimp only
  rw [halign]
  cases s.sign <;> cases s.precision <;> by_cases h : s.mode = .display <;> simp [h]

theorem numberOf_written (n : Option Nat) : numberOf (n.elim [] Text.ofNat) = n := by
  cases n with
  | none => rfl
  | some n => exact (if_neg Nat.toDigits_ne_nil).trans (congrArg some (decimalNotation_ofNat n))

theorem spec_written {s : FormatSpec} (hfill : s.fill.isSome → s.align.isSome) :
    (written s).spec = s.translated := by
  have hprecision : (s.precision.map Text.ofNat).map decimalNotation = s.precision := by
    rw [Option.map_map, show decimalNotation ∘ Text.ofNat = id from funext decimalNotation_ofNat,
      Option.map_id_fun, id]
  unfold spec FormatSpec.translated
  rw [text_written hfill]
  unfold written
  dsimp only
  rw [numberOf_written, hprecision]
  split
  · next h => simp [h]
  · next h => simp [h, FormatSpec.layout]

section grammatical
variable {p : SpecParts} (hp : p.Grammatical .python)
  (hascii : ∀ c ∈ p.width, isAsciiDigit c = true)
include hp hascii

theorem width_written : (written p.spec).width = p.width := by
  show (numberOf p.width).elim [] Text.ofNat = p.width
  unfold numberOf
  split
  · next h => exact h.symm
  · next h => exact ofNat_decimalNotation hascii h hp.noZero

/-- What is left out is never needed by what is kept. -/
theorem grammatical_written : (written p.spec).Grammatical .python where
  fillAligned := hp.fillAligned
  noBrace := hp.noBrace
  zeroAlone := hp.zeroAlone
  width := by
    rw [width_written hp hascii]
    exact hp.width
  noZero := by
    rw [width_written hp hascii]
    exact hp.noZero
  precision := by
    intro digits hdigits
    obtain ⟨n, hn, rfl⟩ := Option.map_eq_some_iff.mp hdigits
    obtain ⟨source, hsource, rfl⟩ := Option.map_eq_some_iff.mp hn
    obtain ⟨hne, hnumeral⟩ := hp.precision source hsource
    exact ⟨Nat.toDigits_ne_nil, hnumeral.ofNat hne⟩
  type := by
    show (if p.spec.mode = .display then p.type else []) ∈ Dialect.python.typeFlags
    split
    · exact hp.type
    · decide
  debugSign := by
    -- A sign is written for display only, and then the type does not end with the debug mark.
    intro hsign hdebug
    by_cases h : p.spec.mode = .display
    · have hplain := FormatSpec.mode_eq_display_iff.mp h
      rw [show (written p.spec).type = p.spec.typeFlag from if_pos h, hplain] at hdebug
      cases hdebug
    · rw [show (written p.spec).sign = none from if_neg h] at hsign
      cases hsign

end grammatical

end SpecParts

namespace FormatSpec

/-- The text that is written for Python is read wherever it stands, and keeps the meaning: for
display it is the specifier itself, and in a debug mode it is the layout of a text. It is written
again as the same text. -/
theorem read_toPython {offset : Int} {t : Text} {s : FormatSpec} {p : SpecParts}
    (h : read .python offset t = .ok s) (hp : p.Grammatical .python) (ht : p.text = t)
    (hascii : ∀ c ∈ p.width, isAsciiDigit c = true) :
    ∃ r, (∀ o, read .python o s.toPython = .ok r) ∧
      (s.mode = .display → r = { s with raw := s.toPython }) ∧
      (s.mode ≠ .display →
        r = { s with raw := s.toPython, sign := none, alternate := false, typeFlag := [] }) ∧
      (s.mode = .display ↔ s.typeFlag.endsWith ['?'] = false) ∧
      (s.mode = .pretty ↔ s.typeFlag.endsWith ['?'] = true ∧ s.alternate = true) ∧
      r.toPython = s.toPython ∧ r.mode = .display := by
  have hplain := Dialect.plainTypes_of_builtin (d := .python) (.inr rfl)
  -- There is one way only to take the text apart, so that what was read are the parts given.
  obtain rfl : p.spec = s := by
    obtain ⟨q, hq, hqt, rfl⟩ := (read_ok_iff_grammatical hplain).mp h
    rw [SpecParts.text_inj hplain hp hq (ht.trans hqt.symm)]
  have hread (o : Int) : read .python o p.spec.toPython = .ok p.spec.translated :=
    (read_ok_iff_grammatical hplain).mpr
      ⟨.written p.spec, SpecParts.grammatical_written hp hascii,
        SpecParts.text_written hp.fillAligned, SpecParts.spec_written hp.fillAligned⟩
  refine ⟨p.spec.translated, hread, ?_, ?_, mode_eq_display_iff, mode_eq_pretty_iff,
    toPython_translated _, mode_translated _⟩
  · intro h
    rw [translated, if_pos h]
  · intro h
    rw [translated, if_neg h, layout]

theorem read_toPython_pretty :
    read .python 7 "*^#12.03?" = .ok {
      raw := "*^#12.03?", fill := some '*', align := some .center, sign := none, alternate := true
      padZero := false, width := some 12, precision := some 3, typeFlag := "?" } ∧
    read .python 0 "*^12.3" = .ok {
      raw := "*^12.3", fill := some '*', align := some .center, sign := none, alternate := false
      padZero := false, width := some 12, precision := some 3, typeFlag := [] } := by
  -- The parts as they are written, with a zero in front of the precision.
  let p : SpecParts := ⟨some '*', some .center, none, true, false, "12", some "03", "?"⟩
  have hp : p.Grammatical .python := {
    fillAligned := fun _ => rfl
    noBrace := by
      rintro _ ⟨⟩
      decide
    zeroAlone := nofun
    width := ⟨List.all_eq_true.mp (by decide), by decide⟩
    noZero := by decide
    precision := by
      rintro _ ⟨⟩
      exact ⟨by decide, List.all_eq_true.mp (by decide), by decide⟩
    type := by decide
    debugSign := nofun }
  have hread : read .python 7 "*^#12.03?" = .ok p.spec :=
    (read_ok_iff_grammatical (Dialect.plainTypes_of_builtin (.inr rfl))).mpr ⟨p, hp, rfl, rfl⟩
  have hwritten : p.spec.toPython = ("*^12.3" : String).toList := by decide +kernel
  have hcounts : p.spec.width = some 12 ∧ p.spec.precision = some 3 := by decide +kernel
  obtain ⟨r, hr, _, hlayout, _⟩ :=
    read_toPython hread hp rfl (List.all_eq_true.mp (by decide))
  have hr := hr 0
  rw [hlayout (by decide), hwritten, hcounts.1, hcounts.2] at hr
  exact ⟨hread, hr⟩

end FormatSpec
end Stencil
