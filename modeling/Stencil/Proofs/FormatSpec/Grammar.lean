import Stencil.Dialect.Builtin
import Stencil.Proofs.FormatSpec.Reading
import Stencil.Routine.Rust

/-! # The grammar of format specifiers

  A format specifier is written in parts, each of which may be left out:

    [[fill] align] [sign] ["#"] ["0"] [width] ["." precision] [type]

  A text is read as a specifier just when it is written in this grammar. The readers are greedy and
  look at one or two characters only. Still they find the parts that were written, since no mark of
  one part stands anywhere behind it.

  * `SpecParts` are the parts and `SpecParts.Grammatical` the grammar;
  * `SpecParts.spelled`: the readers find the parts of a grammatical text;
  * `SpecParts.exists_of_spelled`: what they find are the parts of a grammatical text;
  * `SpecParts.text_inj`: there is one way only to take a text apart;
  * `FormatSpec.read_accepts_grammar`: so much for the built-in dialects.
-/

namespace Stencil

/-! ### The parts as they are written -/

/-- The parts of a format specifier; the digits of a number stand for themselves, and there are none
of them where there is no width. -/
structure SpecParts where
  fill : Option Char
  align : Option Alignment
  sign : Option Sign
  alternate : Bool
  padZero : Bool
  width : Text
  precision : Option Text
  type : Text
deriving DecidableEq

namespace SpecParts

def pointed (p : SpecParts) : Text := p.precision.elim [] ('.' :: ·) ++ p.type

def counted (p : SpecParts) : Text := p.width ++ p.pointed

def padded (p : SpecParts) : Text := (if p.padZero then ['0'] else []) ++ p.counted

def alternated (p : SpecParts) : Text := (if p.alternate then ['#'] else []) ++ p.padded

def signed (p : SpecParts) : Text := (p.sign.map Sign.char).toList ++ p.alternated

def text (p : SpecParts) : Text :=
  p.fill.toList ++ (p.align.map Alignment.char).toList ++ p.signed

/-- The specifier that the parts are those of. -/
def spec (p : SpecParts) : FormatSpec where
  raw := p.text
  fill := p.fill
  align := p.align
  sign := p.sign
  alternate := p.alternate
  padZero := p.padZero
  width := FormatSpec.numberOf p.width
  precision := p.precision.map decimalNotation
  typeFlag := p.type

/-- The parts are written by the grammar of a dialect. -/
structure Grammatical (d : Dialect) (p : SpecParts) : Prop where
  fillAligned : p.fill.isSome → p.align.isSome
  noBrace : ∀ c ∈ p.fill, c ≠ '\x7b' ∧ c ≠ '\x7d'
  zeroAlone : p.padZero → p.align = none
  width : IsNumeral p.width
  noZero : p.width.head? ≠ some '0'
  precision : ∀ digits ∈ p.precision, digits ≠ [] ∧ IsNumeral digits
  type : p.type ∈ d.typeFlags
  debugSign : p.sign.isSome → p.type.endsWith ['?'] → d.debugAcceptsSign

end SpecParts

/-! ### Characters of types -/

namespace Dialect

/-- The characters that stand in a specifier outside of numbers, precisions and types. -/
def specMarks : Text := "<^>+-#\x7b\x7d"

/-- No type of the dialect has a character of another part of a specifier. -/
def PlainTypes (d : Dialect) : Prop :=
  ∀ type ∈ d.typeFlags, ∀ c ∈ type, c ∉ specMarks ∧ c ≠ '.' ∧ isDigit c = false

theorem plainTypes_of_builtin {d : Dialect} (hd : d = rust ∨ d = python) : d.PlainTypes := by
  have hall : d.typeFlags.flatten.all
      (fun c => c ∉ specMarks && c ≠ '.' && !isDigit c) = true := by
    rcases hd with rfl | rfl <;> decide +kernel
  intro type htype c hc
  have hplain := List.all_eq_true.mp hall c (List.mem_flatten.mpr ⟨type, htype, hc⟩)
  simpa [and_assoc] using hplain

/-- None of the marks is a decimal digit. -/
theorem isDecimal_of_mem_specMarks {x : Char} (hx : x ∈ specMarks) : isDecimal x = false := by
  have hall : specMarks.all (fun x => !isDecimal x) = true := by decide +kernel
  simpa using List.all_eq_true.mp hall x hx

end Dialect

namespace SpecParts

open FormatSpec (Spelled Pointed numberOf readAlignment_eq_iff readSign_eq_iff
  readSign_fst_eq_none_iff readFlag_eq_iff readFlag_fst_eq_false_iff readCount_ok_iff)

variable {d : Dialect} {p q : SpecParts}

/-! ### From the grammar to the readings -/

section spelled
variable (hd : d.PlainTypes) (hp : p.Grammatical d)
include hd hp

theorem head_type {c : Char} (hc : c ∈ p.type.head?) : c ≠ '.' ∧ isDigit c = false :=
  (hd p.type hp.type c (List.mem_of_mem_head? hc)).2

theorem head_pointed : ∀ c ∈ p.pointed.head?, isDigit c = false := by
  intro c hc
  unfold pointed at hc
  cases hprecision : p.precision with
  | none =>
    rw [hprecision] at hc
    exact (head_type hd hp hc).2
  | some digits =>
    rw [hprecision] at hc
    obtain rfl := Option.some.inj hc
    decide

/-- No mark stands behind the flag of the alternate form: a number has digits only, and a type has
no marks. -/
theorem not_mem_padded {x : Char} (hx : x ∈ Dialect.specMarks) : x ∉ p.padded := by
  -- A mark is no digit.
  have hdecimal := Dialect.isDecimal_of_mem_specMarks hx
  have hdigits {digits : Text} (hnumeral : IsNumeral digits) : x ∉ digits := by
    intro hmem
    rw [hnumeral.decimal x hmem] at hdecimal
    cases hdecimal
  have hpoint : x ≠ '.' := by
    rintro rfl
    exact absurd hx (by decide)
  have hzero : x ≠ '0' := by
    rintro rfl
    exact absurd hx (by decide)
  have hpointed : x ∉ p.pointed := by
    intro hmem
    unfold pointed at hmem
    rcases List.mem_append.mp hmem with hmem | hmem
    · cases hprecision : p.precision with
      | none =>
        rw [hprecision] at hmem
        exact absurd hmem List.not_mem_nil
      | some digits =>
        rw [hprecision] at hmem
        rcases List.mem_cons.mp hmem with rfl | hmem
        · exact hpoint rfl
        · exact hdigits (hp.precision digits hprecision).2 hmem
    · exact (hd p.type hp.type x hmem).1 hx
  unfold padded counted
  split <;> simp [hzero, hdigits hp.width, hpointed]

theorem sign_not_mem_alternated (s : Sign) : s.char ∉ p.alternated := by
  have hmarks : s.char ∈ Dialect.specMarks ∧ s.char ≠ '#' := by cases s <;> decide
  unfold alternated
  split <;> simp [hmarks.2, not_mem_padded hd hp hmarks.1]

theorem not_mem_signed {x : Char} (hx : x ∈ Dialect.specMarks) (hsign : ∀ s : Sign, x ≠ s.char)
    (halternate : x ≠ '#') : x ∉ p.signed := by
  unfold signed alternated
  cases p.sign <;> split <;> simp [hsign, halternate, not_mem_padded hd hp hx]

theorem align_not_mem_signed (a : Alignment) : a.char ∉ p.signed :=
  not_mem_signed hd hp (by cases a <;> decide) (by cases a <;> rintro ⟨⟩ <;> decide)
    (by cases a <;> decide)

/-- A width does not begin with a zero, and nor does what comes behind it. -/
theorem head_counted : p.counted.head? ≠ some '0' := by
  unfold counted
  cases hwidth : p.width with
  | nil =>
    intro h
    exact absurd (head_pointed hd hp '0' h) (by decide +kernel)
  | cons c digits =>
    have hzero := hp.noZero
    rwa [hwidth] at hzero

/-- The readers find the parts, each where it was written. -/
theorem spelled :
    Spelled d p.text p.spec p.signed p.alternated p.padded p.counted p.pointed where
  raw := rfl
  alignment := by
    refine readAlignment_eq_iff.mpr ⟨rfl, hp.fillAligned, fun _ a h => ?_, fun _ a h => ?_⟩
    · exact align_not_mem_signed hd hp a (List.mem_of_mem_head? h)
    · exact align_not_mem_signed hd hp a (List.mem_of_mem_drop (List.mem_of_mem_head? h))
  noBrace := hp.noBrace
  sign := readSign_eq_iff.mpr ⟨rfl, fun _ s h =>
    sign_not_mem_alternated hd hp s (List.mem_of_mem_head? h)⟩
  oneSign _ := readSign_fst_eq_none_iff.mpr fun s h =>
    sign_not_mem_alternated hd hp s (List.mem_of_mem_head? h)
  alternate := readFlag_eq_iff.mpr ⟨rfl, fun _ h =>
    not_mem_padded hd hp (by decide) (List.mem_of_mem_head? h)⟩
  oneAlternate _ := readFlag_fst_eq_false_iff.mpr fun h =>
    not_mem_padded hd hp (by decide) (List.mem_of_mem_head? h)
  padZero := readFlag_eq_iff.mpr ⟨rfl, fun _ => head_counted hd hp⟩
  oneZero _ := readFlag_fst_eq_false_iff.mpr (head_counted hd hp)
  zeroAlone := hp.zeroAlone
  width := readCount_ok_iff.mpr ⟨p.width, rfl, hp.width, head_pointed hd hp, rfl⟩
  precision := by
    unfold pointed spec
    cases hprecision : p.precision with
    | none => exact .none fun h => (head_type hd hp h).1 rfl
    | some digits =>
      have hdigits := hp.precision digits hprecision
      exact .some (readCount_ok_iff.mpr ⟨digits, rfl, hdigits.2,
        fun _ h => (head_type hd hp h).2, if_neg hdigits.1⟩)
  type := hp.type
  debugSign := hp.debugSign

end spelled

/-! ### From the readings to the grammar -/

/-- The precision as it is written. -/
theorem exists_precision {t rest : Text} {n : Option Nat} (h : Pointed t n rest) :
    ∃ precision : Option Text, t = precision.elim [] ('.' :: ·) ++ rest ∧
      (∀ digits ∈ precision, digits ≠ [] ∧ IsNumeral digits) ∧
      precision.map decimalNotation = n := by
  cases h with
  | none h => exact ⟨none, rfl, nofun, rfl⟩
  | some h =>
    obtain ⟨digits, rfl, hnumeral, _, hn⟩ := readCount_ok_iff.mp h
    have hne : digits ≠ [] := by
      rintro rfl
      cases hn
    refine ⟨some digits, rfl, ?_, ?_⟩
    · rintro _ ⟨⟩
      exact ⟨hne, hnumeral⟩
    · rw [numberOf, if_neg hne] at hn
      exact hn

/-- What the readers find are the parts of a grammatical text. -/
theorem exists_of_spelled {t signed alternated padded counted pointed : Text} {s : FormatSpec}
    (h : Spelled d t s signed alternated padded counted pointed) :
    ∃ p : SpecParts, p.Grammatical d ∧ p.text = t ∧ p.spec = s := by
  obtain ⟨htext, hfill, _, _⟩ := readAlignment_eq_iff.mp h.alignment
  obtain ⟨hsigned, _⟩ := readSign_eq_iff.mp h.sign
  obtain ⟨halternated, _⟩ := readFlag_eq_iff.mp h.alternate
  obtain ⟨hpadded, hzero⟩ := readFlag_eq_iff.mp h.padZero
  obtain ⟨width, hcounted, hwidth, _, hn⟩ := readCount_ok_iff.mp h.width
  obtain ⟨precision, hpointed, hprecision, hdigits⟩ := exists_precision h.precision
  -- A zero is either refused as the second one, or it has been read as the flag.
  have hnoZero : counted.head? ≠ some '0' := by
    cases hpad : s.padZero with
    | true => exact readFlag_fst_eq_false_iff.mp (h.oneZero hpad)
    | false => exact hzero hpad
  let p : SpecParts :=
    ⟨s.fill, s.align, s.sign, s.alternate, s.padZero, width, precision, s.typeFlag⟩
  have htext : p.text = t := by
    rw [htext, hsigned, halternated, hpadded, hcounted, hpointed]
    rfl
  refine ⟨p, ?_, htext, ?_⟩
  · exact {
      fillAligned := hfill, noBrace := h.noBrace, zeroAlone := h.zeroAlone, width := hwidth,
      noZero := by
        intro hwidth
        rw [hcounted] at hnoZero
        apply hnoZero
        rw [List.head?_append, hwidth]
        rfl
      precision := hprecision, type := h.type, debugSign := h.debugSign }
  · unfold spec
    rw [htext, ← h.raw, hn, hdigits]

/-! ### The parts of a text -/

section unique
variable (hd : d.PlainTypes) (hp : p.Grammatical d) (hq : q.Grammatical d)
include hd hp hq

theorem pointed_inj (h : p.pointed = q.pointed) : p.precision = q.precision ∧ p.type = q.type := by
  -- Only a precision begins with a point.
  have hpoint {r : SpecParts} (hr : r.Grammatical d) {t : Text} : '.' :: t ≠ r.type := by
    intro h
    exact (head_type hd hr (Option.mem_def.mpr (h ▸ rfl))).1 rfl
  unfold pointed at h
  cases hpre : p.precision with
  | none =>
    cases hpre' : q.precision with
    | none =>
      rw [hpre, hpre'] at h
      exact ⟨rfl, h⟩
    | some digits =>
      rw [hpre, hpre'] at h
      exact absurd h.symm (hpoint hp)
  | some digits =>
    cases hpre' : q.precision with
    | none =>
      rw [hpre, hpre'] at h
      exact absurd h (hpoint hq)
    | some digits' =>
      rw [hpre, hpre'] at h
      obtain ⟨rfl, htype⟩ := Text.run_append_inj
        (hp.precision digits hpre).2.digits (fun _ h => (head_type hd hp h).2)
        (hq.precision digits' hpre').2.digits (fun _ h => (head_type hd hq h).2)
        (List.cons.inj h).2
      exact ⟨rfl, htype⟩

/-- A text has its parts in one way only: each reader finds the part that was written, and leaves
what was written behind it. -/
theorem text_inj (h : p.text = q.text) : p = q := by
  have hleft := spelled hd hp
  have hright := spelled hd hq
  rw [← h] at hright
  -- Two readings of one text: part and rest agree at each reader, and so the next one reads alike.
  obtain ⟨hfill, hrest⟩ := Prod.mk.inj (hleft.alignment.symm.trans hright.alignment)
  obtain ⟨halign, hsigned⟩ := Prod.mk.inj hrest
  obtain ⟨hsign, halternated⟩ := Prod.mk.inj (hleft.sign.symm.trans (hsigned ▸ hright.sign))
  obtain ⟨halternate, hpadded⟩ :=
    Prod.mk.inj (hleft.alternate.symm.trans (halternated ▸ hright.alternate))
  obtain ⟨hzero, hcounted⟩ := Prod.mk.inj (hleft.padZero.symm.trans (hpadded ▸ hright.padZero))
  obtain ⟨hwidth, hpointed⟩ := Text.run_append_inj hp.width.digits (head_pointed hd hp)
    hq.width.digits (head_pointed hd hq) hcounted
  obtain ⟨hprecision, htype⟩ := pointed_inj hd hp hq hpointed
  cases p
  cases q
  rw [SpecParts.mk.injEq]
  exact ⟨hfill, halign, hsign, halternate, hzero, hwidth, hprecision, htype⟩

end unique

theorem brace_not_mem_text (hd : d.PlainTypes) (hp : p.Grammatical d) {x : Char}
    (hx : x = '\x7b' ∨ x = '\x7d') : x ∉ p.text := by
  have hsigned : x ∉ p.signed := by
    apply not_mem_signed hd hp
    · rcases hx with rfl | rfl <;> decide
    · rcases hx with rfl | rfl <;> rintro ⟨⟩ <;> decide
    · rcases hx with rfl | rfl <;> decide
  have hfill : x ∉ p.fill.toList := by
    intro hmem
    have hno := hp.noBrace x (Option.mem_toList.mp hmem)
    exact hx.elim hno.1 hno.2
  have halign : x ∉ (p.align.map Alignment.char).toList := by
    rcases hx with rfl | rfl <;> rcases p.align with _ | _ | _ | _ <;> decide
  unfold text
  rw [List.mem_append, List.mem_append]
  exact fun h => h.elim (fun h => h.elim hfill halign) hsigned

end SpecParts

namespace FormatSpec

/-- A text is read as a specifier just when it is written in the grammar of the dialect. -/
theorem read_ok_iff_grammatical {d : Dialect} (hd : d.PlainTypes) {offset : Int} {t : Text}
    {s : FormatSpec} :
    read d offset t = .ok s ↔ ∃ p : SpecParts, p.Grammatical d ∧ p.text = t ∧ p.spec = s := by
  rw [read_ok_iff]
  constructor
  · rintro ⟨_, _, _, _, _, h⟩
    exact SpecParts.exists_of_spelled h
  · rintro ⟨p, hp, rfl, rfl⟩
    exact ⟨_, _, _, _, _, SpecParts.spelled hd hp⟩

/-- The format string for a specifier without braces is one placeholder. -/
theorem count_formatString {s : FormatSpec}
    (hopen : '\x7b' ∉ s.raw) (hclose : '\x7d' ∉ s.raw) :
    (Routine.Rust.formatString (some s)).count '\x7b' = 1 ∧
      (Routine.Rust.formatString (some s)).count '\x7d' = 1 := by
  have hopened := List.count_eq_zero.mpr hopen
  have hclosed := List.count_eq_zero.mpr hclose
  constructor <;> simp [Routine.Rust.formatString, hopened, hclosed]

/-- The built-in dialects accept the texts of the grammar and no others, and a text that they accept
has its parts in one way only; it holds no brace. A text that is refused for its form is refused at
a place in it. -/
theorem read_accepts_grammar {d : Dialect} (hd : d = .rust ∨ d = .python) (offset : Int)
    (t : Text) :
    (∀ s, read d offset t = .ok s ↔
      ∃ p : SpecParts, p.Grammatical d ∧ p.text = t ∧ p.spec = s) ∧
    (∀ p q : SpecParts, p.Grammatical d → q.Grammatical d → p.text = t → q.text = t → p = q) ∧
    (∀ s, read d offset t = .ok s →
      s.raw = t ∧ '\x7b' ∉ s.raw ∧ '\x7d' ∉ s.raw ∧
        (Routine.Rust.formatString (some s)).count '\x7b' = 1 ∧
        (Routine.Rust.formatString (some s)).count '\x7d' = 1) ∧
    (∀ f, read d offset t = .error (.template f) →
      (∃ fault, f.fault = .spec fault) ∧ offset ≤ f.offset ∧ f.offset ≤ offset + t.length) := by
  have hplain := Dialect.plainTypes_of_builtin hd
  refine ⟨fun s => read_ok_iff_grammatical hplain, ?_, ?_, ?_⟩
  · intro p q hp hq hpt hqt
    exact SpecParts.text_inj hplain hp hq (hpt.trans hqt.symm)
  · intro s hs
    obtain ⟨p, hp, rfl, rfl⟩ := (read_ok_iff_grammatical hplain).mp hs
    have hopen := SpecParts.brace_not_mem_text hplain hp (.inl rfl)
    have hclose := SpecParts.brace_not_mem_text hplain hp (.inr rfl)
    exact ⟨rfl, hopen, hclose, count_formatString hopen hclose⟩
  · intro f hf
    have hplace := read_inSpec d offset t _ hf
    rcases f with ⟨fault, o⟩
    cases fault with
    | spec fault => exact ⟨⟨fault, rfl⟩, hplace⟩
    | _ => exact hplace.elim

theorem read_accepts_grammar_arabic :
    read .rust 7 "*^+#\u0663.2x?" = .ok {
      raw := "*^+#\u0663.2x?", fill := some '*', align := some .center, sign := some .plus
      alternate := true, padZero := false, width := some 3, precision := some 2
      typeFlag := "x?" } := by
  refine ((read_accepts_grammar (.inl rfl) 7 _).1 _).mpr
    ⟨⟨some '*', some .center, some .plus, true, false, "\u0663", some "2", "x?"⟩, ?_, rfl, rfl⟩
  exact {
    fillAligned := fun _ => rfl
    noBrace := by
      rintro _ ⟨⟩
      decide
    zeroAlone := nofun
    width := ⟨List.all_eq_true.mp (by decide), by decide⟩
    noZero := by decide
    precision := by
      rintro _ ⟨⟩
      exact ⟨by decide, List.all_eq_true.mp (by decide), by decide⟩
    type := by decide
    debugSign := fun _ _ => rfl }

end FormatSpec
end Stencil
