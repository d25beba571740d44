import Stencil.Number.Digits
import Mathlib.Data.List.TakeWhile
import Mathlib.Data.Nat.Digits.Defs

/-! # Runs of decimal digits

  A run of decimal digits is read from the left, each digit added to ten times what came before. The
  number it spells is the one of its positions. A run is refused only for a character that is no
  decimal digit, or for its length.
-/

namespace Stencil

/-! ### Decimal digits -/

/-- A decimal zero is a digit, and the class of digits has no boundary before the next ten. -/
theorem digit_of_decimalZero {z : Nat} (hz : z ∈ decimalZeros) :
    Text.withinFrom false digitBoundaries z = true ∧ ∀ b ∈ digitBoundaries, b ≤ z ∨ z + 9 < b := by
  have hall : decimalZeros.all (fun z => Text.withinFrom false digitBoundaries z
      && digitBoundaries.all fun b => b ≤ z || z + 9 < b) = true := by decide +kernel
  simpa using List.all_eq_true.mp hall z hz

theorem decimalValue?_lt {c : Char} {v : Nat} (h : decimalValue? c = some v) : v < 10 := by
  obtain ⟨z, hz, rfl⟩ := Option.map_eq_some_iff.mp h
  have hrange := List.find?_some hz
  rw [Bool.and_eq_true, decide_eq_true_eq, decide_eq_true_eq] at hrange
  omega

theorem isDigit_of_isDecimal {c : Char} (h : isDecimal c = true) : isDigit c = true := by
  unfold isDecimal decimalValue? at h
  rw [Option.isSome_map, List.find?_isSome] at h
  obtain ⟨z, hz, hc⟩ := h
  rw [Bool.and_eq_true, decide_eq_true_eq, decide_eq_true_eq] at hc
  obtain ⟨hzero, hnone⟩ := digit_of_decimalZero hz
  have hsame : Text.withinFrom false digitBoundaries z
      = Text.withinFrom false digitBoundaries c.toNat := by
    apply Text.withinFrom_congr hc.1
    intro b hb
    have := hnone b hb
    omega
  exact hsame.symm.trans hzero

/-! ### The value of a run -/

/-- The number whose decimal notation has the given digits, the last one for the units. -/
def decimalNotation (digits : Text) : Nat :=
  Nat.ofDigits 10 (digits.reverse.map fun c => (decimalValue? c).getD 0)

@[simp] theorem decimalNotation_nil : decimalNotation [] = 0 := rfl

theorem decimalNotation_cons (c : Char) (digits : Text) :
    decimalNotation (c :: digits)
      = (decimalValue? c).getD 0 * 10 ^ digits.length + decimalNotation digits := by
  unfold decimalNotation
  rw [List.reverse_cons, List.map_append, Nat.ofDigits_append, List.length_map,
    List.length_reverse, List.map_singleton, Nat.ofDigits_singleton, Nat.add_comm, Nat.mul_comm]

/-- Reading goes on from the number `n` of the digits before. -/
theorem foldlM_decimal {digits : Text} (h : ∀ c ∈ digits, isDecimal c = true) (n : Nat) :
    digits.foldlM (fun n c => (decimalValue? c).map (10 * n + ·)) n
      = some (n * 10 ^ digits.length + decimalNotation digits) := by
  induction digits generalizing n with
  | nil => simp
  | cons c digits ih =>
    rw [List.forall_mem_cons] at h
    obtain ⟨v, hv⟩ := Option.isSome_iff_exists.mp h.1
    rw [List.foldlM_cons, hv, Option.map_some, Option.bind_eq_bind, Option.bind_some, ih h.2,
      decimalNotation_cons, hv, Option.getD_some, List.length_cons, Nat.pow_succ]
    congr 1
    ring

theorem decimalNumber?_of_decimal {digits : Text} (h : ∀ c ∈ digits, isDecimal c = true) :
    decimalNumber? digits = some (decimalNotation digits) := by
  unfold decimalNumber?
  rw [foldlM_decimal h, Nat.zero_mul, Nat.zero_add]

theorem isDecimal_of_decimalNumber? {digits : Text} {n : Nat} (h : decimalNumber? digits = some n) :
    ∀ c ∈ digits, isDecimal c = true := by
  unfold decimalNumber? at h
  generalize 0 = start at h
  induction digits generalizing start with
  | nil => exact fun _ hc => absurd hc List.not_mem_nil
  | cons c digits ih =>
    rw [List.foldlM_cons] at h
    obtain ⟨next, hnext, h⟩ := Option.bind_eq_some_iff.mp h
    obtain ⟨v, hv, _⟩ := Option.map_eq_some_iff.mp hnext
    rw [List.forall_mem_cons]
    exact ⟨Option.isSome_iff_exists.mpr ⟨v, hv⟩, ih _ h⟩

/-- The digits of a run are worth less than the place before them. -/
theorem decimalNotation_lt (digits : Text) : decimalNotation digits < 10 ^ digits.length := by
  unfold decimalNotation
  have hvalues : ∀ v ∈ digits.reverse.map fun c => (decimalValue? c).getD 0, v < 10 := by
    intro v hv
    obtain ⟨c, _, rfl⟩ := List.mem_map.mp hv
    cases hc : decimalValue? c with
    | none => decide
    | some v => exact decimalValue?_lt hc
  have hlt := Nat.ofDigits_lt_base_pow_length (by decide) hvalues
  rwa [List.length_map, List.length_reverse] at hlt

/-! ### The digits `0` to `9` -/

theorem decimalValue?_of_ascii {c : Char} (h : isAsciiDigit c = true) :
    decimalValue? c = some (c.toNat - '0'.toNat) := by
  have hrange := Char.isDigit_iff_toNat.mp h
  have hfirst : decimalZeros.find? (fun z => z ≤ c.toNat && c.toNat < z + 10) = some 0x30 := by
    refine List.find?_cons_of_pos ?_
    rw [Bool.and_eq_true, decide_eq_true_eq, decide_eq_true_eq]
    exact ⟨hrange.1, Nat.lt_succ_of_le hrange.2⟩
  unfold decimalValue?
  rw [hfirst]
  rfl

theorem isAsciiDigit_of_mem_ofNat {n : Nat} {c : Char} (h : c ∈ Text.ofNat n) :
    isAsciiDigit c = true :=
  Nat.isDigit_of_mem_toDigits (by decide) (by decide) h

theorem decimalNotation_of_ascii {digits : Text} (h : ∀ c ∈ digits, isAsciiDigit c = true) :
    decimalNotation digits = Nat.ofDigitChars 10 digits 0 := by
  induction digits with
  | nil => rfl
  | cons c digits ih =>
    rw [List.forall_mem_cons] at h
    rw [decimalNotation_cons, decimalValue?_of_ascii h.1, ih h.2, Option.getD_some,
      Nat.ofDigitChars_cons, @Nat.ofDigitChars_eq_ofDigitChars_zero digits (10 * 0 + _),
      Nat.mul_zero, Nat.zero_add, Nat.mul_comm]

/-- A number that is written is read back. -/
theorem decimalNotation_ofNat (n : Nat) : decimalNotation (Text.ofNat n) = n := by
  rw [decimalNotation_of_ascii fun _ => isAsciiDigit_of_mem_ofNat]
  exact Nat.ofDigitChars_ten_toDigits

theorem digitChar_of_ascii {c : Char} (h : isAsciiDigit c = true) :
    c.toNat - '0'.toNat < 10 ∧ (c.toNat - '0'.toNat).digitChar = c := by
  obtain ⟨hlow, hhigh⟩ := Char.isDigit_iff_toNat.mp h
  have hlt : c.toNat - '0'.toNat < 10 := Nat.lt_succ_of_le (Nat.sub_le_sub_right hhigh _)
  refine ⟨hlt, Char.toNat_inj.mp ?_⟩
  rw [Nat.toNat_digitChar_of_lt_ten hlt]
  exact Nat.add_sub_cancel' hlow

/-- Behind a number that is not zero, digits go on with it. -/
theorem ofNat_append {n : Nat} (hn : 0 < n) {digits : Text}
    (h : ∀ c ∈ digits, isAsciiDigit c = true) :
    Text.ofNat n ++ digits = Text.ofNat (n * 10 ^ digits.length + decimalNotation digits) := by
  induction digits generalizing n with
  | nil => simp
  | cons c digits ih =>
    rw [List.forall_mem_cons] at h
    obtain ⟨hv, hchar⟩ := digitChar_of_ascii h.1
    have hnext : Text.ofNat n ++ [c] = Text.ofNat (10 * n + (c.toNat - '0'.toNat)) := by
      have hdigits := Nat.toDigits_append_toDigits (by decide : 1 < 10) hn hv
      rwa [Nat.toDigits_of_lt_base hv, hchar] at hdigits
    calc Text.ofNat n ++ c :: digits
      _ = Text.ofNat n ++ [c] ++ digits := by rw [List.append_assoc, List.singleton_append]
      _ = Text.ofNat ((10 * n + (c.toNat - '0'.toNat)) * 10 ^ digits.length
            + decimalNotation digits) := by
        rw [hnext]
        exact ih (by omega) h.2
      _ = Text.ofNat (n * 10 ^ (c :: digits).length + decimalNotation (c :: digits)) := by
        rw [decimalNotation_cons, decimalValue?_of_ascii h.1, Option.getD_some, List.length_cons]
        congr 1
        ring

/-- A number that is read is written as it was, if it had no leading zero. -/
theorem ofNat_decimalNotation {digits : Text} (h : ∀ c ∈ digits, isAsciiDigit c = true)
    (hne : digits ≠ []) (hzero : digits.head? ≠ some '0') :
    Text.ofNat (decimalNotation digits) = digits := by
  obtain ⟨c, digits, rfl⟩ := List.exists_cons_of_ne_nil hne
  rw [List.forall_mem_cons] at h
  obtain ⟨hv, hchar⟩ := digitChar_of_ascii h.1
  have hpos : 0 < c.toNat - '0'.toNat := by
    refine Nat.pos_of_ne_zero fun h0 => hzero ?_
    rw [h0] at hchar
    rw [← hchar]
    rfl
  rw [decimalNotation_cons, decimalValue?_of_ascii h.1, Option.getD_some,
    ← ofNat_append hpos h.2]
  unfold Text.ofNat
  rw [Nat.toDigits_of_lt_base hv, hchar, List.singleton_append]

/-! ### The reader -/

structure IsNumeral (digits : Text) : Prop where
  decimal : ∀ c ∈ digits, isDecimal c = true
  short : digits.length ≤ maxDigits

theorem IsNumeral.nil : IsNumeral [] := ⟨fun _ h => absurd h List.not_mem_nil, Nat.zero_le _⟩

theorem IsNumeral.digits {digits : Text} (h : IsNumeral digits) :
    ∀ c ∈ digits, isDigit c = true := by
  intro c hc
  exact isDigit_of_isDecimal (h.decimal c hc)

/-- A number is written in no more digits than it was read from. -/
theorem IsNumeral.ofNat {digits : Text} (h : IsNumeral digits) (hne : digits ≠ []) :
    IsNumeral (Text.ofNat (decimalNotation digits)) where
  decimal c hc := by
    unfold isDecimal
    rw [decimalValue?_of_ascii (isAsciiDigit_of_mem_ofNat hc)]
    rfl
  short := by
    have hlength := (Nat.length_toDigits_le_iff (by decide) (List.length_pos_iff.mpr hne)).mpr
      (decimalNotation_lt digits)
    exact Nat.le_trans hlength h.short

theorem readNumber_ok_iff {digits : Text} {n : Nat} :
    readNumber digits = .ok n ↔ IsNumeral digits ∧ decimalNotation digits = n := by
  unfold readNumber
  dsimp only
  constructor
  · intro h
    split at h
    · cases h
    · next hcount =>
      split at h
      · next m hm =>
        have hdecimal := isDecimal_of_decimalNumber? hm
        rw [List.takeWhile_eq_self_iff.mpr hdecimal, Nat.not_lt] at hcount
        rw [decimalNumber?_of_decimal hdecimal] at hm
        rw [Option.some.inj hm]
        exact ⟨⟨hdecimal, hcount⟩, Except.ok.inj h⟩
      · cases h
  · rintro ⟨h, rfl⟩
    rw [List.takeWhile_eq_self_iff.mpr h.decimal, if_neg (Nat.not_lt.mpr h.short),
      decimalNumber?_of_decimal h.decimal]

end Stencil
