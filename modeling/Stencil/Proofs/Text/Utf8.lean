import Stencil.Text.Utf8

/-! # Bytes of a text and back

  A text is read from bytes just if they are the bytes of that text (`Text.ofUtf8_eq_ok_iff`): what is
  encoded is read back, and nothing else is read as the same text. The reader takes the bytes of one
  character at a time. `Spells` says which bytes stand for a code point, with one rule for each
  width; the reader takes a character just where some bytes spell one, and the bytes of a character
  are the only ones that spell it.
-/

namespace Stencil.Text

/-! ### The bytes of a code point -/

/-- Whether the byte `c` may come second in a character that begins with `b`. -/
def SecondOf (b c : UInt8) : Prop :=
  (secondRange b).1.toNat ≤ c.toNat ∧ c.toNat ≤ (secondRange b).2.toNat

/-- Whether a byte may come third or fourth in a character. -/
def Later (c : UInt8) : Prop := 0x80 ≤ c.toNat ∧ c.toNat ≤ 0xbf

/-- Bytes that stand for a code point. -/
inductive Spells (code : Nat) : Bytes → Prop
  | one {a} (ha : a.toNat < 0x80) (h : code = a.toNat) : Spells code [a]
  | two {a b} (ha : 0xc2 ≤ a.toNat ∧ a.toNat ≤ 0xdf) (hb : SecondOf a b)
      (h : code = a.toNat % 0x20 * 0x40 + b.toNat % 0x40) : Spells code [a, b]
  | three {a b c} (ha : 0xe0 ≤ a.toNat ∧ a.toNat ≤ 0xef) (hb : SecondOf a b) (hc : Later c)
      (h : code = (a.toNat % 0x10 * 0x40 + b.toNat % 0x40) * 0x40 + c.toNat % 0x40) :
      Spells code [a, b, c]
  | four {a b c d} (ha : 0xf0 ≤ a.toNat ∧ a.toNat ≤ 0xf4) (hb : SecondOf a b) (hc : Later c)
      (hd : Later d)
      (h : code = ((a.toNat % 0x8 * 0x40 + b.toNat % 0x40) * 0x40 + c.toNat % 0x40) * 0x40 +
        d.toNat % 0x40) : Spells code [a, b, c, d]

variable {b : UInt8} {bs : Bytes} {code width : Nat} {t : Text}

theorem widthOf?_eq_some_iff :
    widthOf? b = some width ↔ b.toNat < 0x80 ∧ width = 1 ∨
      (0xc2 ≤ b.toNat ∧ b.toNat ≤ 0xdf) ∧ width = 2 ∨
      (0xe0 ≤ b.toNat ∧ b.toNat ≤ 0xef) ∧ width = 3 ∨
      (0xf0 ≤ b.toNat ∧ b.toNat ≤ 0xf4) ∧ width = 4 := by
  unfold widthOf?
  simp only [Bool.and_eq_true, decide_eq_true_eq, UInt8.lt_iff_toNat_lt, UInt8.le_iff_toNat_le,
    UInt8.reduceToNat]
  grind

theorem secondOf_iff {b c : UInt8} :
    SecondOf b c ↔ 0x80 ≤ c.toNat ∧ c.toNat ≤ 0xbf ∧ (b.toNat = 0xe0 → 0xa0 ≤ c.toNat) ∧
      (b.toNat = 0xf0 → 0x90 ≤ c.toNat) ∧ (b.toNat = 0xed → c.toNat ≤ 0x9f) ∧
      (b.toNat = 0xf4 → c.toNat ≤ 0x8f) := by
  unfold SecondOf secondRange
  simp only [← UInt8.toNat_inj, apply_ite UInt8.toNat, UInt8.reduceToNat]
  grind

/-! ### Characters -/

theorem Spells.ne_nil (h : Spells code bs) : bs ≠ [] := by
  cases h <;> exact List.cons_ne_nil _ _

/-- A code point that is spelled is that of a character. -/
theorem Spells.isValidChar (h : Spells code bs) : code.isValidChar := by
  unfold Nat.isValidChar
  cases h with
  | one ha h => omega
  | two ha hb h => omega
  | three ha hb hc h =>
    rw [secondOf_iff] at hb
    omega
  | four ha hb hc hd h =>
    rw [secondOf_iff] at hb
    omega

/-- The bytes of a character spell its code point. -/
theorem spells_utf8EncodeChar (c : Char) : Spells c.toNat (String.utf8EncodeChar c) := by
  have hvalid : c.toNat < 55296 ∨ 57343 < c.toNat ∧ c.toNat < 1114112 := c.valid
  have hval : c.val.toNat = c.toNat := rfl
  have byte {n : Nat} (h : n < 256) : (UInt8.ofNat n).toNat = n := by
    rw [UInt8.toNat_ofNat']
    exact Nat.mod_eq_of_lt h
  -- The width is told by the code point; each of the four forms has its own bounds.
  unfold String.utf8EncodeChar
  rw [hval]
  dsimp only
  split
  · refine .one ?_ ?_
    · rw [byte (by omega)]
      omega
    · rw [byte (by omega)]
  · split
    · refine .two ?_ (secondOf_iff.mpr ?_) ?_
      · rw [byte (by omega)]
        omega
      · rw [byte (by omega), byte (by omega)]
        omega
      · rw [byte (by omega), byte (by omega)]
        omega
    · split
      · refine .three ?_ (secondOf_iff.mpr ?_) ?_ ?_
        · rw [byte (by omega)]
          omega
        · rw [byte (by omega), byte (by omega)]
          omega
        · unfold Later
          rw [byte (by omega)]
          omega
        · rw [byte (by omega), byte (by omega), byte (by omega)]
          omega
      · refine .four ?_ (secondOf_iff.mpr ?_) ?_ ?_ ?_
        · rw [byte (by omega)]
          omega
        · rw [byte (by omega), byte (by omega)]
          omega
        · unfold Later
          rw [byte (by omega)]
          omega
        · unfold Later
          rw [byte (by omega)]
          omega
        · rw [byte (by omega), byte (by omega), byte (by omega), byte (by omega)]
          omega

/-- The range of the code points that a run of bytes of its length can spell. -/
theorem Spells.range (h : Spells code bs) :
    bs.length = 1 ∧ code < 0x80 ∨ bs.length = 2 ∧ 0x80 ≤ code ∧ code < 0x800 ∨
      bs.length = 3 ∧ 0x800 ≤ code ∧ code < 0x10000 ∨ bs.length = 4 ∧ 0x10000 ≤ code := by
  cases h with
  | one ha h => exact .inl ⟨rfl, by omega⟩
  | two ha hb h => exact .inr (.inl ⟨rfl, by omega, by omega⟩)
  | three ha hb hc h =>
    rw [secondOf_iff] at hb
    exact .inr (.inr (.inl ⟨rfl, by omega, by omega⟩))
  | four ha hb hc hd h =>
    rw [secondOf_iff] at hb
    exact .inr (.inr (.inr ⟨rfl, by omega⟩))

theorem SecondOf.later {a b : UInt8} (h : SecondOf a b) : Later b := by
  rw [secondOf_iff] at h
  exact ⟨h.1, h.2.1⟩

/-- The last byte and the bits before it are known from the bits of both. -/
theorem Later.bits_inj {c c' : UInt8} {bits bits' : Nat} (hc : Later c) (hc' : Later c')
    (h : bits * 0x40 + c.toNat % 0x40 = bits' * 0x40 + c'.toNat % 0x40) : bits = bits' ∧ c = c' := by
  unfold Later at hc hc'
  exact ⟨by omega, UInt8.toNat_inj.mp (by omega)⟩

/-- A code point is spelled by one run of bytes only. -/
theorem Spells.unique {bs' : Bytes} (h : Spells code bs) (h' : Spells code bs') : bs = bs' := by
  have hlength : bs.length = bs'.length := by
    have hrange := h.range
    have hrange' := h'.range
    omega
  -- With the bits of the later bytes taken off, the first bytes have the same bits.
  cases h with
  | one ha h =>
    cases h' with
    | one ha' h' => rw [UInt8.toNat_inj.mp (h.symm.trans h')]
    | _ => simp at hlength
  | @two a _ ha hb h =>
    cases h' with
    | @two a' _ ha' hb' h' =>
      obtain ⟨hbits, rfl⟩ := hb.later.bits_inj hb'.later (h.symm.trans h')
      obtain rfl : a = a' := UInt8.toNat_inj.mp (by omega)
      rfl
    | _ => simp at hlength
  | @three a _ _ ha hb hc h =>
    cases h' with
    | @three a' _ _ ha' hb' hc' h' =>
      obtain ⟨hab, rfl⟩ := hc.bits_inj hc' (h.symm.trans h')
      obtain ⟨hbits, rfl⟩ := hb.later.bits_inj hb'.later hab
      obtain rfl : a = a' := UInt8.toNat_inj.mp (by omega)
      rfl
    | _ => simp at hlength
  | @four a _ _ _ ha hb hc hd h =>
    cases h' with
    | @four a' _ _ _ ha' hb' hc' hd' h' =>
      obtain ⟨habc, rfl⟩ := hd.bits_inj hd' (h.symm.trans h')
      obtain ⟨hab, rfl⟩ := hc.bits_inj hc' habc
      obtain ⟨hbits, rfl⟩ := hb.later.bits_inj hb'.later hab
      obtain rfl : a = a' := UInt8.toNat_inj.mp (by omega)
      rfl
    | _ => simp at hlength

/-! ### Reading -/

variable {read bits low high owed : Nat}

theorem tailBits_succ_eq_ok_iff :
    tailBits read bits low high (owed + 1) bs = .ok code ↔ ∃ c cs, bs = c :: cs ∧
      (low ≤ c.toNat ∧ c.toNat ≤ high) ∧
        tailBits (read + 1) (bits * 0x40 + c.toNat % 0x40) 0x80 0xbf owed cs = .ok code := by
  constructor
  · intro h
    cases bs with
    | nil => cases h
    | cons c cs =>
      rw [tailBits] at h
      split at h
      · next hc => exact ⟨c, cs, rfl, by simpa using hc, h⟩
      · cases h
  · rintro ⟨c, cs, rfl, hc, h⟩
    rwa [tailBits, if_pos (by simpa using hc)]

/-- Reading one character: `b` and the bytes of it after `b` spell the code point. -/
theorem read_iff :
    widthOf? b = some width ∧ tailBits 1 (leadBits width b) (secondRange b).1.toNat
        (secondRange b).2.toNat (width - 1) bs = .ok code ↔
      ∃ cs rest, bs = cs ++ rest ∧ cs.length + 1 = width ∧ Spells code (b :: cs) := by
  constructor
  · rintro ⟨hwidth, htail⟩
    rcases widthOf?_eq_some_iff.mp hwidth with ⟨hb, rfl⟩ | ⟨hb, rfl⟩ | ⟨hb, rfl⟩ | ⟨hb, rfl⟩
    · exact ⟨[], bs, rfl, rfl, .one hb (Except.ok.inj htail).symm⟩
    · obtain ⟨c, rest, rfl, hc, htail⟩ := tailBits_succ_eq_ok_iff.mp htail
      exact ⟨[c], rest, rfl, rfl, .two hb hc (Except.ok.inj htail).symm⟩
    · obtain ⟨c, cs, rfl, hc, htail⟩ := tailBits_succ_eq_ok_iff.mp htail
      obtain ⟨d, rest, rfl, hd, htail⟩ := tailBits_succ_eq_ok_iff.mp htail
      exact ⟨[c, d], rest, rfl, rfl, .three hb hc hd (Except.ok.inj htail).symm⟩
    · obtain ⟨c, cs, rfl, hc, htail⟩ := tailBits_succ_eq_ok_iff.mp htail
      obtain ⟨d, cs, rfl, hd, htail⟩ := tailBits_succ_eq_ok_iff.mp htail
      obtain ⟨e, rest, rfl, he, htail⟩ := tailBits_succ_eq_ok_iff.mp htail
      exact ⟨[c, d, e], rest, rfl, rfl, .four hb hc hd he (Except.ok.inj htail).symm⟩
  · rintro ⟨cs, rest, rfl, rfl, hspells⟩
    cases hspells with
    | one hb h => exact ⟨widthOf?_eq_some_iff.mpr (by simp [hb]), congrArg Except.ok h.symm⟩
    | two hb hc h =>
      refine ⟨widthOf?_eq_some_iff.mpr (by simp [hb]), ?_⟩
      exact tailBits_succ_eq_ok_iff.mpr ⟨_, _, rfl, hc, congrArg Except.ok h.symm⟩
    | three hb hc hd h =>
      refine ⟨widthOf?_eq_some_iff.mpr (by simp [hb]), ?_⟩
      refine tailBits_succ_eq_ok_iff.mpr ⟨_, _, rfl, hc, ?_⟩
      exact tailBits_succ_eq_ok_iff.mpr ⟨_, _, rfl, hd, congrArg Except.ok h.symm⟩
    | four hb hc hd he h =>
      refine ⟨widthOf?_eq_some_iff.mpr (by simp [hb]), ?_⟩
      refine tailBits_succ_eq_ok_iff.mpr ⟨_, _, rfl, hc, ?_⟩
      refine tailBits_succ_eq_ok_iff.mpr ⟨_, _, rfl, hd, ?_⟩
      exact tailBits_succ_eq_ok_iff.mpr ⟨_, _, rfl, he, congrArg Except.ok h.symm⟩

/-- The bytes of a character that was read are passed over. -/
theorem ofUtf8From_append (position : Nat) (cs rest : Bytes) :
    ofUtf8From position cs.length (cs ++ rest) = ofUtf8From (position + cs.length) 0 rest := by
  induction cs generalizing position with
  | nil => rfl
  | cons c cs ih =>
    rw [List.cons_append, List.length_cons, ofUtf8From, ih]
    congr 1
    omega

/-- A text is read where its first character is spelled and the rest of it is read behind. -/
theorem ofUtf8From_cons_eq_ok_iff {position : Nat} :
    ofUtf8From position 0 (b :: bs) = .ok t ↔
      ∃ cs rest code t', bs = cs ++ rest ∧ Spells code (b :: cs) ∧ t = Char.ofNat code :: t' ∧
        ofUtf8From (position + (cs.length + 1)) 0 rest = .ok t' := by
  constructor
  · intro h
    rw [ofUtf8From] at h
    split at h
    · cases h
    · next width hwidth =>
      dsimp only at h
      split at h
      · cases h
      · next code htail =>
        obtain ⟨cs, rest, rfl, rfl, hspells⟩ := read_iff.mp ⟨hwidth, htail⟩
        rw [Nat.add_sub_cancel, ofUtf8From_append] at h
        split at h
        · cases h
        · next t' hrest =>
          refine ⟨cs, rest, code, t', rfl, hspells, (Except.ok.inj h).symm, ?_⟩
          rwa [Nat.add_comm cs.length, ← Nat.add_assoc]
  · rintro ⟨cs, rest, code, t', rfl, hspells, rfl, hrest⟩
    obtain ⟨hwidth, htail⟩ := read_iff.mpr ⟨cs, rest, rfl, rfl, hspells⟩
    rw [ofUtf8From, hwidth]
    dsimp only
    rw [htail]
    dsimp only
    rw [Nat.add_sub_cancel, ofUtf8From_append, Nat.add_assoc, Nat.add_comm 1, hrest]

/-- A character is known from any bytes that spell it. -/
theorem Spells.eq_utf8EncodeChar (h : Spells code bs) :
    bs = String.utf8EncodeChar (Char.ofNat code) := by
  have hcode : (Char.ofNat code).toNat = code := by
    rw [Char.ofNat, dif_pos h.isValidChar]
    rfl
  have hchar := spells_utf8EncodeChar (Char.ofNat code)
  rw [hcode] at hchar
  exact h.unique hchar

theorem toUtf8_cons (c : Char) (t : Text) : toUtf8 (c :: t) = String.utf8EncodeChar c ++ toUtf8 t :=
  rfl

/-- The bytes of a text are read as this text. -/
theorem ofUtf8From_toUtf8 (position : Nat) (t : Text) : ofUtf8From position 0 t.toUtf8 = .ok t := by
  induction t generalizing position with
  | nil => rfl
  | cons c t ih =>
    have hspells := spells_utf8EncodeChar c
    rw [toUtf8_cons]
    obtain ⟨b, cs, hbytes⟩ := List.exists_cons_of_ne_nil hspells.ne_nil
    rw [hbytes] at hspells ⊢
    exact ofUtf8From_cons_eq_ok_iff.mpr ⟨cs, Text.toUtf8 t, c.toNat, t, rfl, hspells, by simp, ih _⟩

/-- Bytes that are read as a text are those of this text. -/
theorem eq_toUtf8_of_ofUtf8From {position : Nat} (h : ofUtf8From position 0 bs = .ok t) :
    bs = t.toUtf8 := by
  -- What is left after a character is shorter, though not by one byte.
  induction hn : bs.length using Nat.strongRecOn generalizing position bs t with
  | ind n ih =>
    cases bs with
    | nil =>
      obtain rfl := Except.ok.inj h
      rfl
    | cons b bs =>
      obtain ⟨cs, rest, code, t', rfl, hspells, rfl, hrest⟩ := ofUtf8From_cons_eq_ok_iff.mp h
      have hshorter : rest.length < n := by
        rw [← hn, List.length_cons, List.length_append]
        omega
      rw [toUtf8_cons, ← hspells.eq_utf8EncodeChar, ← ih _ hshorter hrest rfl]
      rfl

/-- The texts that are read from bytes are those that have these bytes. -/
theorem ofUtf8_eq_ok_iff : ofUtf8 bs = .ok t ↔ bs = t.toUtf8 := by
  constructor
  · exact eq_toUtf8_of_ofUtf8From
  · rintro rfl
    exact ofUtf8From_toUtf8 0 t

/-- A text is known from its bytes. -/
theorem toUtf8_injective {s t : Text} (h : s.toUtf8 = t.toUtf8) : s = t := by
  have hread := ofUtf8_eq_ok_iff.mpr h
  rw [ofUtf8_eq_ok_iff.mpr rfl] at hread
  exact Except.ok.inj hread

end Stencil.Text
