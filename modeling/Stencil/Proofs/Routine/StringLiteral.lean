import Stencil.Json.Reader
import Stencil.Proofs.Routine.Piece

/-! # String literals of Rust

  A string literal of Rust holds its text character by character, with escapes for the quote, the
  backslash and the control characters. `content?` reads a literal by the rules for these escapes: a
  backslash and a letter, or `\u` with the code point in up to six hexadecimal digits between braces.
  It refuses what is no literal as a whole, such as one with text behind its quote.

  The literal of a text is read back as that text (`stringLiteral_content`). The induction is on the
  text: what is written for a character is read as this character, whatever comes behind it
  (`contentFrom_escaped`), because an escape tells its own end.
-/

namespace Stencil.Routine.Rust

/-! ### Reading a literal -/

/-- The character that a backslash and one more character stand for. -/
def letterEscape? : Char → Option Char
  | '\\' => some '\\'
  | '"' => some '"'
  | 'n' => some '\n'
  | 'r' => some '\r'
  | 't' => some '\t'
  | '0' => some '\x00'
  | _ => none

/-- The number that hexadecimal digits spell. -/
def hexNumber? (digits : Text) : Option Nat :=
  digits.foldlM (fun n c => (Json.hexValue? c).map (16 * n + ·)) 0

def charOf? (n : Nat) : Option Char := if n.isValidChar then some (Char.ofNat n) else none

/-- The character that an escape stands for, and the number of characters of the escape behind its
backslash. -/
def escape? : Text → Option (Char × Nat)
  | [] => none
  | 'u' :: '{' :: t =>
    let digits := t.takeWhile fun c => (Json.hexValue? c).isSome
    if 0 < digits.length && digits.length ≤ 6 && (t.drop digits.length).head? = some '}' then
      ((hexNumber? digits).bind charOf?).map (·, digits.length + 3)
    else none
  | c :: _ => (letterEscape? c).map (·, 1)

/-- The text of a literal behind its opening quote. The first `skip` characters belong to an escape
that has been read. -/
def contentFrom : (skip : Nat) → Text → Option Text
  | _, [] => none
  | skip + 1, _ :: t => contentFrom skip t
  | 0, c :: t =>
    if c = '"' then if t.isEmpty then some [] else none
    else if c = '\\' then
      match escape? t with
      | some (x, n) => (contentFrom n t).map (x :: ·)
      | none => none
    -- A carriage return does not stand for itself.
    else if c = '\r' then none
    else (contentFrom 0 t).map (c :: ·)

def content? : Text → Option Text
  | [] => none
  | c :: t => if c = '"' then contentFrom 0 t else none

/-! ### One character -/

theorem contentFrom_skip (u v : Text) : contentFrom u.length (u ++ v) = contentFrom 0 v := by
  induction u with
  | nil => rfl
  | cons c u ih => exact ih

/-- An escape is passed as a whole. -/
theorem contentFrom_escape {u v : Text} {x : Char} (h : escape? (u ++ v) = some (x, u.length)) :
    contentFrom 0 ('\\' :: (u ++ v)) = (contentFrom 0 v).map (x :: ·) := by
  rw [contentFrom, if_neg (by decide), if_pos rfl, h]
  dsimp only
  rw [contentFrom_skip]

theorem contentFrom_letter {e x : Char} (he : e ≠ 'u') (h : letterEscape? e = some x) (v : Text) :
    contentFrom 0 ('\\' :: e :: v) = (contentFrom 0 v).map (x :: ·) := by
  refine contentFrom_escape (u := [e]) ?_
  rw [List.singleton_append, escape?, h]
  · rfl
  · intro t hu
    exact absurd hu he

theorem hexValue?_digitChar {d : Nat} (h : d < 16) : Json.hexValue? d.digitChar = some d := by
  have hall : ∀ d < 16, Json.hexValue? d.digitChar = some d := by decide
  exact hall d h

theorem hex_zero (n : Nat) : Text.hex 0 n = Nat.toDigits 16 n := by
  rw [Text.hex, Nat.zero_sub]
  rfl

/-- A number is written in hexadecimal digits, which are read back as the number. The induction is
on the number, without its last digit. -/
theorem hexNumber?_hex (n : Nat) :
    (∀ x ∈ Text.hex 0 n, (Json.hexValue? x).isSome = true) ∧
      hexNumber? (Text.hex 0 n) = some n := by
  rw [hex_zero]
  induction n using Nat.strongRecOn with
  | ind n ih =>
    -- One digit is left, or the last one comes off.
    by_cases hlt : n < 16
    · rw [Nat.toDigits_of_lt_base hlt]
      constructor
      · intro x hx
        rw [List.mem_singleton.mp hx, hexValue?_digitChar hlt]
        rfl
      · simp [hexNumber?, hexValue?_digitChar hlt]
    · obtain ⟨hdigits, hnumber⟩ := ih (n / 16) (by omega)
      have hlast := hexValue?_digitChar (Nat.mod_lt n (by decide : 16 > 0))
      rw [Nat.toDigits_of_base_le (by decide) (Nat.not_lt.mp hlt)]
      constructor
      · intro x hx
        rcases List.mem_append.mp hx with hx | hx
        · exact hdigits x hx
        · rw [List.mem_singleton.mp hx, hlast]
          rfl
      · unfold hexNumber? at hnumber ⊢
        rw [List.foldlM_append, hnumber]
        simp [hlast, Nat.div_add_mod]

/-- The code point of an ASCII character needs no more digits than an escape may have. -/
theorem length_hex {n : Nat} (h : n < 0x80) :
    0 < (Text.hex 0 n).length ∧ (Text.hex 0 n).length ≤ 6 := by
  rw [hex_zero, Nat.length_toDigits_le_iff (by decide) (by decide)]
  exact ⟨Nat.length_toDigits_pos, by omega⟩

theorem charOf?_toNat (c : Char) : charOf? c.toNat = some c := by
  have hvalid : c.toNat.isValidChar := c.valid
  rw [charOf?, if_pos hvalid, Char.ofNat_toNat]

/-- The escape of a control character by its code point. -/
theorem escape?_hex {c : Char} (h : c.toNat < 0x80) (v : Text) :
    escape? ('u' :: '{' :: (Text.hex 0 c.toNat ++ '}' :: v)) =
      some (c, (Text.hex 0 c.toNat).length + 3) := by
  obtain ⟨hdigits, hnumber⟩ := hexNumber?_hex c.toNat
  have hlength := length_hex h
  have hrun : (Text.hex 0 c.toNat ++ '}' :: v).takeWhile (fun c => (Json.hexValue? c).isSome) =
      Text.hex 0 c.toNat := by
    refine Text.takeWhile_run_append hdigits fun x hx => ?_
    obtain rfl := Option.some.inj hx
    decide
  rw [escape?, hrun, List.drop_left]
  simp only [hlength.1, hlength.2, List.head?_cons, hnumber, Option.bind_some, charOf?_toNat]
  rfl

/-- What is written for a character is read as this character. -/
theorem contentFrom_escaped (c : Char) (v : Text) :
    contentFrom 0 (escaped c ++ v) = (contentFrom 0 v).map (c :: ·) := by
  unfold escaped
  split
  · next h => exact h ▸ contentFrom_letter (by decide) rfl v
  split
  · next h => exact h ▸ contentFrom_letter (by decide) rfl v
  split
  · next h => exact h ▸ contentFrom_letter (e := 'n') (by decide) rfl v
  split
  · next h => exact h ▸ contentFrom_letter (e := 'r') (by decide) rfl v
  split
  · next h => exact h ▸ contentFrom_letter (e := 't') (by decide) rfl v
  split
  · next h => exact h ▸ contentFrom_letter (e := '0') (by decide) rfl v
  split
  · next hcontrol =>
    have hlt : c.toNat < 0x80 := by
      rw [Bool.or_eq_true, decide_eq_true_iff, decide_eq_true_iff] at hcontrol
      omega
    have hescape := escape?_hex hlt v
    have hsplit : ("\\u\x7b" ++ Text.hex 0 c.toNat ++ "\x7d" : Text) ++ v =
        '\\' :: (('u' :: '{' :: (Text.hex 0 c.toNat ++ ['}'])) ++ v) := by simp
    rw [hsplit]
    refine contentFrom_escape ?_
    simpa using hescape
  · next hslash hquote _ hreturn _ _ _ =>
    rw [List.singleton_append, contentFrom, if_neg hquote, if_neg hslash, if_neg hreturn]

/-- The character is no control character of ASCII. -/
def Printable (c : Char) : Prop := 0x20 ≤ c.toNat ∧ c.toNat ≠ 0x7f

instance : DecidablePred Printable := fun c =>
  inferInstanceAs (Decidable (0x20 ≤ c.toNat ∧ c.toNat ≠ 0x7f))

theorem printable_of_hexValue? {x : Char} (h : (Json.hexValue? x).isSome = true) : Printable x := by
  have within {a b : Char} (hle : (decide (a ≤ x) && decide (x ≤ b)) = true) :
      a.toNat ≤ x.toNat ∧ x.toNat ≤ b.toNat := by
    rw [Bool.and_eq_true, decide_eq_true_eq, decide_eq_true_eq] at hle
    exact hle
  unfold Printable
  unfold Json.hexValue? at h
  split at h
  · next hdigit =>
    obtain ⟨hlow, hhigh⟩ := within hdigit
    have hbounds : '0'.toNat = 48 ∧ '9'.toNat = 57 := by decide
    omega
  split at h
  · next hletter =>
    obtain ⟨hlow, hhigh⟩ := within hletter
    have hbounds : 'a'.toNat = 97 ∧ 'f'.toNat = 102 := by decide
    omega
  split at h
  · next hletter =>
    obtain ⟨hlow, hhigh⟩ := within hletter
    have hbounds : 'A'.toNat = 65 ∧ 'F'.toNat = 70 := by decide
    omega
  · cases h

/-- No control character stands in what is written for a character. -/
theorem printable_of_mem_escaped {c x : Char} (h : x ∈ escaped c) : Printable x := by
  have fixed {t : Text} (hall : t.all (fun y => Printable y) = true) (hx : x ∈ t) : Printable x :=
    of_decide_eq_true (List.all_eq_true.mp hall x hx)
  unfold escaped at h
  split at h
  · exact fixed (by decide) h
  split at h
  · exact fixed (by decide) h
  split at h
  · exact fixed (by decide) h
  split at h
  · exact fixed (by decide) h
  split at h
  · exact fixed (by decide) h
  split at h
  · exact fixed (by decide) h
  split at h
  · rcases List.mem_append.mp h with h | h
    · rcases List.mem_append.mp h with h | h
      · exact fixed (by decide) h
      · exact printable_of_hexValue? ((hexNumber?_hex c.toNat).1 x h)
    · exact fixed (by decide) h
  · next hcontrol =>
    rw [Bool.or_eq_true, decide_eq_true_eq, decide_eq_true_eq, not_or, Nat.not_lt] at hcontrol
    rw [List.mem_singleton.mp h]
    exact hcontrol

/-! ### Whole literals -/

/-- A string literal is read back as its text. -/
theorem content?_stringLiteral (u : Text) : content? (stringLiteral u) = some u := by
  show contentFrom 0 (u.flatMap escaped ++ ['"']) = some u
  induction u with
  | nil => rfl
  | cons c u ih =>
    rw [List.flatMap_cons, List.append_assoc, contentFrom_escaped, ih]
    rfl

/-- The string literal of a text has no control character, is read back as that text and so as no
other, and is one token of the dialect, whatever comes behind it. -/
theorem stringLiteral_content (u : Text) :
    (∀ c ∈ stringLiteral u, 0x20 ≤ c.toNat ∧ c.toNat ≠ 0x7f) ∧
      content? (stringLiteral u) = some u ∧ Function.Injective stringLiteral ∧
      ∀ w, Token.at? Dialect.rust none (stringLiteral u ++ w) =
        .ok (some ⟨.string, (stringLiteral u).length⟩) := by
  refine ⟨fun c hc => ?_, content?_stringLiteral u, fun v w h => ?_, at?_stringLiteral none u⟩
  · have hquote : 0x20 ≤ '"'.toNat ∧ '"'.toNat ≠ 0x7f := by decide
    rcases List.mem_cons.mp hc with rfl | hc
    · exact hquote
    rcases List.mem_append.mp hc with hc | hc
    · obtain ⟨x, _, hx⟩ := List.mem_flatMap.mp hc
      exact printable_of_mem_escaped hx
    · rw [List.mem_singleton.mp hc]
      exact hquote
  · have hv := content?_stringLiteral v
    rw [h, content?_stringLiteral w] at hv
    exact (Option.some.inj hv).symm

end Stencil.Routine.Rust
