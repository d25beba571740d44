import Stencil.Proofs.Outcome
import Stencil.Proofs.Routine.StringLiteral
import Stencil.Proofs.Text.Word
import Stencil.Script.Literal
import Stencil.Text.Quoted

/-! # Literals of scripts

  A routine holds its texts between quotes (`Text.quoted`). Such a literal is found as a whole
  (`textLength?_quoted`) and stands for its text (`codesOfLiteral_quoted`), whatever comes behind it. Both are
  inductions on the text with a lemma for what is written for one character, because an escape tells
  its own end.
-/

namespace Stencil.Script

variable {F : Type} {named : Text → Except F (Option Char)} {quote : Char}

/-! ### Hexadecimal digits -/

/-- A hexadecimal digit is a character of plain names, and one that is worth less than ten is a
decimal digit. -/
theorem hexValue?_spec {c : Char} {v : Nat} (h : Json.hexValue? c = some v) :
    v < 16 ∧ isPlainChar c = true ∧ (v < 10 → isAsciiDigit c = true) := by
  have hascii : c.toNat < 0x80 := by
    have below {a b : Char} (hb : b.toNat < 0x80) (hle : (decide (a ≤ c) && decide (c ≤ b)) = true) :
        c.toNat < 0x80 := by
      rw [Bool.and_eq_true, decide_eq_true_eq, decide_eq_true_eq] at hle
      exact Nat.lt_of_le_of_lt hle.2 hb
    unfold Json.hexValue? at h
    split at h
    · next hdigit => exact below (by decide) hdigit
    split at h
    · next hsmall => exact below (by decide) hsmall
    split at h
    · next hcapital => exact below (by decide) hcapital
    · cases h
  exact of_ascii (P := fun c => ∀ v ∈ Json.hexValue? c, v < 16 ∧ isPlainChar c = true ∧
    (v < 10 → isAsciiDigit c = true)) (by decide +kernel) hascii v h

theorem digitsIn?_sixteen (digits : Text) :
    digitsIn? 16 digits = if digits.isEmpty then none else Routine.Rust.hexNumber? digits := by
  have hstep : (fun (n : Nat) (c : Char) => do
      let v ← Json.hexValue? c
      if v < 16 then return 16 * n + v else none) =
        fun n c => (Json.hexValue? c).map (16 * n + ·) := by
    funext n c
    cases hv : Json.hexValue? c with
    | none => rfl
    | some v => exact if_pos (hexValue?_spec hv).1
  rw [digitsIn?, hstep, Routine.Rust.hexNumber?]

theorem hex_eq (width n : Nat) :
    Text.hex width n = List.replicate (width - (Text.hex 0 n).length) '0' ++ Text.hex 0 n := by
  rw [Routine.Rust.hex_zero]
  rfl

theorem length_hex {width n : Nat} (hwidth : 0 < width) (hn : n < Nat.pow 16 width) :
    (Text.hex width n).length = width := by
  have hle : (Text.hex 0 n).length ≤ width := by
    rw [Routine.Rust.hex_zero]
    exact (Nat.length_toDigits_le_iff (by decide) hwidth).mpr hn
  rw [hex_eq, List.length_append, List.length_replicate]
  omega

theorem isSome_hexValue?_of_mem_hex {width n : Nat} {x : Char} (h : x ∈ Text.hex width n) :
    (Json.hexValue? x).isSome = true := by
  rw [hex_eq, List.mem_append] at h
  rcases h with h | h
  · rw [List.eq_of_mem_replicate h]
    rfl
  · exact (Routine.Rust.hexNumber?_hex n).1 x h

/-- The digits of a number spell it, with any number of zeros in front. -/
theorem digitsIn?_hex (width n : Nat) : digitsIn? 16 (Text.hex width n) = some n := by
  have hzeros : ∀ k : Nat, (List.replicate k '0').foldlM (m := Option)
      (fun n c => (Json.hexValue? c).map (16 * n + ·)) 0 = some 0 := by
    intro k
    induction k with
    | zero => rfl
    | succ k ih => exact ih
  have hne : Text.hex 0 n ≠ [] := by
    rw [Routine.Rust.hex_zero]
    exact Nat.toDigits_ne_nil
  have hempty : ¬ (Text.hex width n).isEmpty := by
    rw [hex_eq]
    simp [hne]
  rw [digitsIn?_sixteen, if_neg hempty, Routine.Rust.hexNumber?, hex_eq, List.foldlM_append,
    hzeros]
  exact (Routine.Rust.hexNumber?_hex n).2

/-! ### Integers -/

theorem mem_withoutUnderscores {t digits : Text} (h : withoutUnderscores t = some digits) :
    ∀ c ∈ t, c = '_' ∨ c ∈ digits := by
  fun_induction withoutUnderscores t generalizing digits with
  | case1 => simp
  | case2 => cases h
  | case3 => cases h
  | case4 t _ _ ih =>
    intro c hc
    rcases List.mem_cons.mp hc with rfl | hc
    · exact .inl rfl
    · exact ih h c hc
  | case5 c t _ _ _ ih =>
    obtain ⟨digits, hdigits, rfl⟩ := Option.map_eq_some_iff.mp h
    intro x hx
    rcases List.mem_cons.mp hx with rfl | hx
    · exact .inr List.mem_cons_self
    · exact (ih hdigits x hx).imp_right (List.mem_cons_of_mem c)

theorem head?_withoutUnderscores {c : Char} {t digits : Text} (hc : c ≠ '_')
    (h : withoutUnderscores (c :: t) = some digits) : digits.head? = some c := by
  rw [withoutUnderscores] at h
  · obtain ⟨digits, _, rfl⟩ := Option.map_eq_some_iff.mp h
    rfl
  all_goals
    intros
    simp_all

theorem hexValue?_of_mem_digitsIn? {base n : Nat} {digits : Text}
    (h : digitsIn? base digits = some n) :
    digits ≠ [] ∧ ∀ c ∈ digits, ∃ v, Json.hexValue? c = some v ∧ v < base := by
  unfold digitsIn? at h
  split at h
  · cases h
  · next hne =>
    refine ⟨fun hnil => hne (by rw [hnil]; rfl), ?_⟩
    clear hne
    generalize 0 = start at h
    induction digits generalizing start with
    | nil => exact fun _ hc => absurd hc List.not_mem_nil
    | cons c digits ih =>
      rw [List.foldlM_cons] at h
      obtain ⟨next, hnext, h⟩ := Option.bind_eq_some_iff.mp h
      obtain ⟨v, hv, hnext⟩ := Option.bind_eq_some_iff.mp hnext
      rw [List.forall_mem_cons]
      refine ⟨⟨v, hv, ?_⟩, ih _ h⟩
      by_contra hbase
      rw [if_neg hbase] at hnext
      cases hnext

/-- Digits with underscores begin with a digit and have nothing but characters of plain names. -/
theorem spacedDigitsIn?_spec {base n : Nat} {t : Text} (h : spacedDigitsIn? base t = some n) :
    (∀ c ∈ t, isPlainChar c = true) ∧
      ∃ c v, t.head? = some c ∧ Json.hexValue? c = some v ∧ v < base := by
  unfold spacedDigitsIn? at h
  split at h
  · cases h
  · next hhead =>
    obtain ⟨digits, hdigits, hnumber⟩ := Option.bind_eq_some_iff.mp h
    obtain ⟨hne, hvalues⟩ := hexValue?_of_mem_digitsIn? hnumber
    constructor
    · intro c hc
      rcases mem_withoutUnderscores hdigits c hc with rfl | hmem
      · decide
      · obtain ⟨v, hv, _⟩ := hvalues c hmem
        exact (hexValue?_spec hv).2.1
    · cases t with
      | nil => exact absurd (Option.some.inj hdigits).symm hne
      | cons c t =>
        have hc : c ≠ '_' := fun hc => hhead (by rw [List.head?_cons, hc])
        obtain ⟨v, hv, hlt⟩ := hvalues c (List.mem_of_mem_head? (head?_withoutUnderscores hc hdigits))
        exact ⟨c, v, rfl, hv, hlt⟩

theorem isPlainChar_of_markedBase {c : Char} (h : markedBase c ≠ 10) : isPlainChar c = true := by
  by_cases hascii : c.toNat < 0x80
  · exact of_ascii (P := fun c => markedBase c ≠ 10 → isPlainChar c = true) (by decide +kernel)
      hascii h
  · have hlower : c.toLower = c := dif_neg fun hle => hascii (Nat.lt_of_le_of_lt hle.2 (by decide))
    have hne : ∀ x : Char, x.toNat < 0x80 → c ≠ x := by
      rintro x hx rfl
      exact hascii hx
    rw [markedBase, hlower, if_neg (hne 'x' (by decide)), if_neg (hne 'o' (by decide)),
      if_neg (hne 'b' (by decide))] at h
    exact absurd rfl h

/-- An integer begins with a digit and has nothing but characters of plain names. -/
theorem integer?_spec {n : Nat} {t : Text} (h : integer? t = some n) :
    (∀ c ∈ t, isPlainChar c = true) ∧ t.head?.any isAsciiDigit = true := by
  have hdecimal : ∀ {n}, spacedDigitsIn? 10 t = some n →
      (∀ c ∈ t, isPlainChar c = true) ∧ t.head?.any isAsciiDigit = true := by
    intro n h
    obtain ⟨hplain, c, v, hhead, hv, hlt⟩ := spacedDigitsIn?_spec h
    exact ⟨hplain, by rw [hhead, Option.any_some, (hexValue?_spec hv).2.2 hlt]⟩
  unfold integer? at h
  split at h
  · next c rest =>
    by_cases hbase : markedBase c = 10
    · rw [if_pos hbase] at h
      exact hdecimal (Option.filter_eq_some_iff.mp h).1
    · rw [if_neg hbase] at h
      -- An underscore may stand between the mark of the base and the digits.
      have hrest : ∀ x ∈ rest, isPlainChar x = true := by
        intro x hx
        have hplain := (spacedDigitsIn?_spec h).1
        by_cases hhead : rest.head? = some '_'
        · obtain ⟨_, rfl⟩ := List.head?_eq_some_iff.mp hhead
          rcases List.mem_cons.mp hx with rfl | hx
          · decide
          · exact hplain x (by rwa [if_pos hhead])
        · exact hplain x (by rwa [if_neg hhead])
      refine ⟨?_, rfl⟩
      rw [List.forall_mem_cons, List.forall_mem_cons]
      exact ⟨by decide, isPlainChar_of_markedBase hbase, hrest⟩
  · exact hdecimal h

/-! ### One character of a literal -/

/-- How a character is written in a literal: as it is, or as one of two kinds of escapes. -/
inductive WrittenAs (quote c : Char) : Text → Prop where
  | plain : c ≠ quote → c ≠ '\\' → c ≠ '\n' → WrittenAs quote c [c]
  | letter {e : Char} : letterEscape? e = some [c] → WrittenAs quote c ['\\', e]
  | code {e : Char} {width : Nat} : letterEscape? e = none → hexLength? e = some width →
      0 < width → c.toNat < Nat.pow 16 width →
      WrittenAs quote c ('\\' :: e :: Text.hex width c.toNat)

theorem toNat_lt (c : Char) : c.toNat < 0x110000 := by
  have hvalid : c.toNat.isValidChar := c.valid
  rcases hvalid with h | h <;> omega

/-- Every character is written in one of these ways; the cases are those of `Text.quotedChar`. -/
theorem writtenAs_quotedChar (hquote : quote = '\'' ∨ quote = '"') (c : Char) :
    WrittenAs quote c (Text.quotedChar quote c) := by
  unfold Text.quotedChar
  split
  · next h =>
    refine .letter ?_
    rw [Bool.or_eq_true, decide_eq_true_eq, decide_eq_true_eq] at h
    -- The quote itself and the backslash are written behind a backslash.
    rcases h with rfl | rfl
    · rcases hquote with rfl | rfl <;> rfl
    · rfl
  next hself =>
  rw [Bool.or_eq_true, decide_eq_true_eq, decide_eq_true_eq, not_or] at hself
  split
  · next h => exact h ▸ .letter (e := 't') rfl
  split
  · next h => exact h ▸ .letter (e := 'n') rfl
  next hfeed =>
  split
  · next h => exact h ▸ .letter (e := 'r') rfl
  split
  · exact .plain hself.1 hself.2 hfeed
  split
  · next h => exact .code (e := 'x') rfl rfl (by decide) (Nat.lt_succ_of_le h)
  split
  · next h => exact .code (e := 'u') rfl rfl (by decide) (Nat.lt_succ_of_le h)
  · exact .code (e := 'U') rfl rfl (by decide) (Nat.lt_trans (toNat_lt c) (by decide))

/-! ### The extent of a literal -/

/-- A text that a literal between single quotes goes on behind. -/
def Passes (quote : Char) (u : Text) : Prop :=
  ∀ v, closing quote 1 0 false (u ++ v) = (closing quote 1 0 false v).map (· + u.length)

theorem Passes.nil : Passes quote [] := by
  intro v
  cases h : closing quote 1 0 false v <;> simp [h]

theorem Passes.append {u w : Text} (hu : Passes quote u) (hw : Passes quote w) :
    Passes quote (u ++ w) := by
  intro v
  rw [List.append_assoc, hu, hw, Option.map_map, List.length_append]
  congr 1
  funext n
  simp only [Function.comp_apply]
  omega

theorem Passes.plain {c : Char} (hquote : c ≠ quote) (hfeed : c ≠ '\n') (hslash : c ≠ '\\') :
    Passes quote [c] := by
  intro v
  simp [closing, hquote, hfeed, hslash]

theorem Passes.escaped (hquote : '\\' ≠ quote) (c : Char) : Passes quote ['\\', c] := by
  intro v
  have hnext : closing quote 1 0 true (c :: v) = (closing quote 1 0 false v).map (· + 1) := rfl
  have hfeed : ¬ ((decide (1 = 1) && decide ('\\' = '\n')) = true) := by decide
  rw [List.cons_append, List.cons_append, List.nil_append, closing, if_neg hquote, if_neg hfeed,
    decide_eq_true rfl, hnext, Option.map_map]
  rfl

theorem Passes.of_forall {u : Text} (h : ∀ c ∈ u, Passes quote [c]) : Passes quote u := by
  induction u with
  | nil => exact .nil
  | cons c u ih =>
    rw [List.forall_mem_cons] at h
    exact .append h.1 (ih h.2)

theorem quoteFor_eq (t : Text) : t.quoteFor = '\'' ∨ t.quoteFor = '"' := by
  unfold Text.quoteFor
  split
  · exact .inr rfl
  · exact .inl rfl

theorem ne_of_hexValue? (hquote : quote = '\'' ∨ quote = '"') {x : Char}
    (h : (Json.hexValue? x).isSome = true) : x ≠ quote ∧ x ≠ '\n' ∧ x ≠ '\\' := by
  refine ⟨?_, ?_, ?_⟩
  · rintro rfl
    rcases hquote with rfl | rfl <;> exact absurd h (by decide)
  · rintro rfl
    exact absurd h (by decide)
  · rintro rfl
    exact absurd h (by decide)

theorem slash_ne (hquote : quote = '\'' ∨ quote = '"') : '\\' ≠ quote := by
  rcases hquote with rfl | rfl <;> decide

/-- A character is written in a way that does not end the literal. -/
theorem WrittenAs.passes (hquote : quote = '\'' ∨ quote = '"') {c : Char} {u : Text}
    (h : WrittenAs quote c u) : Passes quote u := by
  cases h with
  | plain hc hslash hfeed => exact .plain hc hfeed hslash
  | letter => exact .escaped (slash_ne hquote) _
  | code =>
    refine .append (.escaped (slash_ne hquote) _) (.of_forall fun y hy => ?_)
    obtain ⟨hy, hfeed, hslash⟩ := ne_of_hexValue? hquote (isSome_hexValue?_of_mem_hex hy)
    exact .plain hy hfeed hslash

theorem WrittenAs.eq_cons (hquote : quote = '\'' ∨ quote = '"') {c : Char} {u : Text}
    (h : WrittenAs quote c u) : ∃ x v, u = x :: v ∧ x ≠ quote := by
  cases h with
  | plain hc => exact ⟨c, [], rfl, hc⟩
  | letter => exact ⟨_, _, rfl, slash_ne hquote⟩
  | code => exact ⟨_, _, rfl, slash_ne hquote⟩

theorem passes_flatMap_quotedChar (hquote : quote = '\'' ∨ quote = '"') (t : Text) :
    Passes quote (t.flatMap (Text.quotedChar quote)) := by
  induction t with
  | nil => exact .nil
  | cons c t ih => exact .append ((writtenAs_quotedChar hquote c).passes hquote) ih

/-- The body of a literal and its closing quote do not begin with two quotes, unless a quote comes
behind them. -/
theorem not_isPrefixOf_body (hquote : quote = '\'' ∨ quote = '"') (t : Text) {rest : Text}
    (hrest : rest.head? ≠ some quote) :
    [quote, quote].isPrefixOf (t.flatMap (Text.quotedChar quote) ++ quote :: rest) = false := by
  cases t with
  | nil =>
    cases rest with
    | nil => simp [List.isPrefixOf]
    | cons c rest =>
      have hc : quote ≠ c := fun h => hrest (by rw [h, List.head?_cons])
      simp [List.isPrefixOf, hc]
  | cons c t =>
    obtain ⟨x, u, hx, hne⟩ := (writtenAs_quotedChar hquote c).eq_cons hquote
    simp [List.flatMap_cons, hx, List.isPrefixOf, hne.symm]

/-- The literal of a text is found as a whole. -/
theorem textLength?_quoted (t : Text) {rest : Text} (hrest : rest.head? ≠ some t.quoteFor) :
    textLength? (t.quoted ++ rest) = some t.quoted.length := by
  have hquote := quoteFor_eq t
  have hbody := not_isPrefixOf_body hquote t hrest
  have hend : closing t.quoteFor 1 0 false (t.quoteFor :: rest) = some 1 := by
    rw [closing, if_pos rfl, if_pos rfl]
  simp only [Text.quoted, List.cons_append, List.append_assoc, List.nil_append, textLength?, hbody,
    Bool.false_eq_true, if_false, passes_flatMap_quotedChar hquote t _, hend, Option.map_some,
    List.length_cons, List.length_append, List.length_nil]
  rw [Nat.add_comm 1]

/-! ### The text of a literal -/

theorem content_quoted (t : Text) :
    content t.quoted = t.flatMap (Text.quotedChar t.quoteFor) := by
  have hend : ([] : Text).head? ≠ some t.quoteFor := by simp
  have hbody := not_isPrefixOf_body (quoteFor_eq t) t hend
  simp only [Text.quoted, List.cons_append, content, hbody, Bool.false_and, Bool.false_eq_true,
    if_false, List.dropLast_concat]

theorem unescapeFrom_skip (u v : Text) :
    unescapeFrom named u.length (u ++ v) = unescapeFrom named 0 v := by
  induction u with
  | nil => rfl
  | cons c u ih => exact ih

/-- An escape is passed as a whole. -/
theorem unescapeFrom_escape {u v : Text} {x : List Nat}
    (h : escape named (u ++ v) = .ok (x, u.length)) :
    unescapeFrom named 0 ('\\' :: (u ++ v)) = (unescapeFrom named 0 v).map (x ++ ·) := by
  rw [unescapeFrom, if_pos rfl, h, Outcome.ok_bind]
  dsimp only
  rw [unescapeFrom_skip]
  cases unescapeFrom named 0 v <;> rfl

theorem unescapeFrom_letter {e : Char} {x : Text} (h : letterEscape? e = some x) (v : Text) :
    unescapeFrom named 0 ('\\' :: e :: v) = (unescapeFrom named 0 v).map (codesOf x ++ ·) := by
  refine unescapeFrom_escape (u := [e]) ?_
  rw [List.singleton_append, escape, h]
  rfl

/-- The escape of a character by its code point. -/
theorem unescapeFrom_hex {e c : Char} {width : Nat} (hletter : letterEscape? e = none)
    (hwidth : hexLength? e = some width) (hlength : (Text.hex width c.toNat).length = width)
    (v : Text) :
    unescapeFrom named 0 ('\\' :: e :: (Text.hex width c.toNat ++ v)) =
      (unescapeFrom named 0 v).map (c.toNat :: ·) := by
  have htake : (Text.hex width c.toNat ++ v).take width = Text.hex width c.toNat := by
    rw [List.take_append_of_le_length hlength.ge, List.take_of_length_le hlength.le]
  have hle : width ≤ (Text.hex width c.toNat ++ v).length := by
    rw [List.length_append, hlength]
    exact Nat.le_add_right _ _
  have hcode : (codePoint c.toNat : Except (EscapeFault F) (List Nat)) = .ok [c.toNat] :=
    if_neg (Nat.not_le.mpr (toNat_lt c))
  refine unescapeFrom_escape (u := e :: Text.hex width c.toNat) (x := [c.toNat]) ?_
  rw [List.cons_append, escape, hletter, hwidth]
  dsimp only
  rw [htake, digitsIn?_hex]
  dsimp only
  rw [if_pos hle, hcode, List.length_cons, hlength]
  rfl

/-- A character is read back from what is written for it. -/
theorem WrittenAs.unescapeFrom {c : Char} {u : Text} (h : WrittenAs quote c u) (v : Text) :
    unescapeFrom named 0 (u ++ v) = (unescapeFrom named 0 v).map (c.toNat :: ·) := by
  cases h with
  | plain _ hslash => rw [List.singleton_append, Script.unescapeFrom, if_neg hslash]
  | letter he => exact unescapeFrom_letter he v
  | code hletter hwidth hpos hc => exact unescapeFrom_hex hletter hwidth (length_hex hpos hc) v

theorem unescapeFrom_flatMap (hquote : quote = '\'' ∨ quote = '"') (t : Text) :
    unescapeFrom named 0 (t.flatMap (Text.quotedChar quote)) = .ok (codesOf t) := by
  induction t with
  | nil => rfl
  | cons c t ih =>
    rw [List.flatMap_cons, (writtenAs_quotedChar hquote c).unescapeFrom, ih]
    rfl

/-- The literal of a text stands for that text. -/
theorem codesOfLiteral_quoted (t : Text) : codesOfLiteral named t.quoted = .ok (codesOf t) := by
  rw [codesOfLiteral, content_quoted, unescapeFrom_flatMap (quoteFor_eq t)]

end Stencil.Script
