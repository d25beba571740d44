import Stencil.Dialect.Builtin
import Stencil.Proofs.Token.Seam

/-! # Tokens of Python code

  The dialect of Python has two kinds of tokens: comments from a number sign to the end of the line,
  and quoted strings with a few letters in front. A blank begins neither, and is no part of what a
  string begins with, so that a text may be cut at a blank without cutting the opening of a string.
-/

namespace Stencil.Dialect

/-! ### Blanks -/

/-- What holds of the characters with the code points of blanks holds of every blank. -/
theorem forall_blank {P : Char → Prop} (h : ∀ n ∈ blanks, P (Char.ofNat n)) {c : Char}
    (hc : isBlank c = true) : P c := by
  have hp := h c.toNat (List.contains_iff_mem.mp hc)
  rw [Char.ofNat_toNat] at hp
  exact hp

theorem caseless_of_isBlank {c : Char} (h : isBlank c = true) : Caseless c where
  own := forall_blank (P := fun c => lowerChar c = [c]) (by decide +kernel) h
  notSigma := forall_blank (P := fun c => c.toNat ≠ 0x3a3) (by decide) h

theorem isWordChar_of_isBlank {c : Char} (h : isBlank c = true) : isWordChar c = false :=
  forall_blank (P := fun c => isWordChar c = false) (by decide +kernel) h

theorem ne_of_isBlank {c x : Char} (h : isBlank c = true) (hx : isBlank x = false) : c ≠ x := by
  rintro rfl
  rw [h] at hx
  exact absurd hx (by decide)

/-! ### Characters that open no string -/

/-- A character that is no part of what a Python string begins with. -/
structure OpensNoString (c : Char) : Prop where
  caseless : Caseless c
  noPrefix : ∀ p, Entry.text p ∈ python.stringPrefixes → c ∉ p
  noQuote : python.isQuote c = false

/-- The letters of the prefixes of Python strings. -/
theorem mem_python_prefixes {p : Text} (hp : Entry.text p ∈ python.stringPrefixes) {x : Char}
    (hx : x ∈ p) : x ∈ ['b', 'r', 'f', 'u'] := by
  have hprefixes : python.stringPrefixes = [.text ['b', 'r'], .text ['r', 'b'], .text ['f', 'r'],
      .text ['r', 'f'], .text ['r'], .text ['u'], .text ['b'], .text ['f']] := rfl
  have hall : [['b', 'r'], ['r', 'b'], ['f', 'r'], ['r', 'f'], ['r'], ['u'], ['b'], ['f']].all
      (fun p => p.all fun x => x ∈ ['b', 'r', 'f', 'u']) := by decide
  rw [hprefixes] at hp
  have hletters := List.all_eq_true.mp hall p (by simpa using hp)
  exact of_decide_eq_true (List.all_eq_true.mp hletters x hx)

theorem python_isQuote_iff {c : Char} : python.isQuote c = true ↔ c = '"' ∨ c = '\'' := by
  have hquotes : python.quotes = [.text ['"'], .text ['\'']] := rfl
  unfold isQuote
  rw [hquotes]
  simp only [List.any_cons, List.any_nil, Entry.isText, Bool.or_false, Bool.or_eq_true,
    decide_eq_true_iff, List.cons.injEq, and_true]
  exact or_congr eq_comm eq_comm

theorem opensNoString_of_isBlank {c : Char} (h : isBlank c = true) : OpensNoString c where
  caseless := caseless_of_isBlank h
  noPrefix p hp hc := by
    have hletters : ['b', 'r', 'f', 'u'].all (isBlank · = false) := by decide
    have hc := List.all_eq_true.mp hletters c (mem_python_prefixes hp hc)
    exact ne_of_isBlank h (of_decide_eq_true hc) rfl
  noQuote := by
    rw [← Bool.not_eq_true, python_isQuote_iff]
    rintro (rfl | rfl) <;> exact absurd h (by decide)

theorem opensNoString_hash : OpensNoString '#' where
  caseless := ⟨by decide, by decide⟩
  noPrefix p hp hc := absurd (mem_python_prefixes hp hc) (by decide)
  noQuote := by
    rw [← Bool.not_eq_true, python_isQuote_iff]
    decide

end Stencil.Dialect

namespace Stencil.Token

open Dialect (python OpensNoString)

variable {before : Option Char} {r s : Text} {x : Char}

/-- Before a character that opens no string, no string begins. -/
theorem quotedString_of_opensNoString (hx : OpensNoString x) (t : Text) :
    quotedString python before (x :: t) = .ok none := by
  -- A lead would begin with a letter of a prefix, which `x` is not in either case.
  have hlead : (lead python before (x :: t)).length = 0 := by
    rw [← Nat.le_zero, ← Nat.not_lt]
    intro hpos
    unfold lead at hpos
    split at hpos
    · exact absurd hpos (Nat.lt_irrefl 0)
    · obtain ⟨p, hp, hlen, hlower, _⟩ := leadAmong_spec hpos
      obtain ⟨n, hn⟩ : ∃ n, p.length = n + 1 := ⟨p.length - 1, by omega⟩
      rw [hn, List.take_succ_cons, Text.lower,
        Text.lowerFrom_cons_of_caseless hx.caseless] at hlower
      apply hx.noPrefix p hp
      rw [← hlower]
      exact List.mem_cons_self
  unfold quotedString
  dsimp only
  rw [hlead, List.drop_zero]
  dsimp only
  rw [if_neg (by rw [hx.noQuote]; decide)]

/-- What opens a string does not reach a character that opens none. -/
theorem lead_lt_of_opensNoString (hx : OpensNoString x) (hr : r ≠ []) :
    (lead python before (r ++ x :: s)).length < r.length := by
  rw [← Nat.not_le]
  intro hle
  obtain ⟨c, body, _, hopen, hreach⟩ := lead_reaches hx.caseless hr hle
  rcases hreach with ⟨p, hp, hmem⟩ | rfl
  · exact hx.noPrefix p hp hmem
  · rcases hopen with hquote | ⟨hraw, _⟩
    · rw [hx.noQuote] at hquote
      exact absurd hquote (by decide)
    · exact absurd hraw (by decide)

/-- The tokens of Python: a comment at a number sign, unless it is a flag of a specifier, and
otherwise a string. -/
theorem at?_python (c : Char) (t : Text) :
    at? python before (c :: t) =
      if c = '#' ∧ isSpecFlag python ['#'] before (c :: t) = false then
        .ok (some ⟨.comment, ((c :: t).takeWhile (· ≠ '\n')).length⟩)
      else ((quotedString python before (c :: t)).mapError .unclosed).map
        (·.map (⟨.string, ·⟩)) := by
  have hmarkers : python.lineComments = [.text ['#']] := rfl
  have hpre : ['#'].isPrefixOf (c :: t) = decide (c = '#') := by
    simp [List.isPrefixOf, eq_comm, BEq.beq]
  have hline : lineComment python before (c :: t) python.lineComments =
      if c = '#' ∧ isSpecFlag python ['#'] before (c :: t) = false then
        .ok (some ((c :: t).takeWhile (· ≠ '\n')).length) else .ok none := by
    rw [hmarkers, lineComment, lineComment, hpre]
    simp only [Bool.and_eq_true, decide_eq_true_iff, Bool.not_eq_true']
  have hblock : blockComment python (c :: t) = .ok none := rfl
  -- Python has neither block comments nor raw strings with hashes nor character literals.
  have hhashed : hashedString python before (c :: t) = .ok none := by
    unfold hashedString
    dsimp only
    split
    · have hraw : python.rawHashes = false := rfl
      rw [if_neg (by rw [hraw, Bool.false_and, Bool.false_and]; decide)]
    · rfl
  have hchar : charLiteral python (c :: t) = .ok none := rfl
  unfold at?
  rw [hline, hblock, hhashed, hchar]
  split
  · rfl
  · cases quotedString python before (c :: t) with
    | error e => rfl
    | ok o => cases o <;> rfl

end Stencil.Token
