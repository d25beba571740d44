import Stencil.Proofs.Script.Literal
import Stencil.Proofs.Text.Cut
import Stencil.Script.Token
import Stencil.Text.Identifier

/-! # Tokens of scripts

  What is read at the start of a text does not depend on what comes much later: a word ends before
  the next character that no word has, and a literal tells its own end.  Each lemma here reads one
  token with any text behind it, from any place of the scan.
-/

namespace Stencil.Script

variable {s : Scan} {t u v rest : Text} {c : Char}

/-! ### Locality of literals -/

theorem closing_append {quote : Char} {size seen n : Nat} {escaped : Bool}
    (h : closing quote size seen escaped t = some n) (rest : Text) :
    closing quote size seen escaped (t ++ rest) = some n := by
  induction t generalizing seen escaped n with
  | nil => cases h
  | cons c t ih =>
    cases escaped with
    | true =>
      obtain ⟨m, hm, rfl⟩ := Option.map_eq_some_iff.mp h
      exact Option.map_eq_some_iff.mpr ⟨m, ih hm, rfl⟩
    | false =>
      rw [List.cons_append]
      rw [closing] at h ⊢
      split at h
      · next hquote =>
        rw [if_pos hquote]
        split at h
        · next hlast => rwa [if_pos hlast]
        · next hlast =>
          obtain ⟨m, hm, rfl⟩ := Option.map_eq_some_iff.mp h
          rw [if_neg hlast]
          exact Option.map_eq_some_iff.mpr ⟨m, ih hm, rfl⟩
      · next hquote =>
        split at h
        · cases h
        · next hfeed =>
          obtain ⟨m, hm, rfl⟩ := Option.map_eq_some_iff.mp h
          rw [if_neg hquote, if_neg hfeed]
          exact Option.map_eq_some_iff.mpr ⟨m, ih hm, rfl⟩

/-- A literal is read with anything behind it but a quote. -/
theorem textLength?_append (hquote : t.head?.any isQuote = true)
    (h : textLength? t = some t.length) (hrest : ∀ x ∈ rest.head?, isQuote x = false) :
    textLength? (t ++ rest) = some t.length := by
  cases t with
  | nil => cases h
  | cons quote t =>
    -- Two more quotes cannot come about by what is appended.
    have hopening : [quote, quote].isPrefixOf (t ++ rest) = [quote, quote].isPrefixOf t := by
      refine Text.isPrefixOf_append_of_not_mem fun x hx hmem => ?_
      have hxquote : x = quote := by simpa using hmem
      have hnot := hrest x hx
      rw [hxquote] at hnot
      exact absurd hquote (by simp [hnot])
    rw [List.cons_append]
    rw [textLength?] at h ⊢
    rw [hopening]
    split at h
    · next hlong =>
      have hle : 2 ≤ t.length := (List.isPrefixOf_iff_prefix.mp hlong).length_le
      obtain ⟨n, hn, hlength⟩ := Option.map_eq_some_iff.mp h
      rw [if_pos hlong, List.drop_append_of_le_length hle]
      exact Option.map_eq_some_iff.mpr ⟨n, closing_append hn rest, hlength⟩
    · next hshort =>
      obtain ⟨n, hn, hlength⟩ := Option.map_eq_some_iff.mp h
      rw [if_neg hshort]
      exact Option.map_eq_some_iff.mpr ⟨n, closing_append hn rest, hlength⟩

/-! ### One token -/

namespace Scan

/-- The scan behind a token that is spelled `u`. -/
def took (s : Scan) (token : Token) (u : Text) : Scan :=
  { s with feed := s.feed + u.count '\n', line := { s.line with tokens := token :: s.line.tokens } }

theorem run_cons (s : Scan) (c : Char) (t : Text) : s.run (c :: t) = s.next c t >>= fun s' => s'.run t := rfl

theorem run_skip (s : Scan) (h : s.skip = u.length) (rest : Text) :
    s.run (u ++ rest) = ({ s with skip := 0, feed := s.feed + u.count '\n' } : Scan).run rest := by
  induction u generalizing s with
  | nil =>
    obtain ⟨skip, depth, feed, line, lines⟩ := s
    obtain rfl : skip = 0 := h
    rfl
  | cons c u ih =>
    have hpos : 0 < s.skip := by
      rw [h]
      exact Nat.zero_lt_succ _
    rw [List.cons_append, run_cons, next, if_pos hpos, Outcome.ok_bind, ih]
    · dsimp only
      congr 2
      by_cases hc : c = '\n'
      · rw [if_pos hc, hc, List.count_cons_self, Nat.add_assoc, Nat.add_comm 1]
      · rw [if_neg hc, List.count_cons_of_ne hc]
    · dsimp only
      rw [h, List.length_cons, Nat.add_sub_cancel]

/-- A token whose first character tells its length is read as a whole. -/
theorem run_push {token : Token} {s : Scan} (hskip : s.skip = 0)
    (h : s.next c (u ++ rest) = .ok (s.push token (u.length + 1))) (hc : c ≠ '\n') :
    s.run (c :: (u ++ rest)) = (s.took token (c :: u)).run rest := by
  rw [run_cons, h, Outcome.ok_bind, run_skip _ (Nat.add_sub_cancel ..)]
  congr 1
  rw [took, push, List.count_cons_of_ne hc]
  congr 1
  exact hskip.symm

/-- The characters of words have no other part in a script. -/
theorem isNameChar_ne {c : Char} (h : isNameChar c = true) :
    c ≠ ' ' ∧ c ≠ '\n' ∧ c ≠ '#' ∧ isQuote c = false := by
  refine ⟨?_, ?_, ?_, ?_⟩
  · rintro rfl
    exact absurd h (by decide)
  · rintro rfl
    exact absurd h (by decide)
  · rintro rfl
    exact absurd h (by decide)
  · by_contra hquote
    simp only [isQuote, Bool.not_eq_false, Bool.or_eq_true, decide_eq_true_eq] at hquote
    rcases hquote with rfl | rfl <;> exact absurd h (by decide)

/-- What may stand behind a word, a number or a literal: a mark. -/
def Ends (rest : Text) : Prop :=
  ∀ x ∈ rest.head?, isNameChar x = false ∧ isQuote x = false ∧ x ≠ '.'

/-- A word or a number, told apart by the first character. -/
theorem run_word (hskip : s.skip = 0) (hu : ∀ x ∈ c :: u, isNameChar x = true)
    (hrest : Ends rest) :
    s.run (c :: u ++ rest) =
      (s.took (.atom (if isAsciiDigit c then .number (c :: u) else .word (c :: u))) (c :: u)).run
        rest := by
  obtain ⟨hblank, hfeed, hremark, hquote⟩ := isNameChar_ne (hu c List.mem_cons_self)
  have htake : (c :: (u ++ rest)).takeWhile isNameChar = c :: u :=
    Text.takeWhile_run_append hu fun x hx => (hrest x hx).1
  have hnext : (c :: (u ++ rest))[(c :: u).length]? = rest.head? := by
    rw [← List.cons_append, List.getElem?_append_right (Nat.le_refl _), Nat.sub_self,
      List.head?_eq_getElem?]
  refine run_push hskip ?_ hfeed
  have hpos : ¬ 0 < s.skip := by omega
  rw [next, if_neg hpos, if_neg hblank, if_neg hfeed, if_neg hremark, if_neg (by simp [hquote]),
    if_pos (hu c List.mem_cons_self), word, htake, hnext]
  -- What follows the word makes it neither a prefix of a text nor the whole part of a number.
  have hends : ¬ (rest.head?.any isQuote || (((c :: (u ++ rest)).head?.any isAsciiDigit) &&
      decide (rest.head? = some '.'))) = true := by
    cases hhead : rest.head? with
    | none => simp
    | some x =>
      obtain ⟨_, hx, hdot⟩ := hrest x hhead
      simp [hx, hdot]
  rw [if_neg hends]
  rfl

/-- A text literal. -/
theorem run_text (hskip : s.skip = 0) (hquote : t.head?.any isQuote = true)
    (h : textLength? (t ++ rest) = some t.length) :
    s.run (t ++ rest) = (s.took (.atom (.text t)) t).run rest := by
  cases t with
  | nil => cases hquote
  | cons c u =>
    have hc : isQuote c = true := by simpa using hquote
    have hne : ∀ x, isQuote x = false → c ≠ x := by
      rintro x hx rfl
      rw [hc] at hx
      cases hx
    have hpos : ¬ 0 < s.skip := by omega
    refine run_push hskip ?_ (hne '\n' rfl)
    rw [next, if_neg hpos, if_neg (hne ' ' rfl), if_neg (hne '\n' rfl), if_neg (hne '#' rfl),
      if_pos hc, ← List.cons_append, h]
    dsimp only
    rw [List.take_left]
    rfl

end Scan

/-! ### Atoms -/

/-- The atom that a text is spelled like, told by its first character. -/
def atomOf (t : Text) : Atom :=
  if t.head?.any isQuote then .text t
  else if t.head?.any isAsciiDigit then .number t
  else .word t

/-- A bare name, an integer or a text literal without a prefix. -/
def IsAtom (t : Text) : Prop :=
  t.isIdentifier = true ∨ (integer? t).isSome = true ∨
    (t.head?.any isQuote = true ∧ textLength? t = some t.length)

instance : DecidablePred IsAtom := fun _ => inferInstanceAs (Decidable (_ ∨ _ ∨ _))

theorem isNameChar_of_isPlainChar (h : isPlainChar c = true) : isNameChar c = true := by
  rw [isNameChar, h, Bool.true_or]

/-- A class of characters is one of characters of words if its ASCII characters are plain ones. -/
theorem isNameChar_of_ascii {p : Char → Bool}
    (hascii : ∀ n < 0x80, p (Char.ofNat n) = true → isPlainChar (Char.ofNat n) = true)
    (h : p c = true) : isNameChar c = true := by
  by_cases hc : 0x80 ≤ c.toNat
  · rw [isNameChar, decide_eq_true hc, Bool.or_true]
  · have hplain := of_ascii (P := fun c => p c = true → isPlainChar c = true) hascii
      (Nat.not_le.mp hc)
    exact isNameChar_of_isPlainChar (hplain h)

/-- The characters of an identifier are those of a word. -/
theorem isNameChar_of_mem_identifier (h : t.isIdentifier = true) :
    ∀ x ∈ t, isNameChar x = true := by
  cases t with
  | nil => cases h
  | cons c u =>
    simp only [Text.isIdentifier, Bool.and_eq_true, List.all_eq_true] at h
    rw [List.forall_mem_cons]
    exact ⟨isNameChar_of_ascii (p := Text.within identifierStartBoundaries) (by decide +kernel) h.1,
      fun x hx => isNameChar_of_ascii (p := Text.within identifierPartBoundaries)
        (by decide +kernel) (h.2 x hx)⟩

theorem isAsciiDigit_eq_false_of_within (h : Text.within identifierStartBoundaries c = true) :
    isAsciiDigit c = false := by
  by_contra hdigit
  rw [Bool.not_eq_false] at hdigit
  have hc : c.toNat < 0x80 := by
    rw [isAsciiDigit, Char.isDigit, Bool.and_eq_true, decide_eq_true_eq, decide_eq_true_eq] at hdigit
    exact Nat.lt_of_le_of_lt hdigit.2 (by decide)
  have hnot := of_ascii (P := fun c => Text.within identifierStartBoundaries c = true →
    isAsciiDigit c = false) (by decide +kernel) hc h
  rw [hdigit] at hnot
  cases hnot

/-- An atom is read as it is spelled. -/
theorem run_atom {s : Scan} (h : IsAtom t) (hskip : s.skip = 0) (hrest : Scan.Ends rest) :
    s.run (t ++ rest) = (s.took (.atom (atomOf t)) t).run rest := by
  -- A name, an integer or a text.
  rcases h with h | h | ⟨hquote, h⟩
  · cases t with
    | nil => cases h
    | cons c u =>
      have hchars := isNameChar_of_mem_identifier h
      have hdigit := isAsciiDigit_eq_false_of_within (Bool.and_eq_true_iff.mp h).1
      have hquote := (Scan.isNameChar_ne (hchars c List.mem_cons_self)).2.2.2
      rw [Scan.run_word hskip hchars hrest]
      simp [atomOf, hquote, hdigit]
  · obtain ⟨n, hn⟩ := Option.isSome_iff_exists.mp h
    obtain ⟨hplain, hdigit⟩ := integer?_spec hn
    cases t with
    | nil => cases hdigit
    | cons c u =>
      have hchars : ∀ x ∈ c :: u, isNameChar x = true := fun x hx =>
        isNameChar_of_isPlainChar (hplain x hx)
      have hquote := (Scan.isNameChar_ne (hchars c List.mem_cons_self)).2.2.2
      rw [Scan.run_word hskip hchars hrest]
      rw [List.head?_cons, Option.any_some] at hdigit
      simp [atomOf, hquote, hdigit]
  · rw [Scan.run_text hskip hquote (textLength?_append hquote h fun x hx => (hrest x hx).2.1),
      atomOf, if_pos hquote]

end Stencil.Script
