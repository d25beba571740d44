import Stencil.Token
import Stencil.Proofs.Outcome
import Stencil.Proofs.Text.Cut

/-! # Ends of literals in a text that is cut

  The three readers that look for the end of a literal: of a quoted string, of a raw string between
  hashes, and of a character literal. Each is local, so that an end within the piece `r` of a text
  `r ++ s` is found in `r` alone.
-/

namespace Stencil.Token

variable {d : Dialect} {r s : Text}

/-! ### Quoted strings -/

section quoted
variable {quote : Text} {escapes multiline : Bool}

/-- What a quoted string does with its next character. -/
theorem quotedEnd_cons (c : Char) (t : Text) :
    quotedEnd quote escapes multiline (c :: t) =
      if quote.isPrefixOf (c :: t) then .ok quote.length
      else if c = '\\' && escapes then
        if t = [] then .error .string
        else (quotedEnd quote escapes multiline (t.drop 1)).map (· + 2)
      else if c = '\n' && !multiline then .error .lineString
      else (quotedEnd quote escapes multiline t).map (· + 1) := by
  cases t <;> rfl

/-- Induction for quoted strings, which go on after one character or, behind a backslash, after
two. -/
theorem quoted_induction {P : Text → Prop} (nil : P [])
    (cons : ∀ c t, P t → P (t.drop 1) → P (c :: t)) (t : Text) : P t := by
  suffices h : P t ∧ P (t.drop 1) from h.1
  induction t with
  | nil => exact ⟨nil, nil⟩
  | cons c t ih => exact ⟨cons c t ih.1 ih.2, ih.1⟩

/-- A quoted string ends with its quote. -/
theorem quotedEnd_ends {t : Text} {n : Nat} (h : quotedEnd quote escapes multiline t = .ok n) :
    ∃ u rest, t = u ++ (quote ++ rest) ∧ n = u.length + quote.length := by
  induction t using quoted_induction generalizing n with
  | nil => simp [quotedEnd] at h
  | cons c t ih ih' =>
    rw [quotedEnd_cons] at h
    split at h
    · next hpre =>
      obtain rfl : quote.length = n := by simpa using h
      obtain ⟨rest, hrest⟩ := List.isPrefixOf_iff_prefix.mp hpre
      exact ⟨[], rest, hrest.symm, (Nat.zero_add _).symm⟩
    · split at h
      · split at h
        · simp at h
        · next hne =>
          obtain ⟨m, hm, rfl⟩ := Outcome.map_ok_iff.mp h
          obtain ⟨x, t, rfl⟩ := List.exists_cons_of_ne_nil hne
          obtain ⟨u, rest, hu, rfl⟩ := ih' hm
          refine ⟨c :: x :: u, rest, ?_, ?_⟩
          · rw [List.cons_append, List.cons_append, ← hu]
            rfl
          · rw [List.length_cons, List.length_cons]
            omega
      · split at h
        · simp at h
        · obtain ⟨m, hm, rfl⟩ := Outcome.map_ok_iff.mp h
          obtain ⟨u, rest, rfl, rfl⟩ := ih hm
          refine ⟨c :: u, rest, rfl, ?_⟩
          rw [List.length_cons]
          omega

theorem length_quotedEnd {t : Text} {n : Nat}
    (h : quotedEnd quote escapes multiline t = .ok n) : quote.length ≤ n ∧ n ≤ t.length := by
  obtain ⟨u, rest, rfl, rfl⟩ := quotedEnd_ends h
  rw [List.length_append, List.length_append]
  omega

/-- A quoted string that ends within `r` ends there in every longer text and for a reader of `r`
alone: where the quote is not found before, it cannot lie across the end of `r`, because the closing
one still follows in `r`. -/
theorem quotedEnd_append_iff (hq : quote ≠ []) {n : Nat} (hn : n ≤ r.length) :
    quotedEnd quote escapes multiline (r ++ s) = .ok n ↔
      quotedEnd quote escapes multiline r = .ok n := by
  have hpos := List.length_pos_iff.mpr hq
  induction r using quoted_induction generalizing n with
  | nil =>
    rw [List.length_nil] at hn
    constructor
    · intro h
      have hquote := (length_quotedEnd h).1
      omega
    · intro h
      simp [quotedEnd] at h
  | cons c r ih ih' =>
    by_cases hlen : quote.length ≤ (c :: r).length
    · rw [List.length_cons] at hn
      rw [List.cons_append, quotedEnd_cons, ← List.cons_append, Text.isPrefixOf_append hlen,
        quotedEnd_cons]
      split
      · rfl
      split
      · by_cases hr : r = []
        · -- The backslash stands last before the cut, so that `n` leaves no room for a quote.
          rw [hr, List.length_nil] at hn
          rw [if_pos hr]
          split
          · rfl
          · constructor
            · intro h
              obtain ⟨m, _, rfl⟩ := Outcome.map_ok_iff.mp h
              omega
            · intro h
              simp at h
        · have hne : r ++ s ≠ [] := fun e => hr (List.append_eq_nil_iff.mp e).1
          have hdrop : (r ++ s).drop 1 = r.drop 1 ++ s :=
            List.drop_append_of_le_length (List.length_pos_iff.mpr hr)
          rw [if_neg hne, if_neg hr, hdrop, Outcome.map_ok_iff, Outcome.map_ok_iff]
          refine exists_congr fun m => and_congr_left fun hm => ih' ?_
          rw [List.length_drop]
          omega
      split
      · rfl
      · rw [Outcome.map_ok_iff, Outcome.map_ok_iff]
        exact exists_congr fun m => and_congr_left fun hm => ih (by omega)
    · -- The quote does not fit into what is left, so that there is no end within it.
      constructor
      · intro h
        have hquote := (length_quotedEnd h).1
        omega
      · intro h
        have hquote := (length_quotedEnd h).1
        omega

end quoted

/-! ### Raw strings with hashes -/

def hashes (t : Text) : Text := t.takeWhile (· = '#')

/-- What stands behind the hashes at the start of a text. -/
def afterHashes (t : Text) : Text := t.dropWhile (· = '#')

theorem length_hashes_add (t : Text) :
    (hashes t).length + (afterHashes t).length = t.length := by
  rw [← List.length_append, hashes, afterHashes, List.takeWhile_append_dropWhile]

theorem hashedEnd_of_quote {t body : Text} (h : afterHashes t = '"' :: body) :
    hashedEnd t =
      match Text.offsetOf? ('"' :: Text.pad '#' (hashes t).length) body with
      | some n => .ok (some ((hashes t).length + 1 + n + (1 + (hashes t).length)))
      | none => .error .rawString := by
  rw [afterHashes, ← Text.drop_takeWhile] at h
  unfold hashedEnd hashes
  dsimp only
  rw [h]
  rfl

theorem hashedEnd_of_no_quote {t : Text} (h : (afterHashes t).head? ≠ some '"') :
    hashedEnd t = .ok none := by
  rw [afterHashes, ← Text.drop_takeWhile] at h
  simp only [hashedEnd]
  split
  · next body hbody => exact absurd (by rw [hbody]; rfl) h
  · rfl

/-- With a quote after the hashes a raw string has begun. -/
theorem hashedEnd_quote_ne_none {t body : Text} (h : afterHashes t = '"' :: body) :
    hashedEnd t ≠ .ok none := by
  rw [hashedEnd_of_quote h]
  split <;> simp

theorem hashedEnd_of_append {n : Nat} (h : hashedEnd (r ++ s) = .ok (some n))
    (hn : n ≤ r.length) : hashedEnd r = .ok (some n) := by
  cases hbody : afterHashes (r ++ s) with
  | nil =>
    rw [hashedEnd_of_no_quote (by rw [hbody]; simp)] at h
    simp at h
  | cons c body =>
    by_cases hc : c = '"'
    · subst hc
      rw [hashedEnd_of_quote hbody] at h
      split at h
      · next m hm =>
        have hn' := Option.some.inj (Except.ok.inj h)
        -- The hashes end before the cut, because the closing quote lies before it.
        have hends : r.dropWhile (· = '#') ≠ [] := by
          intro e
          have : r.length ≤ (hashes (r ++ s)).length := Text.le_length_takeWhile_append e
          omega
        have hhashes : hashes (r ++ s) = hashes r := Text.takeWhile_append_of_ends hends
        have hafter : afterHashes (r ++ s) = afterHashes r ++ s :=
          Text.dropWhile_append_of_ends hends
        obtain ⟨x, rest, hrest⟩ := List.exists_cons_of_ne_nil hends
        have hsplit := length_hashes_add r
        rw [afterHashes, hrest, List.length_cons] at hsplit
        rw [hafter, afterHashes, hrest] at hbody
        obtain ⟨rfl, rfl⟩ := List.cons.inj hbody
        rw [hhashes] at hm hn' h
        have hfits : m + ('"' :: Text.pad '#' (hashes r).length).length ≤ rest.length := by
          rw [Text.pad, List.length_cons, List.length_replicate]
          omega
        rw [hashedEnd_of_quote hrest, Text.offsetOf?_of_append hm hfits]
        exact h
      · simp at h
    · rw [hashedEnd_of_no_quote (by rw [hbody]; simpa using hc)] at h
      simp at h

theorem hashedEnd_none_of_append (h : hashedEnd (r ++ s) = .ok none) :
    hashedEnd r = .ok none := by
  apply hashedEnd_of_no_quote
  intro hquote
  obtain ⟨body, hbody⟩ : ∃ body, afterHashes r = '"' :: body := by
    cases hr : afterHashes r with
    | nil => simp [hr] at hquote
    | cons c body => exact ⟨body, by simpa [hr] using hquote⟩
  -- A quote behind the hashes of `r` would be one in the longer text.
  have hends : r.dropWhile (· = '#') ≠ [] := by
    rw [← afterHashes, hbody]
    exact List.cons_ne_nil _ _
  have hafter : afterHashes (r ++ s) = '"' :: (body ++ s) := by
    rw [afterHashes, Text.dropWhile_append_of_ends hends, ← afterHashes, hbody]
    rfl
  exact hashedEnd_quote_ne_none hafter h

/-- Where a raw string ends, a quote has begun it. -/
theorem exists_afterHashes {t : Text} {n : Nat} (h : hashedEnd t = .ok (some n)) :
    ∃ body, afterHashes t = '"' :: body := by
  have hquote : (afterHashes t).head? = some '"' := by
    apply Classical.byContradiction
    intro hno
    rw [hashedEnd_of_no_quote hno] at h
    simp at h
  exact List.head?_eq_some_iff.mp hquote

/-- A raw string ends with a quote and its hashes. -/
theorem hashedEnd_ends {t : Text} {n : Nat} (h : hashedEnd t = .ok (some n)) :
    ∃ u q rest, t = u ++ q :: rest ∧ n = u.length + 1 ∧ (q = '"' ∨ q = '#') := by
  obtain ⟨body, hbody⟩ := exists_afterHashes h
  have hsplit : t = hashes t ++ '"' :: body := by
    rw [← hbody]
    exact List.takeWhile_append_dropWhile.symm
  rw [hashedEnd_of_quote hbody] at h
  split at h
  · next m hm =>
    obtain ⟨v, rest, rfl, rfl⟩ := Text.offsetOf?_spec hm
    -- The last character is that of the closing quote with its hashes.
    obtain ⟨w, q, hw⟩ : ∃ w q, '"' :: Text.pad '#' (hashes t).length = w ++ [q] :=
      ⟨_, _, (List.dropLast_concat_getLast (List.cons_ne_nil _ _)).symm⟩
    have hq : q ∈ '"' :: Text.pad '#' (hashes t).length := by
      rw [hw]
      exact List.mem_append_right _ List.mem_cons_self
    have hlen := congrArg List.length hw
    rw [Text.pad, List.length_cons, List.length_replicate, List.length_append,
      List.length_singleton] at hlen
    refine ⟨hashes t ++ '"' :: (v ++ w), q, rest, ?_, ?_, ?_⟩
    · rw [hw] at hsplit
      refine hsplit.trans ?_
      simp
    · have hn := Option.some.inj (Except.ok.inj h)
      rw [List.length_append, List.length_cons, List.length_append]
      omega
    · rcases List.mem_cons.mp hq with rfl | hq
      · exact .inl rfl
      · exact .inr (List.eq_of_mem_replicate hq)
  · simp at h

/-- A raw string that ends in a text ends there in every longer text. -/
theorem hashedEnd_append {n : Nat} (h : hashedEnd r = .ok (some n)) :
    hashedEnd (r ++ s) = .ok (some n) := by
  obtain ⟨body, hbody⟩ := exists_afterHashes h
  have hends : r.dropWhile (· = '#') ≠ [] := by
    rw [← afterHashes, hbody]
    exact List.cons_ne_nil _ _
  have hhashes : hashes (r ++ s) = hashes r := Text.takeWhile_append_of_ends hends
  have hafter : afterHashes (r ++ s) = '"' :: (body ++ s) := by
    rw [afterHashes, Text.dropWhile_append_of_ends hends, ← afterHashes, hbody]
    rfl
  rw [hashedEnd_of_quote hbody] at h
  rw [hashedEnd_of_quote hafter, hhashes]
  split at h
  · next m hm => rw [Text.offsetOf?_append hm]; exact h
  · simp at h

/-- Where no raw string has begun, none begins with what follows, unless that is a hash or a
quote. -/
theorem hashedEnd_none_append (hs : ∀ x ∈ s.head?, x ≠ '#' ∧ x ≠ '"')
    (h : hashedEnd r = .ok none) : hashedEnd (r ++ s) = .ok none := by
  apply hashedEnd_of_no_quote
  by_cases hall : r.dropWhile (· = '#') = []
  · -- The hashes go up to the end of `r`, and not further.
    have hstop : s.dropWhile (· = '#') = s := by
      cases s with
      | nil => rfl
      | cons x s => exact List.dropWhile_cons_of_neg (by simpa using (hs x rfl).1)
    rw [afterHashes, List.dropWhile_append, if_pos (by rw [hall]; rfl), hstop]
    exact fun e => (hs _ e).2 rfl
  · obtain ⟨x, rest, hrest⟩ := List.exists_cons_of_ne_nil hall
    rw [afterHashes, Text.dropWhile_append_of_ends hall, hrest]
    intro hquote
    obtain rfl := Option.some.inj hquote
    exact hashedEnd_quote_ne_none hrest h

/-! ### Character literals -/

/-- Whether a character goes on an escape, up to the closing quote. -/
def inEscape (quote c : Char) : Bool := c ≠ quote && c ≠ '\n'

theorem charEnd_escape (quote : Char) (t : Text) :
    charEnd quote ('\\' :: t) =
      if ((t.drop 1).dropWhile (inEscape quote)).head? = some quote then
        .ok (some (1 + 1 + ((t.drop 1).takeWhile (inEscape quote)).length + 1))
      else .error .char := by
  have hdrop : (t.drop 1).drop
      ((t.drop 1).takeWhile (fun c => c ≠ quote && c ≠ '\n')).length =
        (t.drop 1).dropWhile (inEscape quote) :=
    Text.drop_takeWhile (inEscape quote) (t.drop 1)
  simp only [charEnd, hdrop]
  cases (t.drop 1).dropWhile (inEscape quote) with
  | nil => rfl
  | cons c rest =>
    by_cases hc : c = quote
    · rw [if_pos (by rw [hc]; rfl)]
      simp only [hc, if_true]
      rfl
    · rw [if_neg (by simpa using hc)]
      simp only [hc, if_false]

/-- A quote and a backslash open a character literal. -/
theorem charEnd_escape_ne_none (quote : Char) (t : Text) :
    charEnd quote ('\\' :: t) ≠ .ok none := by
  rw [charEnd_escape]
  split <;> simp

/-- A character literal has a character and a quote after the quote that opens it. -/
theorem two_le_charEnd {quote : Char} {t : Text} {n : Nat}
    (h : charEnd quote t = .ok (some n)) : 2 ≤ n := by
  match t with
  | [] => simp [charEnd] at h
  | c :: t =>
    by_cases hc : c = '\\'
    · subst hc
      rw [charEnd_escape] at h
      split at h
      · have := Option.some.inj (Except.ok.inj h)
        omega
      · simp at h
    · match t with
      | [] => simp [charEnd.eq_3 quote c hc] at h
      | c' :: t =>
        rw [charEnd.eq_4 quote c c' _ hc] at h
        have hif := Except.ok.inj h
        split at hif
        · have := Option.some.inj hif
          omega
        · simp at hif

theorem charEnd_of_append {quote : Char} {n : Nat} (h : charEnd quote (r ++ s) = .ok (some n))
    (hn : n ≤ r.length) : charEnd quote r = .ok (some n) := by
  have htwo := two_le_charEnd h
  match r with
  | [] | [_] => simp only [List.length_cons, List.length_nil] at hn; omega
  | c :: c' :: r =>
    by_cases hc : c = '\\'
    · subst hc
      rw [List.cons_append, charEnd_escape] at h
      rw [charEnd_escape]
      split at h
      · next hquote =>
        have hn' := Option.some.inj (Except.ok.inj h)
        have hdrop : (c' :: r ++ s).drop 1 = (c' :: r).drop 1 ++ s := rfl
        -- The escape ends within `r`, because the quote after it does.
        have hends : ((c' :: r).drop 1).dropWhile (inEscape quote) ≠ [] := by
          intro e
          have := Text.le_length_takeWhile_append (s := s) e
          rw [List.length_drop] at this
          rw [hdrop] at hn'
          simp only [List.length_cons] at hn this
          omega
        have hquote' : (((c' :: r).drop 1).dropWhile (inEscape quote)).head? = some quote := by
          rw [hdrop, Text.dropWhile_append_of_ends hends] at hquote
          obtain ⟨x, xs, hx⟩ := List.exists_cons_of_ne_nil hends
          rw [hx] at hquote ⊢
          exact hquote
        rw [hdrop, Text.takeWhile_append_of_ends hends] at h
        rw [if_pos hquote']
        exact h
      · simp at h
    · -- A literal of one character depends on two characters, and both are in `r`.
      rw [List.cons_append, List.cons_append, charEnd.eq_4 quote c c' _ hc] at h
      rw [charEnd.eq_4 quote c c' _ hc]
      exact h

theorem charEnd_none_of_append {quote : Char} (h : charEnd quote (r ++ s) = .ok none) :
    charEnd quote r = .ok none := by
  match r with
  | [] => rfl
  | c :: r =>
    by_cases hc : c = '\\'
    · subst hc
      exact absurd h (charEnd_escape_ne_none quote (r ++ s))
    · match r with
      | [] => exact charEnd.eq_3 quote c hc
      | c' :: r =>
        rw [List.cons_append, List.cons_append, charEnd.eq_4 quote c c' _ hc] at h
        rw [charEnd.eq_4 quote c c' _ hc]
        exact h

/-- A character literal ends with its quote. -/
theorem charEnd_ends {quote : Char} {t : Text} {n : Nat} (h : charEnd quote t = .ok (some n)) :
    ∃ u rest, t = u ++ quote :: rest ∧ n = u.length + 1 := by
  match t with
  | [] => simp [charEnd] at h
  | c :: t =>
    by_cases hc : c = '\\'
    · subst hc
      rw [charEnd_escape] at h
      split at h
      · next hquote =>
        -- The escaped character, what goes on the escape, and the closing quote.
        obtain ⟨rest, hrest⟩ := List.head?_eq_some_iff.mp hquote
        have hsplit := List.takeWhile_append_dropWhile (p := inEscape quote) (l := t.drop 1)
        rw [hrest] at hsplit
        cases t with
        | nil => simp at hsplit
        | cons c t =>
          rw [List.drop_one, List.tail_cons] at hsplit h
          refine ⟨'\\' :: c :: t.takeWhile (inEscape quote), rest, ?_, ?_⟩
          · rw [List.cons_append, List.cons_append, hsplit]
          · have hn := Option.some.inj (Except.ok.inj h)
            rw [List.length_cons, List.length_cons]
            omega
      · simp at h
    · match t with
      | [] => simp [charEnd.eq_3 quote c hc] at h
      | c' :: t =>
        rw [charEnd.eq_4 quote c c' _ hc] at h
        have hif := Except.ok.inj h
        split at hif
        · next hquote =>
          rw [Bool.and_eq_true, decide_eq_true_iff] at hquote
          refine ⟨[c], t, by rw [hquote.1]; rfl, (Option.some.inj hif).symm⟩
        · simp at hif

/-- A character literal that ends in a text ends there in every longer text. -/
theorem charEnd_append {quote : Char} {n : Nat} (h : charEnd quote r = .ok (some n)) :
    charEnd quote (r ++ s) = .ok (some n) := by
  match r with
  | [] => simp [charEnd] at h
  | c :: r =>
    by_cases hc : c = '\\'
    · subst hc
      rw [charEnd_escape] at h
      rw [List.cons_append, charEnd_escape]
      split at h
      · next hquote =>
        obtain ⟨rest, hrest⟩ := List.head?_eq_some_iff.mp hquote
        -- The escape stops at the quote, and so before the text that is appended.
        have hends : (r.drop 1).dropWhile (inEscape quote) ≠ [] := by
          rw [hrest]
          exact List.cons_ne_nil _ _
        have hne : r ≠ [] := by
          rintro rfl
          exact hends rfl
        have hdrop : (r ++ s).drop 1 = r.drop 1 ++ s :=
          List.drop_append_of_le_length (List.length_pos_iff.mpr hne)
        rw [hdrop, Text.dropWhile_append_of_ends hends, Text.takeWhile_append_of_ends hends, hrest]
        exact (if_pos rfl).trans h
      · simp at h
    · match r with
      | [] => simp [charEnd.eq_3 quote c hc] at h
      | c' :: r =>
        rw [charEnd.eq_4 quote c c' _ hc] at h
        rw [List.cons_append, List.cons_append, charEnd.eq_4 quote c c' _ hc]
        exact h

/-! ### Character literals at their quote -/

theorem charLiteral_pos {t : Text} {n : Nat} (h : charLiteral d t = .ok (some n)) : 0 < n := by
  cases t with
  | nil => simp [charLiteral] at h
  | cons c t =>
    rw [charLiteral] at h
    split at h
    · obtain ⟨o, _, ho⟩ := Outcome.map_ok_iff.mp h
      obtain ⟨m, _, rfl⟩ := Option.map_eq_some_iff.mp ho
      omega
    · simp at h

/-- A character literal begins and ends with the quote of the dialect. -/
theorem charLiteral_spec {t : Text} {n : Nat} (h : charLiteral d t = .ok (some n)) :
    ∃ u q rest, t = q :: (u ++ q :: rest) ∧ n = u.length + 2 ∧ d.charQuote = some q := by
  cases t with
  | nil => simp [charLiteral] at h
  | cons c t =>
    rw [charLiteral] at h
    split at h
    · next hquote =>
      obtain ⟨o, ho, hmap⟩ := Outcome.map_ok_iff.mp h
      obtain ⟨m, rfl, rfl⟩ := Option.map_eq_some_iff.mp hmap
      obtain ⟨u, rest, rfl, rfl⟩ := charEnd_ends ho
      exact ⟨u, c, rest, rfl, by omega, hquote⟩
    · simp at h

theorem charLiteral_of_append {n : Nat} (h : charLiteral d (r ++ s) = .ok (some n))
    (hn : n ≤ r.length) : charLiteral d r = .ok (some n) := by
  cases r with
  | nil =>
    have hpos := charLiteral_pos h
    rw [List.length_nil] at hn
    omega
  | cons c r =>
    unfold charLiteral at h ⊢
    rw [List.cons_append] at h
    dsimp only at h ⊢
    split at h
    · next hquote =>
      obtain ⟨o, ho, hmap⟩ := Outcome.map_ok_iff.mp h
      obtain ⟨m, rfl, rfl⟩ := Option.map_eq_some_iff.mp hmap
      rw [List.length_cons] at hn
      rw [if_pos hquote, charEnd_of_append ho (by omega)]
      rfl
    · simp at h

theorem charLiteral_none_of_append (h : charLiteral d (r ++ s) = .ok none) :
    charLiteral d r = .ok none := by
  cases r with
  | nil => rfl
  | cons c r =>
    unfold charLiteral at h ⊢
    rw [List.cons_append] at h
    dsimp only at h ⊢
    split at h
    · next hquote =>
      obtain ⟨o, ho, hmap⟩ := Outcome.map_ok_iff.mp h
      obtain rfl := Option.map_eq_none_iff.mp hmap
      rw [if_pos hquote, charEnd_none_of_append ho]
      rfl
    · next hquote => rw [if_neg hquote]

theorem charLiteral_append {n : Nat} (h : charLiteral d r = .ok (some n)) :
    charLiteral d (r ++ s) = .ok (some n) := by
  cases r with
  | nil => simp [charLiteral] at h
  | cons c r =>
    unfold charLiteral at h ⊢
    rw [List.cons_append]
    dsimp only at h ⊢
    split at h
    · next hquote =>
      obtain ⟨o, ho, hmap⟩ := Outcome.map_ok_iff.mp h
      obtain ⟨m, rfl, rfl⟩ := Option.map_eq_some_iff.mp hmap
      rw [if_pos hquote, charEnd_append ho]
      rfl
    · simp at h

/-- Only the two characters after a quote tell whether it opens a literal of one character. Where it
opens none, it opens none before a text in which they differ only if the second one is no new
quote. -/
theorem charEnd_none_swap {quote x : Char} {u u' : Text} (hx : x ≠ quote)
    (hu : r = [] → u'.head? = some quote → u.head? = some quote)
    (h : charEnd quote (r ++ x :: u) = .ok none) : charEnd quote (r ++ x :: u') = .ok none := by
  match r with
  | [] =>
    have hescape : x ≠ '\\' := by
      rintro rfl
      exact charEnd_escape_ne_none quote u h
    match u' with
    | [] => exact charEnd.eq_3 quote x hescape
    | y' :: u' =>
      rw [List.nil_append, charEnd.eq_4 quote x y' u' hescape]
      split
      · next hquote =>
        -- Then the same quote stands after `x` in the first text.
        rw [Bool.and_eq_true, decide_eq_true_iff] at hquote
        obtain ⟨u, rfl⟩ := List.head?_eq_some_iff.mp (hu rfl (congrArg some hquote.1))
        rw [List.nil_append, charEnd.eq_4 quote x quote u hescape, if_pos (by simp [hquote.2])] at h
        simp at h
      · rfl
  | [c] =>
    have hescape : c ≠ '\\' := by
      rintro rfl
      exact charEnd_escape_ne_none quote (x :: u) h
    show charEnd quote (c :: x :: u') = _
    rw [charEnd.eq_4 quote c x u' hescape, if_neg (by simp [hx])]
  | c :: c' :: r =>
    have hescape : c ≠ '\\' := by
      rintro rfl
      exact charEnd_escape_ne_none quote _ h
    rw [List.cons_append, List.cons_append, charEnd.eq_4 quote c c' _ hescape] at h ⊢
    exact h

theorem charLiteral_none_swap {x : Char} {u u' : Text} (hx : d.charQuote ≠ some x)
    (hu : ∀ q, r = [q] → d.charQuote = some q → u'.head? = some q → u.head? = some q)
    (h : charLiteral d (r ++ x :: u) = .ok none) : charLiteral d (r ++ x :: u') = .ok none := by
  cases r with
  | nil => exact if_neg hx
  | cons c r =>
    rw [List.cons_append, charLiteral] at h ⊢
    split at h
    · next hc =>
      obtain ⟨o, ho, hmap⟩ := Outcome.map_ok_iff.mp h
      obtain rfl := Option.map_eq_none_iff.mp hmap
      have hne : x ≠ c := by
        rintro rfl
        exact hx hc
      rw [if_pos hc, charEnd_none_swap hne (fun hr => hu c (by rw [hr]) hc) ho]
      rfl
    · next hc => rw [if_neg hc]

/-- Where a quote opens no literal, it opens none before a character that is no quote, unless the
next one is. -/
theorem charLiteral_none_append {x : Char} (hx : d.charQuote ≠ some x) (hescape : x ≠ '\\')
    (hs : ∀ q ∈ s.head?, d.charQuote = some q → x = '\n') (h : charLiteral d r = .ok none) :
    charLiteral d (r ++ x :: s) = .ok none := by
  cases r with
  | nil => exact if_neg hx
  | cons c r =>
    rw [List.cons_append]
    rw [charLiteral] at h ⊢
    split at h
    · next hc =>
      obtain ⟨o, ho, hmap⟩ := Outcome.map_ok_iff.mp h
      obtain rfl := Option.map_eq_none_iff.mp hmap
      have hxc : x ≠ c := fun e => hx (e ▸ hc)
      have hend : charEnd c (r ++ x :: s) = .ok none := by
        match r with
        | [] =>
          rw [List.nil_append]
          cases s with
          | nil => exact charEnd.eq_3 c x hescape
          | cons y s =>
            -- A line feed is no literal, even between quotes.
            have hline : ¬ (y = c ∧ x ≠ '\n') := fun hy => hy.2 (hs y rfl (hy.1 ▸ hc))
            rw [charEnd.eq_4 c x y s hescape, if_neg (by simpa using hline)]
        | [a] =>
          have ha : a ≠ '\\' := by
            rintro rfl
            exact charEnd_escape_ne_none c [] ho
          show charEnd c (a :: x :: s) = _
          rw [charEnd.eq_4 c a x _ ha, if_neg (by simp [hxc])]
        | a :: b :: r =>
          have ha : a ≠ '\\' := by
            rintro rfl
            exact charEnd_escape_ne_none c _ ho
          rw [charEnd.eq_4 c a b _ ha] at ho
          rw [List.cons_append, List.cons_append, charEnd.eq_4 c a b _ ha]
          exact ho
      rw [if_pos hc, hend]
      rfl
    · next hc => rw [if_neg hc]

end Stencil.Token
