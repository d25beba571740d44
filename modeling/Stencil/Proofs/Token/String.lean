import Stencil.Proofs.Text.Casing
import Stencil.Proofs.Token.Literal

/-! # Strings in a text that is cut

  A string is read in three parts: the lead, the quote and the rest up to the quote that closes it.
  The lead is looked for first, and it is no string without a quote behind it. So the lead may reach
  the cut although no token does; the statements on strings that are not there exclude that.
-/

namespace Stencil.Token

variable {d : Dialect} {before : Option Char} {r s : Text}

/-! ### What stands before a string -/

/-- A place before the cut has a character of `r` at it. -/
theorem exists_drop_eq_cons {k : Nat} (h : k < r.length) :
    ∃ c body, r.drop k = c :: body ∧ (r ++ s).drop k = c :: (body ++ s) ∧
      k + 1 + body.length = r.length := by
  have hne : r.drop k ≠ [] := by
    intro e
    have := List.drop_eq_nil_iff.mp e
    omega
  obtain ⟨c, body, hbody⟩ := List.exists_cons_of_ne_nil hne
  refine ⟨c, body, hbody, ?_, ?_⟩
  · rw [List.drop_append_of_le_length (Nat.le_of_lt h), hbody]
    rfl
  · have hlen := congrArg List.length hbody
    rw [List.length_drop, List.length_cons] at hlen
    omega

/-- A lead that ends before the cut is the same for a reader of `r` alone. -/
theorem leadAmong_of_append {entries : List Entry}
    (h : (leadAmong d (r ++ s) entries).length < r.length) :
    leadAmong d r entries = leadAmong d (r ++ s) entries := by
  induction entries with
  | nil => rfl
  | cons e entries ih =>
    cases e with
    | other value => exact ih h
    | text p =>
      -- A prefix shorter than `r` is compared with `r`, and so is the character behind it.
      have same (hp : p.length < r.length) :
          (Text.lower ((r ++ s).take p.length) = p && opensString d ((r ++ s).drop p.length)) =
            (Text.lower (r.take p.length) = p && opensString d (r.drop p.length)) := by
        obtain ⟨c, body, hr, hrs, _⟩ := exists_drop_eq_cons (s := s) hp
        rw [List.take_append_of_le_length (Nat.le_of_lt hp), hr, hrs]
        rfl
      rw [leadAmong] at h
      rw [leadAmong, leadAmong]
      split at h
      · next hopen =>
        rw [if_pos hopen, ← same h, if_pos hopen]
      · next hopen =>
        -- A longer one has nothing behind it in `r`, and opens no string there.
        have hopen' : ¬ (Text.lower (r.take p.length) = p &&
            opensString d (r.drop p.length)) = true := by
          intro e
          have hp : p.length < r.length := by
            rw [← Nat.not_le]
            intro hle
            rw [List.drop_eq_nil_iff.mpr hle] at e
            simp [opensString] at e
          rw [← same hp] at e
          exact hopen e
        rw [if_neg hopen, if_neg hopen']
        exact ih h

theorem lead_of_append (h : (lead d before (r ++ s)).length < r.length) :
    lead d before r = lead d before (r ++ s) := by
  unfold lead at h ⊢
  split
  · rfl
  · next hword =>
    rw [if_neg hword] at h
    exact leadAmong_of_append h

/-- The prefix of a string is one of those that the dialect lists, in some case, and has a string
behind it. -/
theorem leadAmong_spec {entries : List Entry} {t : Text} (h : 0 < (leadAmong d t entries).length) :
    ∃ p, Entry.text p ∈ entries ∧ (leadAmong d t entries).length = p.length ∧
      Text.lower (t.take p.length) = p ∧ opensString d (t.drop p.length) = true := by
  induction entries with
  | nil => simp [leadAmong] at h
  | cons e entries ih =>
    cases e with
    | other value =>
      obtain ⟨p, hp, hspec⟩ := ih h
      exact ⟨p, List.mem_cons_of_mem _ hp, hspec⟩
    | text p =>
      rw [leadAmong] at h ⊢
      split at h
      · next hopen =>
        rw [if_pos hopen]
        rw [Bool.and_eq_true, decide_eq_true_iff] at hopen
        exact ⟨p, List.mem_cons_self, rfl, hopen⟩
      · next hopen =>
        obtain ⟨q, hq, hspec⟩ := ih h
        rw [if_neg hopen]
        exact ⟨q, List.mem_cons_of_mem _ hq, hspec⟩

/-- A text that is longer than the part before a character has that character in it. -/
theorem mem_take_of_lt {x : Char} {n : Nat} (h : r.length < n) : x ∈ (r ++ x :: s).take n := by
  obtain ⟨m, rfl⟩ : ∃ m, n = r.length + (m + 1) := ⟨n - r.length - 1, by omega⟩
  rw [List.take_length_add_append, List.take_succ_cons]
  exact List.mem_append_right _ List.mem_cons_self

/-- A lead that reaches a caseless character opens a string; the character is in one of the prefixes
of the dialect, or it is what follows the lead. -/
theorem lead_reaches {x : Char} (hx : Caseless x) (hr : r ≠ [])
    (h : r.length ≤ (lead d before (r ++ x :: s)).length) :
    ∃ c body, (r ++ x :: s).drop (lead d before (r ++ x :: s)).length = c :: body ∧
      (d.isQuote c = true ∨ d.rawHashes = true ∧ c = 'r') ∧
      ((∃ p, Entry.text p ∈ d.stringPrefixes ∧ x ∈ p) ∨ c = x) := by
  have hpos := List.length_pos_iff.mpr hr
  unfold lead at h ⊢
  split at h
  · dsimp only at h
    omega
  · next hword =>
    rw [if_neg hword]
    obtain ⟨p, hp, hlen, hlower, hopen⟩ := leadAmong_spec (Nat.lt_of_lt_of_le hpos h)
    rw [hlen] at h ⊢
    cases hdrop : (r ++ x :: s).drop p.length with
    | nil =>
      rw [hdrop] at hopen
      simp [opensString] at hopen
    | cons c body =>
      rw [hdrop, opensString, Bool.or_eq_true, Bool.and_eq_true, decide_eq_true_iff] at hopen
      refine ⟨c, body, rfl, hopen, ?_⟩
      -- The lead passes `x`, or ends just before it.
      rcases Nat.lt_or_eq_of_le h with hlt | heq
      · have hmem := Text.mem_lower_of_caseless hx (mem_take_of_lt (s := s) hlt)
        rw [hlower] at hmem
        exact .inl ⟨p, hp, hmem⟩
      · rw [← heq, List.drop_left] at hdrop
        exact .inr (List.cons.inj hdrop).1.symm

/-! ### Strings -/

/-- The lead of a raw string is a part of it. -/
theorem lead_lt_of_hashedString {t : Text} {n : Nat}
    (h : hashedString d before t = .ok (some n)) : (lead d before t).length < n := by
  unfold hashedString at h
  dsimp only at h
  split at h
  · split at h
    · obtain ⟨o, _, ho⟩ := Outcome.map_ok_iff.mp h
      obtain ⟨m, _, rfl⟩ := Option.map_eq_some_iff.mp ho
      omega
    · simp at h
  · simp at h

/-- A raw string ends with a quote or a hash. -/
theorem hashedString_ends {t : Text} {n : Nat} (h : hashedString d before t = .ok (some n)) :
    ∃ u q rest, t = u ++ q :: rest ∧ n = u.length + 1 ∧ d.rawHashes = true ∧
      (q = '"' ∨ q = '#') := by
  unfold hashedString at h
  dsimp only at h
  split at h
  · next c body hbody =>
    split at h
    · next hraw =>
      obtain ⟨o, ho, hmap⟩ := Outcome.map_ok_iff.mp h
      obtain ⟨m, rfl, rfl⟩ := Option.map_eq_some_iff.mp hmap
      obtain ⟨u, q, rest, rfl, rfl, hq⟩ := hashedEnd_ends ho
      have hsplit := List.take_append_drop (lead d before t).length t
      -- The lead fits into the text, since a character follows it.
      have hlen : (t.take (lead d before t).length).length = (lead d before t).length := by
        rw [List.length_take_of_le]
        rw [← Nat.not_lt]
        intro hover
        rw [List.drop_eq_nil_of_le (Nat.le_of_lt hover)] at hbody
        simp at hbody
      rw [hbody] at hsplit
      rw [Bool.and_eq_true, Bool.and_eq_true] at hraw
      refine ⟨t.take (lead d before t).length ++ c :: u, q, rest, ?_, ?_, hraw.1.1, hq⟩
      · exact hsplit.symm.trans (by simp)
      · rw [List.length_append, List.length_cons, hlen]
        omega
    · simp at h
  · simp at h

theorem hashedString_of_append {n : Nat} (h : hashedString d before (r ++ s) = .ok (some n))
    (hn : n ≤ r.length) : hashedString d before r = .ok (some n) := by
  have hlead := Nat.lt_of_lt_of_le (lead_lt_of_hashedString h) hn
  obtain ⟨c, body, hr, hrs, hlen⟩ := exists_drop_eq_cons (s := s) hlead
  unfold hashedString at h ⊢
  rw [lead_of_append hlead]
  simp only [hr, hrs] at h ⊢
  split at h
  · next hraw =>
    obtain ⟨o, ho, hmap⟩ := Outcome.map_ok_iff.mp h
    obtain ⟨m, rfl, rfl⟩ := Option.map_eq_some_iff.mp hmap
    rw [if_pos hraw, hashedEnd_of_append ho (by omega)]
    rfl
  · simp at h

theorem hashedString_none_of_append (hlead : (lead d before (r ++ s)).length < r.length)
    (h : hashedString d before (r ++ s) = .ok none) : hashedString d before r = .ok none := by
  obtain ⟨c, body, hr, hrs, _⟩ := exists_drop_eq_cons (s := s) hlead
  unfold hashedString at h ⊢
  rw [lead_of_append hlead]
  simp only [hr, hrs] at h ⊢
  split at h
  · next hraw =>
    obtain ⟨o, ho, hmap⟩ := Outcome.map_ok_iff.mp h
    obtain rfl := Option.map_eq_none_iff.mp hmap
    rw [if_pos hraw, hashedEnd_none_of_append ho]
    rfl
  · next hraw => rw [if_neg hraw]

theorem quoteOf_ne_nil (d : Dialect) (c : Char) (t : Text) : quoteOf d c t ≠ [] := by
  unfold quoteOf
  split <;> simp

theorem quoteOf_append {c : Char} (h : (quoteOf d c (r ++ s)).length ≤ (c :: r).length) :
    quoteOf d c (r ++ s) = quoteOf d c r := by
  by_cases htriple : [c, c, c].length ≤ (c :: r).length
  · unfold quoteOf
    rw [← List.cons_append, Text.isPrefixOf_append htriple]
  · have hshort : ¬ (d.tripleQuotes && [c, c, c].isPrefixOf (c :: r)) = true := by
      intro e
      rw [Bool.and_eq_true] at e
      exact htriple (List.isPrefixOf_iff_prefix.mp e.2).length_le
    unfold quoteOf at h ⊢
    rw [if_neg hshort]
    split at h
    · exact absurd h htriple
    · next hlong => rw [if_neg hlong]

/-- The lead of a quoted string is a part of it. -/
theorem lead_lt_of_quotedString {t : Text} {n : Nat}
    (h : quotedString d before t = .ok (some n)) : (lead d before t).length < n := by
  unfold quotedString at h
  dsimp only at h
  split at h
  · next c body hbody =>
    split at h
    · obtain ⟨m, _, hm⟩ := Outcome.map_ok_iff.mp h
      have hn := Option.some.inj hm
      have := List.length_pos_iff.mpr (quoteOf_ne_nil d c body)
      omega
    · simp at h
  · simp at h

/-- With a quote behind its lead a string has begun. -/
theorem quotedString_ne_none {t body : Text} {c : Char}
    (hdrop : t.drop (lead d before t).length = c :: body) (hc : d.isQuote c = true) :
    quotedString d before t ≠ .ok none := by
  intro h
  unfold quotedString at h
  simp only [hdrop, hc, if_true] at h
  obtain ⟨m, _, hm⟩ := Outcome.map_ok_iff.mp h
  simp at hm

theorem quotedString_of_append {n : Nat} (h : quotedString d before (r ++ s) = .ok (some n))
    (hn : n ≤ r.length) : quotedString d before r = .ok (some n) := by
  have hlead := Nat.lt_of_lt_of_le (lead_lt_of_quotedString h) hn
  obtain ⟨c, body, hr, hrs, hlen⟩ := exists_drop_eq_cons (s := s) hlead
  unfold quotedString at h ⊢
  rw [lead_of_append hlead]
  simp only [hr, hrs] at h ⊢
  split at h
  · next hquote =>
    obtain ⟨m, hm, hmap⟩ := Outcome.map_ok_iff.mp h
    have hn' := Option.some.inj hmap
    have hfits : (quoteOf d c (body ++ s)).length ≤ (c :: body).length := by
      rw [List.length_cons]
      omega
    have hsame := quoteOf_append hfits
    rw [hsame] at hm hn' hfits
    rw [← List.cons_append, List.drop_append_of_le_length hfits] at hm
    have hbound : m ≤ ((c :: body).drop (quoteOf d c body).length).length := by
      rw [List.length_drop, List.length_cons]
      omega
    rw [if_pos hquote, (quotedEnd_append_iff (quoteOf_ne_nil d c body) hbound).mp hm, ← hn']
    rfl
  · simp at h

theorem quotedString_none_of_append (hlead : (lead d before (r ++ s)).length < r.length)
    (h : quotedString d before (r ++ s) = .ok none) : quotedString d before r = .ok none := by
  obtain ⟨c, body, hr, hrs, _⟩ := exists_drop_eq_cons (s := s) hlead
  unfold quotedString at h ⊢
  rw [lead_of_append hlead]
  simp only [hr, hrs] at h ⊢
  split at h
  · obtain ⟨m, _, hm⟩ := Outcome.map_ok_iff.mp h
    simp at hm
  · next hquote => rw [if_neg hquote]

/-- The quote of a string stands at its opening, and ends with the character that opens it. -/
theorem quoteOf_opens (d : Dialect) (c : Char) (t : Text) :
    ∃ q rest, quoteOf d c t = q ++ [c] ∧ c :: t = quoteOf d c t ++ rest := by
  unfold quoteOf
  split
  · next htriple =>
    rw [Bool.and_eq_true, List.isPrefixOf_iff_prefix] at htriple
    obtain ⟨rest, hrest⟩ := htriple.2
    exact ⟨[c, c], rest, rfl, hrest.symm⟩
  · exact ⟨[], t, rfl, rfl⟩

/-- A string ends with a quote. -/
theorem quotedString_ends {t : Text} {n : Nat} (h : quotedString d before t = .ok (some n)) :
    ∃ u c rest, t = u ++ c :: rest ∧ n = u.length + 1 ∧ d.isQuote c = true := by
  unfold quotedString at h
  dsimp only at h
  split at h
  · next c body hbody =>
    split at h
    · next hc =>
      obtain ⟨m, hm, hmap⟩ := Outcome.map_ok_iff.mp h
      -- The closing quote is the opening one, which ends with the character `c`.
      obtain ⟨q, more, hq, hopen⟩ := quoteOf_opens d c body
      rw [hopen, List.drop_left] at hm
      obtain ⟨u, rest, rfl, rfl⟩ := quotedEnd_ends hm
      have hsplit := List.take_append_drop (lead d before t).length t
      rw [hbody, hopen, hq] at hsplit
      have hlead : (t.take (lead d before t).length).length = (lead d before t).length := by
        rw [List.length_take_of_le]
        rw [← Nat.not_lt]
        intro hover
        rw [List.drop_eq_nil_of_le (Nat.le_of_lt hover)] at hbody
        simp at hbody
      refine ⟨t.take (lead d before t).length ++ (q ++ [c] ++ (u ++ q)), c, rest, ?_, ?_, hc⟩
      · exact hsplit.symm.trans (by simp)
      · have hn := Option.some.inj hmap
        rw [hq] at hn
        simp only [List.length_append, List.length_singleton, hlead] at hn ⊢
        omega
    · simp at h
  · simp at h

/-- The opening quote of a string does not reach a character that is another one. -/
theorem length_quoteOf_le {c x : Char} (hx : x ≠ c) :
    (quoteOf d c (r ++ x :: s)).length ≤ (c :: r).length := by
  unfold quoteOf
  split
  · next htriple =>
    rw [Bool.and_eq_true] at htriple
    rcases r with _ | ⟨a, _ | ⟨b, r⟩⟩
    · simp [List.isPrefixOf, hx.symm] at htriple
    · simp [List.isPrefixOf, hx.symm] at htriple
    · simp
  · simp

/-- A string that goes on past a character which is no quote is not closed before it. -/
theorem quotedString_error_of_append {x : Char} (hx : d.isQuote x = false)
    (hlead : (lead d before (r ++ x :: s)).length < r.length) {n : Nat}
    (h : quotedString d before (r ++ x :: s) = .ok (some n)) (hn : r.length < n) :
    ∃ e, quotedString d before r = .error e := by
  obtain ⟨c, body, hr, hrs, hlen⟩ := exists_drop_eq_cons (s := x :: s) hlead
  unfold quotedString at h ⊢
  rw [lead_of_append hlead]
  simp only [hr, hrs] at h ⊢
  split at h
  · next hquote =>
    obtain ⟨m, hm, hmap⟩ := Outcome.map_ok_iff.mp h
    have hn' := Option.some.inj hmap
    have hne : x ≠ c := by
      rintro rfl
      rw [hquote] at hx
      exact absurd hx (by decide)
    have hfits := length_quoteOf_le (d := d) (r := body) (s := s) hne
    have hsame := quoteOf_append hfits
    rw [hsame] at hm hn' hfits
    rw [← List.cons_append, List.drop_append_of_le_length hfits] at hm
    rw [if_pos hquote]
    rcases hend : quotedEnd (quoteOf d c body) _ _ _ with e | m'
    · exact ⟨e, rfl⟩
    · -- A string closed in `r` would be the string of the longer text.
      exfalso
      have hbound := (length_quotedEnd hend).2
      rw [(quotedEnd_append_iff (quoteOf_ne_nil d c body) hbound).mpr hend] at hm
      obtain rfl := Except.ok.inj hm
      rw [List.length_drop, List.length_cons] at hbound
      rw [List.length_cons] at hfits
      omega
  · simp at h

end Stencil.Token

/-! ### Characters that strings stop at -/

namespace Stencil

/-- A character that is no part of what a string of the dialect begins with. -/
structure Dialect.Idle (d : Dialect) (x : Char) : Prop where
  caseless : Caseless x
  noPrefix : ∀ p, Entry.text p ∈ d.stringPrefixes → x ∉ p
  noQuote : d.isQuote x = false
  noRaw : d.rawHashes = true → x ∉ ['r', '#', '"']

namespace Token

variable {d : Dialect} {before : Option Char} {r s s' : Text}

/-- No string opens at an idle character. -/
theorem opensString_of_idle {x : Char} (hx : d.Idle x) (t : Text) :
    opensString d (x :: t) = false := by
  rw [opensString, hx.noQuote, Bool.false_or, Bool.and_eq_false_iff]
  by_cases hraw : d.rawHashes = true
  · exact .inr (decide_eq_false fun e => hx.noRaw hraw (e ▸ List.mem_cons_self))
  · exact .inl (Bool.eq_false_iff.mpr hraw)

/-- Where no prefix reaches the cut, what comes before a string is told by the piece. -/
theorem leadAmong_append {entries : List Entry}
    (h : ∀ p, Entry.text p ∈ entries → r.length ≤ p.length →
      ¬ (Text.lower ((r ++ s).take p.length) = p ∧
        opensString d ((r ++ s).drop p.length) = true)) :
    leadAmong d (r ++ s) entries = leadAmong d r entries := by
  induction entries with
  | nil => rfl
  | cons e entries ih =>
    have ih := ih fun p hp => h p (List.mem_cons_of_mem _ hp)
    cases e with
    | other value => exact ih
    | text p =>
      have same : (Text.lower ((r ++ s).take p.length) = p && opensString d ((r ++ s).drop p.length)) =
          (Text.lower (r.take p.length) = p && opensString d (r.drop p.length)) := by
        -- A prefix that ends before the cut is told without what follows, and a longer one does not
        -- lead.
        by_cases hp : p.length < r.length
        · obtain ⟨c, body, hr, hrs, _⟩ := exists_drop_eq_cons (s := s) hp
          rw [List.take_append_of_le_length (Nat.le_of_lt hp), hr, hrs]
          rfl
        · have hlong := Nat.le_of_not_lt hp
          have hno := h p List.mem_cons_self hlong
          rw [List.drop_eq_nil_iff.mpr hlong, opensString, Bool.and_false, Bool.and_eq_false_iff,
            decide_eq_false_iff_not, ← Bool.not_eq_true]
          exact Classical.not_and_iff_not_or_not.mp hno
      rw [leadAmong, leadAmong, same, ih]

/-- What comes before a string ends before a text that goes on with an idle character. -/
theorem lead_append (hs : ∀ x ∈ s.head?, d.Idle x) :
    lead d before (r ++ s) = lead d before r := by
  unfold lead
  split
  · rfl
  · apply leadAmong_append
    rintro p hp hlong ⟨hlower, hopen⟩
    cases s with
    | nil =>
      rw [List.append_nil, List.drop_eq_nil_iff.mpr hlong] at hopen
      simp [opensString] at hopen
    | cons x s =>
      have hx := hs x rfl
      rcases Nat.lt_or_eq_of_le hlong with hlt | heq
      · have hmem := Text.mem_lower_of_caseless hx.caseless (mem_take_of_lt (s := s) hlt)
        rw [hlower] at hmem
        exact hx.noPrefix p hp hmem
      · rw [← heq, List.drop_left, opensString_of_idle hx] at hopen
        exact absurd hopen (by decide)

/-- What comes before a string is told by a text that holds a character which is in no prefix. -/
theorem lead_append_of_mem {q : Char} (hq : Caseless q)
    (hno : ∀ p, Entry.text p ∈ d.stringPrefixes → q ∉ p) (hmem : q ∈ r) :
    lead d before (r ++ s) = lead d before r := by
  unfold lead
  split
  · rfl
  · apply leadAmong_append
    rintro p hp hlong ⟨hlower, _⟩
    apply hno p hp
    rw [← hlower]
    apply Text.mem_lower_of_caseless hq
    rw [List.take_append, List.take_of_length_le hlong]
    exact List.mem_append_left _ hmem

/-- What comes before a string has the string after it. -/
theorem lead_lt (hr : r ≠ []) : (lead d before r).length < r.length := by
  have hpos := List.length_pos_iff.mpr hr
  unfold lead
  split
  · exact hpos
  · rw [← Nat.not_le]
    intro hle
    obtain ⟨p, _, hlen, _, hopen⟩ := leadAmong_spec (Nat.lt_of_lt_of_le hpos hle)
    rw [hlen] at hle
    rw [List.drop_eq_nil_iff.mpr hle] at hopen
    simp [opensString] at hopen

/-- At an idle character no string begins. -/
theorem lead_of_idle {x : Char} (hx : d.Idle x) (t : Text) :
    (lead d before (x :: t)).length = 0 := by
  have hsame : lead d before ([] ++ x :: t) = lead d before [] := by
    apply lead_append
    rintro y hy
    obtain rfl := Option.some.inj hy
    exact hx
  rw [List.nil_append] at hsame
  rw [hsame, ← Nat.le_zero, ← Nat.not_lt]
  unfold lead
  split
  · exact Nat.lt_irrefl 0
  · intro hpos
    obtain ⟨p, _, _, _, hopen⟩ := leadAmong_spec hpos
    simp [opensString] at hopen

theorem hashedString_of_idle {x : Char} (hx : d.Idle x) (t : Text) :
    hashedString d before (x :: t) = .ok none := by
  have hopen := opensString_of_idle hx t
  rw [opensString, Bool.or_eq_false_iff] at hopen
  unfold hashedString
  simp only [lead_of_idle hx, List.drop_zero]
  rw [if_neg (by rw [hopen.2, Bool.false_and]; decide)]

theorem quotedString_of_idle {x : Char} (hx : d.Idle x) (t : Text) :
    quotedString d before (x :: t) = .ok none := by
  unfold quotedString
  simp only [lead_of_idle hx, List.drop_zero]
  rw [if_neg (by rw [hx.noQuote]; decide)]

theorem hashedString_append_iff (hr : r ≠ []) (hs : ∀ x ∈ s.head?, d.Idle x) {o : Option Nat}
    (ho : ∀ n ∈ o, n ≤ r.length) :
    hashedString d before (r ++ s) = .ok o ↔ hashedString d before r = .ok o := by
  have hlead : lead d before (r ++ s) = lead d before r := lead_append hs
  have hlt : (lead d before r).length < r.length := lead_lt hr
  constructor
  · intro h
    cases o with
    | none => exact hashedString_none_of_append (hlead ▸ hlt) h
    | some n => exact hashedString_of_append h (ho n rfl)
  · intro h
    obtain ⟨c, body, hdrop, hdrops, _⟩ := exists_drop_eq_cons (s := s) hlt
    unfold hashedString at h ⊢
    rw [hlead]
    simp only [hdrop, hdrops] at h ⊢
    split at h
    · next hraw =>
      obtain ⟨o, hend, hmap⟩ := Outcome.map_ok_iff.mp h
      have hrawd : d.rawHashes = true := by
        rw [Bool.and_eq_true, Bool.and_eq_true] at hraw
        exact hraw.1.1
      -- What is no raw string does not become one, unless a quote or a hash comes next.
      have hend' : hashedEnd (body ++ s) = .ok o := by
        cases o with
        | some n => exact hashedEnd_append hend
        | none =>
          apply hashedEnd_none_append _ hend
          intro x hx
          have hno := (hs x hx).noRaw hrawd
          simp only [List.mem_cons, List.not_mem_nil, or_false, not_or] at hno
          exact hno.2
      rw [if_pos hraw, hend', ← hmap]
      rfl
    · next hraw => rw [if_neg hraw]; exact h

theorem quotedString_append_iff (hr : r ≠ []) (hs : ∀ x ∈ s.head?, d.Idle x) {o : Option Nat}
    (ho : ∀ n ∈ o, n ≤ r.length) :
    quotedString d before (r ++ s) = .ok o ↔ quotedString d before r = .ok o := by
  have hlead : lead d before (r ++ s) = lead d before r := lead_append hs
  have hlt : (lead d before r).length < r.length := lead_lt hr
  constructor
  · intro h
    cases o with
    | none => exact quotedString_none_of_append (hlead ▸ hlt) h
    | some n => exact quotedString_of_append h (ho n rfl)
  · intro h
    obtain ⟨c, body, hdrop, hdrops, hlen⟩ := exists_drop_eq_cons (s := s) hlt
    unfold quotedString at h ⊢
    rw [hlead]
    simp only [hdrop, hdrops] at h ⊢
    split at h
    · next hquote =>
      obtain ⟨m, hm, hmap⟩ := Outcome.map_ok_iff.mp h
      -- An idle character is no quote, so that the opening quote ends before it.
      have hfits : (quoteOf d c (body ++ s)).length ≤ (c :: body).length := by
        cases s with
        | nil =>
          obtain ⟨_, rest, _, hopen⟩ := quoteOf_opens d c body
          have := congrArg List.length hopen
          rw [List.length_append] at this
          rw [List.append_nil]
          omega
        | cons x s =>
          apply length_quoteOf_le
          rintro rfl
          rw [(hs x rfl).noQuote] at hquote
          exact absurd hquote (by decide)
      have hsame := quoteOf_append hfits
      rw [hsame] at hfits
      rw [if_pos hquote, hsame, ← List.cons_append, List.drop_append_of_le_length hfits,
        (quotedEnd_append_iff (quoteOf_ne_nil d c body) (length_quotedEnd hm).2).mpr hm, ← hmap]
      rfl
    · next hquote => rw [if_neg hquote]; exact h

/-! ### Strings before another text -/

/-- A raw string that ends in a text ends there in every longer text. -/
theorem hashedString_append {n : Nat} (hcase : d.rawHashes = true → Caseless '"')
    (hno : d.rawHashes = true → ∀ p, Entry.text p ∈ d.stringPrefixes → '"' ∉ p)
    (h : hashedString d before r = .ok (some n)) : hashedString d before (r ++ s) = .ok (some n) := by
  obtain ⟨_, _, _, hr, _, hraws, _⟩ := hashedString_ends h
  have hne : r ≠ [] := by
    rw [hr]
    simp
  have hlt : (lead d before r).length < r.length := lead_lt hne
  obtain ⟨c, body, hdrop, hdrops, _⟩ := exists_drop_eq_cons (s := s) hlt
  unfold hashedString at h ⊢
  simp only [hdrop] at h
  split at h
  · next hraw =>
    obtain ⟨o, hend, hmap⟩ := Outcome.map_ok_iff.mp h
    obtain ⟨m, rfl, rfl⟩ := Option.map_eq_some_iff.mp hmap
    -- The quote of the string stands in `r`, so that no lead goes past it.
    obtain ⟨rest, hrest⟩ := exists_afterHashes hend
    have hmem : '"' ∈ r := by
      apply List.mem_of_mem_drop (i := (lead d before r).length)
      rw [hdrop]
      refine List.mem_cons_of_mem _ ((List.dropWhile_sublist (· = '#')).subset ?_)
      rw [← afterHashes, hrest]
      exact List.mem_cons_self
    have hlead : lead d before (r ++ s) = lead d before r :=
      lead_append_of_mem (hcase hraws) (hno hraws) hmem
    rw [hlead]
    simp only [hdrops]
    rw [if_pos hraw, hashedEnd_append hend]
    rfl
  · simp at h

/-- A quoted string that ends in `r` ends there before every text that does not make a longer quote
of its opening one. -/
theorem quotedString_swap {n : Nat}
    (hquotes : ∀ q, d.isQuote q = true →
      Caseless q ∧ ∀ p, Entry.text p ∈ d.stringPrefixes → q ∉ p)
    (h : quotedString d before (r ++ s) = .ok (some n)) (hn : n ≤ r.length)
    (hs : ∀ q ∈ s'.head?, d.isQuote q = true → s.head? = some q) :
    ∃ c body, (r ++ s').drop (lead d before (r ++ s')).length = c :: body ∧
      d.isQuote c = true ∧ quotedString d before (r ++ s') = .ok (some n) := by
  have hlt := Nat.lt_of_lt_of_le (lead_lt_of_quotedString h) hn
  have hlead := lead_of_append hlt
  rw [← hlead] at hlt
  obtain ⟨c, body, hdrop, hdrops, hlen⟩ := exists_drop_eq_cons (s := s) hlt
  obtain ⟨_, _, hdrop', hdrops', _⟩ := exists_drop_eq_cons (s := s') hlt
  obtain ⟨rfl, rfl⟩ := List.cons.inj (hdrop.symm.trans hdrop')
  unfold quotedString at h
  rw [← hlead] at h
  simp only [hdrops] at h
  split at h
  · next hquote =>
    obtain ⟨m, hm, hmap⟩ := Outcome.map_ok_iff.mp h
    have hn' := Option.some.inj hmap
    have hmem : c ∈ r := by
      apply List.mem_of_mem_drop (i := (lead d before r).length)
      rw [hdrop]
      exact List.mem_cons_self
    have hlead' : lead d before (r ++ s') = lead d before r :=
      lead_append_of_mem (hquotes c hquote).1 (hquotes c hquote).2 hmem
    have hm' := (length_quotedEnd hm).1
    have hpos := List.length_pos_iff.mpr (quoteOf_ne_nil d c (body ++ s))
    have hfits : (quoteOf d c (body ++ s)).length ≤ (c :: body).length := by
      rw [List.length_cons]
      omega
    have hbody : 1 ≤ body.length := by omega
    have hfits' : (quoteOf d c (body ++ s')).length ≤ (c :: body).length := by
      unfold quoteOf at hn' hm' ⊢
      split
      · next htriple =>
        rw [Bool.and_eq_true] at htriple
        -- With two quotes and no more in `r`, the third one would stand in `s` as well.
        match body with
        | [] => simp at hbody
        | [a] =>
          exfalso
          have hthree : [c, c, c].isPrefixOf (c :: a :: s') = true := htriple.2
          simp only [List.isPrefixOf, Bool.and_eq_true, beq_iff_eq] at hthree
          obtain ⟨_, rfl, hhead⟩ := hthree
          cases s' with
          | nil => simp at hhead
          | cons y s' =>
            obtain rfl : c = y := by simpa [List.isPrefixOf] using hhead
            obtain ⟨v, rfl⟩ := List.head?_eq_some_iff.mp (hs c rfl hquote)
            have hopen : (d.tripleQuotes && [c, c, c].isPrefixOf (c :: ([c] ++ c :: v))) = true := by
              rw [htriple.1]
              simp [List.isPrefixOf]
            rw [if_pos hopen] at hn' hm'
            simp only [List.length_cons, List.length_nil] at hn' hm' hlen
            omega
        | _ :: _ :: _ => simp
      · simp
    refine ⟨c, body ++ s', ?_, hquote, ?_⟩
    · rw [hlead']
      exact hdrops'
    · have hsame := quoteOf_append hfits
      rw [hsame] at hm hn' hfits
      rw [← List.cons_append, List.drop_append_of_le_length hfits] at hm
      have hbound : m ≤ ((c :: body).drop (quoteOf d c body).length).length := by
        rw [List.length_drop, List.length_cons]
        omega
      have hm := (quotedEnd_append_iff (s := s') (quoteOf_ne_nil d c body) hbound).mpr
        ((quotedEnd_append_iff (quoteOf_ne_nil d c body) hbound).mp hm)
      unfold quotedString
      rw [hlead']
      simp only [hdrops']
      rw [if_pos hquote, quoteOf_append hfits', ← List.cons_append,
        List.drop_append_of_le_length hfits, hm, ← hn']
      rfl
  · simp at h

end Token
end Stencil
