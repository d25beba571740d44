import Mathlib.Data.List.TakeWhile
import Stencil.Token
import Stencil.Proofs.Text.Cut

/-! # Comments in a text that is cut

  A comment that ends within the piece `r` of a text `r ++ s` is read from `r` alone, and where the
  whole text opens none, neither does `r`. A line comment needs more than that: the test for a
  specifier flag looks further than the comment, so that a cut may make a flag of its marker. This
  is the hypothesis of `lineComment_of_append`.
-/

namespace Stencil.Token

variable {d : Dialect} {before : Option Char} {r s : Text}

/-! ### Comments -/

section comments
variable {opener closer : Text} {nested : Bool}

/-- What a block comment does where no delimiter is being passed. -/
theorem blockEnd_cons (depth : Nat) (c : Char) (t : Text) :
    blockEnd opener closer nested depth 0 (c :: t) =
      if nested && opener.isPrefixOf (c :: t) then
        (blockEnd opener closer nested (depth + 1) (opener.length - 1) t).map (· + 1)
      else if closer.isPrefixOf (c :: t) then
        if depth = 0 then some closer.length
        else (blockEnd opener closer nested (depth - 1) (closer.length - 1) t).map (· + 1)
      else (blockEnd opener closer nested depth 0 t).map (· + 1) := by
  cases depth <;> rfl

/-- What a block comment is still passing belongs to it. -/
theorem skip_le_blockEnd {depth skip n : Nat} {t : Text}
    (h : blockEnd opener closer nested depth skip t = some n) : skip ≤ n := by
  induction t generalizing depth skip n with
  | nil => simp [blockEnd] at h
  | cons c t ih =>
    cases skip with
    | zero => exact Nat.zero_le n
    | succ skip =>
      rw [blockEnd] at h
      obtain ⟨m, hm, rfl⟩ := Option.map_eq_some_iff.mp h
      have := ih hm
      omega

/-- A block comment ends with a delimiter, so that it is not over before it goes on. -/
theorem blockEnd_pos (hc : closer ≠ []) {depth skip n : Nat} {t : Text}
    (h : blockEnd opener closer nested depth skip t = some n) : 0 < n := by
  have hlen := List.length_pos_iff.mpr hc
  have step {o : Option Nat} (ho : o.map (· + 1) = some n) : 0 < n := by
    obtain ⟨m, _, rfl⟩ := Option.map_eq_some_iff.mp ho
    exact Nat.succ_pos m
  cases t with
  | nil => simp [blockEnd] at h
  | cons c t =>
    cases skip with
    | succ skip =>
      rw [blockEnd] at h
      exact step h
    | zero =>
      rw [blockEnd_cons] at h
      split at h
      · exact step h
      split at h
      · split at h
        · obtain rfl : closer.length = n := by simpa using h
          exact hlen
        · exact step h
      · exact step h

/-- A block comment ends with its closing delimiter. -/
theorem blockEnd_ends {depth skip n : Nat} {t : Text}
    (h : blockEnd opener closer nested depth skip t = some n) :
    ∃ u rest, t = u ++ (closer ++ rest) ∧ n = u.length + closer.length := by
  induction t generalizing depth skip n with
  | nil => simp [blockEnd] at h
  | cons c t ih =>
    have step {depth skip : Nat}
        (h : (blockEnd opener closer nested depth skip t).map (· + 1) = some n) :
        ∃ u rest, c :: t = u ++ (closer ++ rest) ∧ n = u.length + closer.length := by
      obtain ⟨m, hm, rfl⟩ := Option.map_eq_some_iff.mp h
      obtain ⟨u, rest, rfl, rfl⟩ := ih hm
      exact ⟨c :: u, rest, rfl, by rw [List.length_cons]; omega⟩
    cases skip with
    | succ skip =>
      rw [blockEnd] at h
      exact step h
    | zero =>
      rw [blockEnd_cons] at h
      split at h
      · exact step h
      split at h
      · next hclose =>
        split at h
        · obtain rfl : closer.length = n := by simpa using h
          obtain ⟨rest, hrest⟩ := List.isPrefixOf_iff_prefix.mp hclose
          exact ⟨[], rest, hrest.symm, (Nat.zero_add _).symm⟩
        · exact step h
      · exact step h

/-- A block comment that ends within `r` ends there for a reader of `r` alone: every delimiter that
it passes lies within `r`. -/
theorem blockEnd_of_append (hc : closer ≠ []) {depth skip n : Nat}
    (h : blockEnd opener closer nested depth skip (r ++ s) = some n) (hn : n ≤ r.length) :
    blockEnd opener closer nested depth skip r = some n := by
  induction r generalizing depth skip n with
  | nil =>
    have hpos := blockEnd_pos hc h
    rw [List.length_nil] at hn
    omega
  | cons c r ih =>
    -- Two ways in which the induction goes on: one character further, and through a delimiter.
    have step {depth skip : Nat}
        (h : (blockEnd opener closer nested depth skip (r ++ s)).map (· + 1) = some n) :
        (blockEnd opener closer nested depth skip r).map (· + 1) = some n := by
      obtain ⟨m, hm, rfl⟩ := Option.map_eq_some_iff.mp h
      rw [List.length_cons] at hn
      rw [ih hm (by omega)]
      rfl
    have fits {depth : Nat} {p : Text}
        (h : (blockEnd opener closer nested depth (p.length - 1) (r ++ s)).map (· + 1) = some n) :
        p.length ≤ (c :: r).length := by
      obtain ⟨m, hm, rfl⟩ := Option.map_eq_some_iff.mp h
      have := skip_le_blockEnd hm
      omega
    cases skip with
    | succ skip =>
      rw [List.cons_append, blockEnd] at h
      rw [blockEnd]
      exact step h
    | zero =>
      rw [List.cons_append, blockEnd_cons, ← List.cons_append] at h
      rw [blockEnd_cons]
      by_cases hopen : (nested && opener.isPrefixOf (c :: r ++ s)) = true
      · rw [if_pos hopen] at h
        rw [Text.isPrefixOf_append (fits h)] at hopen
        rw [if_pos hopen]
        exact step h
      · rw [if_neg hopen] at h
        -- What `r` begins with, the longer text begins with.
        have hopen' : ¬ (nested && opener.isPrefixOf (c :: r)) = true := by
          intro e
          rw [Bool.and_eq_true] at e hopen
          exact hopen ⟨e.1, Text.isPrefixOf_append_right e.2⟩
        rw [if_neg hopen']
        by_cases hclose : closer.isPrefixOf (c :: r ++ s) = true
        · rw [if_pos hclose] at h
          have hlen : closer.length ≤ (c :: r).length := by
            split at h
            · obtain rfl : closer.length = n := by simpa using h
              exact hn
            · exact fits h
          rw [Text.isPrefixOf_append hlen] at hclose
          rw [if_pos hclose]
          split at h
          · next hzero => rw [if_pos hzero]; exact h
          · next hzero => rw [if_neg hzero]; exact step h
        · rw [if_neg hclose] at h
          have hclose' : ¬ closer.isPrefixOf (c :: r) = true := fun e =>
            hclose (Text.isPrefixOf_append_right e)
          rw [if_neg hclose']
          exact step h

/-- A block comment that ends in a text ends there before every other text, if no delimiter can lie
across the end: either the other text does not go on with a character of the delimiters, or the
closing delimiter, with which the comment ends, is as long as the opening one. -/
theorem blockEnd_append
    (hs : (∀ x ∈ s.head?, x ∉ opener ∧ x ∉ closer) ∨ opener.length ≤ closer.length)
    {depth skip n : Nat} (h : blockEnd opener closer nested depth skip r = some n) :
    blockEnd opener closer nested depth skip (r ++ s) = some n := by
  induction r generalizing depth skip n with
  | nil => simp [blockEnd] at h
  | cons c r ih =>
    have step {depth skip : Nat}
        (h : (blockEnd opener closer nested depth skip r).map (· + 1) = some n) :
        (blockEnd opener closer nested depth skip (r ++ s)).map (· + 1) = some n := by
      obtain ⟨m, hm, rfl⟩ := Option.map_eq_some_iff.mp h
      rw [ih hm]
      rfl
    cases skip with
    | succ skip =>
      rw [blockEnd] at h
      rw [List.cons_append, blockEnd]
      exact step h
    | zero =>
      -- Neither delimiter begins before the end and goes on behind it.
      have hsame : opener.isPrefixOf ((c :: r) ++ s) = opener.isPrefixOf (c :: r) ∧
          closer.isPrefixOf ((c :: r) ++ s) = closer.isPrefixOf (c :: r) := by
        rcases hs with hs | hlen
        · exact ⟨Text.isPrefixOf_append_of_not_mem fun x hx => (hs x hx).1,
            Text.isPrefixOf_append_of_not_mem fun x hx => (hs x hx).2⟩
        · obtain ⟨u, rest, hr, _⟩ := blockEnd_ends h
          have hfits : closer.length ≤ (c :: r).length := by
            rw [hr, List.length_append, List.length_append]
            omega
          exact ⟨Text.isPrefixOf_append (Nat.le_trans hlen hfits), Text.isPrefixOf_append hfits⟩
      rw [blockEnd_cons] at h
      rw [List.cons_append, blockEnd_cons, ← List.cons_append, hsame.1, hsame.2]
      split at h
      · next hopen => rw [if_pos hopen]; exact step h
      · next hopen =>
        rw [if_neg hopen]
        split at h
        · next hclose =>
          rw [if_pos hclose]
          split at h
          · next hzero => rw [if_pos hzero]; exact h
          · next hzero => rw [if_neg hzero]; exact step h
        · next hclose => rw [if_neg hclose]; exact step h

end comments

/-- A block comment that ends within `r` is read from `r` alone. -/
theorem blockComment_of_append
    (hd : ∀ opener closer, d.blockComment = some (opener, closer) → closer ≠ []) {n : Nat}
    (h : blockComment d (r ++ s) = .ok (some n)) (hn : n ≤ r.length) :
    blockComment d r = .ok (some n) := by
  unfold blockComment at h ⊢
  cases hb : d.blockComment with
  | none => rw [hb] at h; exact h
  | some delimiters =>
    obtain ⟨opener, closer⟩ := delimiters
    rw [hb] at h
    dsimp only at h ⊢
    split at h
    · next hopen =>
      split at h
      · next m hm =>
        obtain rfl : opener.length + m = n := by simpa using h
        have hlen : opener.length ≤ r.length := by omega
        rw [List.drop_append_of_le_length hlen] at hm
        have hdrop : m ≤ (r.drop opener.length).length := by
          rw [List.length_drop]
          omega
        rw [if_pos (Text.isPrefixOf_of_append hlen hopen),
          blockEnd_of_append (hd opener closer hb) hm hdrop]
      · exact absurd h (by simp)
    · exact absurd h (by simp)

/-- A block comment stands between its delimiters. -/
theorem blockComment_spec {t : Text} {n : Nat} (h : blockComment d t = .ok (some n)) :
    ∃ opener closer u rest, d.blockComment = some (opener, closer) ∧
      t = opener ++ (u ++ (closer ++ rest)) ∧ n = opener.length + (u.length + closer.length) := by
  unfold blockComment at h
  split at h
  · simp at h
  · next opener closer hb =>
    split at h
    · next hopen =>
      obtain ⟨t, rfl⟩ := List.isPrefixOf_iff_prefix.mp hopen
      rw [List.drop_left] at h
      split at h
      · next m hm =>
        obtain ⟨u, rest, rfl, rfl⟩ := blockEnd_ends hm
        exact ⟨opener, closer, u, rest, hb, rfl, (Option.some.inj (Except.ok.inj h)).symm⟩
      · simp at h
    · simp at h

theorem blockComment_le {t : Text} {n : Nat} (h : blockComment d t = .ok (some n)) :
    n ≤ t.length := by
  obtain ⟨opener, closer, u, rest, _, rfl, rfl⟩ := blockComment_spec h
  simp only [List.length_append]
  omega

/-- No block comment opens just if the opening delimiter is missing. -/
theorem blockComment_none_iff {t : Text} :
    blockComment d t = .ok none ↔
      ∀ opener closer, d.blockComment = some (opener, closer) → ¬ opener.isPrefixOf t = true := by
  unfold blockComment
  constructor
  · intro h opener closer hb hopen
    rw [hb] at h
    dsimp only at h
    rw [if_pos hopen] at h
    split at h
    · cases h
    · cases h
  · intro h
    split
    · rfl
    · next opener closer hb => rw [if_neg (h opener closer hb)]

theorem blockComment_none_of_append (h : blockComment d (r ++ s) = .ok none) :
    blockComment d r = .ok none := by
  rw [blockComment_none_iff] at h ⊢
  intro opener closer hb hopen
  exact h opener closer hb (Text.isPrefixOf_append_right hopen)

/-- Before a text that does not go on with a character of its delimiters, a block comment is the
same, and where none opens none does. -/
theorem blockComment_append
    (hs : ∀ x ∈ s.head?, ∀ opener closer, d.blockComment = some (opener, closer) →
      x ∉ opener ∧ x ∉ closer) {o : Option Nat} (h : blockComment d r = .ok o) :
    blockComment d (r ++ s) = .ok o := by
  unfold blockComment at h ⊢
  cases hb : d.blockComment with
  | none => rw [hb] at h; exact h
  | some delimiters =>
    obtain ⟨opener, closer⟩ := delimiters
    rw [hb] at h
    dsimp only at h ⊢
    rw [Text.isPrefixOf_append_of_not_mem fun x hx => (hs x hx opener closer hb).1]
    split at h
    · next hopen =>
      have hlen := (List.isPrefixOf_iff_prefix.mp hopen).length_le
      rw [if_pos hopen, List.drop_append_of_le_length hlen]
      split at h
      · next m hm => rw [blockEnd_append (.inl fun x hx => hs x hx opener closer hb) hm]; exact h
      · exact absurd h (by simp)
    · next hopen => rw [if_neg hopen]; exact h

/-- A block comment is the same before every other text, in a dialect whose closing delimiter is as
long as the opening one. -/
theorem blockComment_some_append
    (hd : ∀ opener closer, d.blockComment = some (opener, closer) → opener.length ≤ closer.length)
    {n : Nat} (h : blockComment d r = .ok (some n)) : blockComment d (r ++ s) = .ok (some n) := by
  unfold blockComment at h ⊢
  cases hb : d.blockComment with
  | none =>
    rw [hb] at h
    exact absurd h (by simp)
  | some delimiters =>
    obtain ⟨opener, closer⟩ := delimiters
    rw [hb] at h
    dsimp only at h ⊢
    split at h
    · next hopen =>
      have hlen := (List.isPrefixOf_iff_prefix.mp hopen).length_le
      rw [if_pos (Text.isPrefixOf_append_right hopen), List.drop_append_of_le_length hlen]
      split at h
      · next m hm =>
        rw [blockEnd_append (.inr (hd opener closer hb)) hm]
        exact h
      · exact absurd h (by simp)
    · exact absurd h (by simp)

/-! ### Specifier flags and line comments -/

/-- Whether a character goes on the run of a specifier flag. -/
def runsOn (c : Char) : Bool := !(isBlank c || c = '{' || c = '}')

theorem isBlank_of_runsOn {c : Char} (h : runsOn c = true) : isBlank c = false := by
  unfold runsOn at h
  rw [Bool.not_eq_true', Bool.or_eq_false_iff, Bool.or_eq_false_iff] at h
  exact h.1.1

theorem not_mem_of_runsOn {u : Text} (h : u.all runsOn = true) : '\n' ∉ u := by
  intro hmem
  have hfeed := isBlank_of_runsOn (List.all_eq_true.mp h _ hmem)
  exact absurd hfeed (by decide)

/-- Whether a text, from a comment marker on, runs without blank and brace to the brace that closes
the block or to its own end. -/
def reachesBrace (t : Text) : Bool :=
  match (t.dropWhile runsOn).dropWhile isBlank with
  | [] => true
  | c :: _ => c = '}'

theorem isSpecFlag_eq (d : Dialect) (marker : Text) (before : Option Char) (t : Text) :
    isSpecFlag d marker before t =
      (d.specMarkers.contains marker && before == some ':' &&
        reachesBrace (t.drop marker.length)) := rfl

/-- What follows the run of a specifier flag in a longer text. -/
theorem dropWhile_run_append (t u : Text) :
    ((t ++ u).dropWhile runsOn).dropWhile isBlank =
      if t.dropWhile runsOn = [] then (u.dropWhile runsOn).dropWhile isBlank
      else if (t.dropWhile runsOn).dropWhile isBlank = [] then u.dropWhile isBlank
      else (t.dropWhile runsOn).dropWhile isBlank ++ u := by
  simp only [List.dropWhile_append, List.isEmpty_iff]
  split
  · rfl
  · simp only [List.dropWhile_append, List.isEmpty_iff]

/-- A flag of a longer text is a flag of the part that holds the marker: either its run ends within
the part, or the part ends before it. -/
theorem reachesBrace_of_append {t u : Text} (h : reachesBrace (t ++ u) = true) :
    reachesBrace t = true := by
  unfold reachesBrace at h ⊢
  rw [dropWhile_run_append] at h
  cases hrun : (t.dropWhile runsOn).dropWhile isBlank with
  | nil => rfl
  | cons c rest =>
    -- The run ends within `t`, at a character that the longer text has there too.
    have hne : t.dropWhile runsOn ≠ [] := by
      intro e
      rw [e] at hrun
      simp at hrun
    rw [if_neg hne, hrun, if_neg (List.cons_ne_nil c rest)] at h
    exact h

/-- A brace after the part keeps its flags. -/
theorem reachesBrace_append_brace {t u : Text} (h : reachesBrace t = true) :
    reachesBrace (t ++ '}' :: u) = true := by
  have hrun : ('}' :: u).dropWhile runsOn = '}' :: u := rfl
  have hblank : ('}' :: u).dropWhile isBlank = '}' :: u := rfl
  unfold reachesBrace at h ⊢
  rw [dropWhile_run_append, hrun, hblank]
  -- With the brace there is always something behind the run: the brace, or what stopped the run.
  split
  · next hempty =>
    split at hempty
    · simp at hempty
    · split at hempty <;> simp at hempty
  · next c rest hcons =>
    split at hcons
    · obtain ⟨rfl, _⟩ := List.cons.inj hcons
      rfl
    · split at hcons
      · obtain ⟨rfl, _⟩ := List.cons.inj hcons
        rfl
      · next hne =>
        obtain ⟨x, xs, hx⟩ := List.exists_cons_of_ne_nil hne
        rw [hx] at h hcons
        obtain ⟨rfl, _⟩ := List.cons.inj hcons
        exact h

theorem isSpecFlag_of_append {marker : Text} (hlen : marker.length ≤ r.length)
    (h : isSpecFlag d marker before (r ++ s) = true) : isSpecFlag d marker before r = true := by
  rw [isSpecFlag_eq, Bool.and_eq_true] at h ⊢
  rw [List.drop_append_of_le_length hlen] at h
  exact ⟨h.1, reachesBrace_of_append h.2⟩

theorem isSpecFlag_append_brace {marker u : Text} (hlen : marker.length ≤ r.length)
    (h : isSpecFlag d marker before r = true) :
    isSpecFlag d marker before (r ++ '}' :: u) = true := by
  rw [isSpecFlag_eq, Bool.and_eq_true] at h ⊢
  rw [List.drop_append_of_le_length hlen]
  exact ⟨h.1, reachesBrace_append_brace h.2⟩

/-- A marker that opens a comment of the part opens one of the whole text: a flag of the whole is a
flag of the part. -/
theorem opens_append {marker : Text}
    (h : (marker.isPrefixOf r && !isSpecFlag d marker before r) = true) :
    (marker.isPrefixOf (r ++ s) && !isSpecFlag d marker before (r ++ s)) = true := by
  simp only [Bool.and_eq_true, Bool.not_eq_true'] at h ⊢
  have hlen := (List.isPrefixOf_iff_prefix.mp h.1).length_le
  refine ⟨Text.isPrefixOf_append_right h.1, ?_⟩
  rw [← Bool.not_eq_true]
  intro hflag
  rw [isSpecFlag_of_append hlen hflag] at h
  exact absurd h.2 (by simp)

/-- No line comment opens just if all markers are texts and each of them is missing or a flag. -/
theorem lineComment_none_iff {markers : List Entry} {t : Text} :
    lineComment d before t markers = .ok none ↔
      ∀ e ∈ markers, ∃ m, e = .text m ∧ ¬ (m.isPrefixOf t && !isSpecFlag d m before t) = true := by
  induction markers with
  | nil => simp [lineComment]
  | cons e markers ih =>
    rw [List.forall_mem_cons, ← ih]
    cases e with
    | other value => simp [lineComment]
    | text marker =>
      have hmarker : (∃ m, Entry.text marker = .text m ∧
          ¬ (m.isPrefixOf t && !isSpecFlag d m before t) = true) ↔
          ¬ (marker.isPrefixOf t && !isSpecFlag d marker before t) = true := by
        constructor
        · intro h
          obtain ⟨m, hm, hpass⟩ := h
          obtain rfl := Entry.text.inj hm
          exact hpass
        · intro hpass
          exact ⟨marker, rfl, hpass⟩
      rw [lineComment, hmarker]
      split
      · next hopen => exact ⟨nofun, fun h => absurd hopen h.1⟩
      · next hopen => exact (and_iff_right hopen).symm

theorem lineComment_none_of_append {markers : List Entry}
    (h : lineComment d before (r ++ s) markers = .ok none) :
    lineComment d before r markers = .ok none := by
  rw [lineComment_none_iff] at h ⊢
  intro e he
  obtain ⟨m, rfl, hpass⟩ := h e he
  -- A marker that opens no comment of the whole opens none of the part.
  exact ⟨m, rfl, fun hopen => hpass (opens_append hopen)⟩

/-- A line comment goes on up to the end of its line. -/
theorem lineComment_length {markers : List Entry} {t : Text} {n : Nat}
    (h : lineComment d before t markers = .ok (some n)) :
    n = (t.takeWhile (· ≠ '\n')).length := by
  induction markers with
  | nil => simp [lineComment] at h
  | cons e markers ih =>
    cases e with
    | other value => simp [lineComment] at h
    | text marker =>
      rw [lineComment] at h
      split at h
      · exact (Option.some.inj (Except.ok.inj h)).symm
      · exact ih h

/-- A line comment goes up to the end of its line. -/
theorem lineComment_ends {markers : List Entry}
    (h : lineComment d before (r ++ s) markers = .ok (some r.length)) :
    '\n' ∉ r ∧ ∀ y ∈ s.head?, y = '\n' := by
  have hsplit : r ++ s = (r ++ s).takeWhile (· ≠ '\n') ++ (r ++ s).dropWhile (· ≠ '\n') :=
    List.takeWhile_append_dropWhile.symm
  obtain ⟨hr, hs⟩ := List.append_inj hsplit (lineComment_length h)
  constructor
  · intro hmem
    rw [hr] at hmem
    have := List.all_eq_true.mp (List.all_takeWhile (p := (· ≠ '\n'))) _ hmem
    simp at this
  · intro y hy
    have hhead := List.head?_dropWhile_not (· ≠ '\n') (r ++ s)
    rw [← hs, hy] at hhead
    simpa using hhead

/-- A line comment begins with a marker that is no flag. -/
theorem exists_marker {markers : List Entry} {t : Text} {n : Nat}
    (h : lineComment d before t markers = .ok (some n)) :
    ∃ m, Entry.text m ∈ markers ∧ m.isPrefixOf t = true ∧ isSpecFlag d m before t = false := by
  induction markers with
  | nil => simp [lineComment] at h
  | cons e markers ih =>
    cases e with
    | other value => simp [lineComment] at h
    | text marker =>
      rw [lineComment] at h
      split at h
      · next hopen =>
        rw [Bool.and_eq_true, Bool.not_eq_true'] at hopen
        exact ⟨marker, List.mem_cons_self, hopen⟩
      · obtain ⟨m, hm, hspec⟩ := ih h
        exact ⟨m, List.mem_cons_of_mem _ hm, hspec⟩

/-- A line comment that ends within `r` is read from `r` alone, where its marker lies within `r` and
is no specifier flag of it. -/
theorem lineComment_of_append {markers : List Entry} {n : Nat}
    (hmarker : ∀ m, Entry.text m ∈ markers → m.isPrefixOf (r ++ s) = true →
      isSpecFlag d m before (r ++ s) = false →
      m.length ≤ r.length ∧ isSpecFlag d m before r = false)
    (h : lineComment d before (r ++ s) markers = .ok (some n)) (hn : n ≤ r.length) :
    lineComment d before r markers = .ok (some n) := by
  induction markers with
  | nil => simp [lineComment] at h
  | cons e markers ih =>
    cases e with
    | other value => simp [lineComment] at h
    | text marker =>
      rw [lineComment] at h ⊢
      split at h
      · next hopen =>
        simp only [Bool.and_eq_true, Bool.not_eq_true'] at hopen
        obtain ⟨hlen, hflag⟩ := hmarker marker List.mem_cons_self hopen.1 hopen.2
        have hpre := Text.isPrefixOf_of_append hlen hopen.1
        have hlength : ((r ++ s).takeWhile (· ≠ '\n')).length = n := by simpa using h
        -- A comment over all of `r` and more would not end within `r`.
        have hline : (r.takeWhile (· ≠ '\n')).length = n := by
          rw [List.takeWhile_append] at hlength
          split at hlength
          · next hall =>
            rw [List.length_append] at hlength
            omega
          · exact hlength
        rw [hpre, hflag, hline]
        rfl
      · next hopen =>
        rw [if_neg fun e => hopen (opens_append e)]
        exact ih (fun m hm => hmarker m (List.mem_cons_of_mem _ hm)) h

/-! ### What comes after a comment -/

/-- Behind a line end, what stops the run of a flag is found before a character that is no blank,
so that what follows that character does not matter. -/
theorem reachesBrace_swap {x : Char} (hfeed : '\n' ∈ r) (hx : isBlank x = false) (u u' : Text) :
    reachesBrace (r ++ x :: u) = reachesBrace (r ++ x :: u') := by
  have hends : r.dropWhile runsOn ≠ [] := by
    intro e
    have := List.dropWhile_eq_nil_iff.mp e '\n' hfeed
    exact absurd this (by decide)
  have hstop (v : Text) : (x :: v).dropWhile isBlank = x :: v :=
    List.dropWhile_cons_of_neg (by simp [hx])
  unfold reachesBrace
  rw [dropWhile_run_append, dropWhile_run_append, if_neg hends, if_neg hends, hstop, hstop]
  cases (r.dropWhile runsOn).dropWhile isBlank <;> rfl

variable {x : Char} {u u' : Text}

/-- What follows a character that is in no comment marker does not matter for a line comment that
ends before it, and where none opens, none opens then, unless a flag is none any more. -/
theorem lineComment_swap {markers : List Entry} {o : Option Nat}
    (hmarkers : ∀ m, Entry.text m ∈ markers → '\n' ∉ m ∧ x ∉ m) (hx : isBlank x = false)
    (hflag : ∀ m, Entry.text m ∈ markers → m.isPrefixOf r = true →
      isSpecFlag d m before (r ++ x :: u) = true → isSpecFlag d m before (r ++ x :: u') = true)
    (h : lineComment d before (r ++ x :: u) markers = .ok o) (ho : ∀ n ∈ o, n ≤ r.length) :
    lineComment d before (r ++ x :: u') markers = .ok o := by
  have hfeedx : x ≠ '\n' := by
    rintro rfl
    exact absurd hx (by decide)
  induction markers with
  | nil => exact h
  | cons e markers ih =>
    cases e with
    | other value => simp [lineComment] at h
    | text m =>
      obtain ⟨hm, hmx⟩ := hmarkers m List.mem_cons_self
      have ih := ih (fun m hm => hmarkers m (List.mem_cons_of_mem _ hm))
        (fun m hm => hflag m (List.mem_cons_of_mem _ hm))
      have hpre (v : Text) : m.isPrefixOf (r ++ x :: v) = m.isPrefixOf r :=
        Text.isPrefixOf_append_of_not_mem fun y hy => by
          obtain rfl := Option.some.inj hy
          exact hmx
      rw [lineComment, hpre] at h ⊢
      split at h
      · next hopen =>
        -- The comment ends at a line end in `r`, and the marker comes before it.
        rw [Bool.and_eq_true, Bool.not_eq_true'] at hopen
        have hlength : ((r ++ x :: u).takeWhile (· ≠ '\n')).length ≤ r.length := by
          rw [Except.ok.injEq] at h
          exact ho _ h.symm
        have hends : r.dropWhile (· ≠ '\n') ≠ [] := by
          intro hall
          have hpass : (x :: u).takeWhile (· ≠ '\n') = x :: u.takeWhile (· ≠ '\n') :=
            List.takeWhile_cons_of_pos (by simpa using hfeedx)
          rw [List.takeWhile_append, if_pos (Text.length_takeWhile_of_dropWhile_nil hall), hpass,
            List.length_append, List.length_cons] at hlength
          omega
        have hlen := (List.isPrefixOf_iff_prefix.mp hopen.1).length_le
        obtain ⟨rest, rfl⟩ := List.isPrefixOf_iff_prefix.mp hopen.1
        have hfeed : '\n' ∈ rest := by
          apply Classical.byContradiction
          intro hno
          apply hends
          refine List.dropWhile_eq_nil_iff.mpr fun y hy => ?_
          rw [decide_eq_true_iff]
          rintro rfl
          exact (List.mem_append.mp hy).elim hm hno
        have hflag' : isSpecFlag d m before (m ++ rest ++ x :: u') = false := by
          rw [← hopen.2, isSpecFlag_eq, isSpecFlag_eq, List.append_assoc, List.append_assoc,
            List.drop_left, List.drop_left, reachesBrace_swap hfeed hx u u']
        rw [hopen.1, hflag', Text.takeWhile_append_of_ends hends]
        rw [Text.takeWhile_append_of_ends hends] at h
        exact h
      · next hopen =>
        have hopen' : ¬ (m.isPrefixOf r && !isSpecFlag d m before (r ++ x :: u')) = true := by
          rw [Bool.and_eq_true, Bool.not_eq_true', not_and, Bool.not_eq_false] at hopen ⊢
          intro hpre
          exact hflag m List.mem_cons_self hpre (hopen hpre)
        rw [if_neg hopen']
        exact ih h

end Stencil.Token
