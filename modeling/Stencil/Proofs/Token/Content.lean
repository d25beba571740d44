import Stencil.Proofs.Dialect.Builtin

/-! # Contents of strings

  A string of Rust code may hold other characters between its delimiters and is the same token, as
  long as quotes, backslashes and line feeds stay where they are and no hash is new.

  * **`Differ`**: a text of the same length that differs only where, and as, it is allowed.
  * **The shape of a string**: everything up to the first quote is what it opens with, and tells
    where it ends (`quotedString_spec`, `hashedString_spec`).
  * **`at?_string_differ`**: the token of a string with other contents.
  * **`at?_behind_quote`, `at?_comment_swap`**: what no token and what a comment is before a text
    that is changed behind a quote.
-/

namespace Stencil

open Dialect (rust)

/-! ### Texts that differ -/

/-- `t'` is as long as `t` and differs from it only where, and as, it is allowed. -/
structure Differ (allowed : Nat → Char → Char → Prop) (t t' : Text) : Prop where
  length : t'.length = t.length
  changed : ∀ {k c c'}, t[k]? = some c → t'[k]? = some c' → c ≠ c' → allowed k c c'

namespace Differ

variable {P Q : Nat → Char → Char → Prop} {c : Char} {r s t t' v : Text}

theorem mono (h : Differ P t t') (hsub : ∀ k c c', t[k]? = some c → P k c c' → Q k c c') :
    Differ Q t t' :=
  ⟨h.length, fun hc hc' hne => hsub _ _ _ hc (h.changed hc hc' hne)⟩

/-- Where nothing is allowed, the texts have the same character. -/
theorem getElem?_eq (h : Differ P t t') {k : Nat} (hnone : ∀ c c', k < t.length → ¬ P k c c') :
    t'[k]? = t[k]? := by
  by_cases hk : k < t.length
  · have hk' : k < t'.length := h.length ▸ hk
    have hc := List.getElem?_eq_getElem hk
    have hc' := List.getElem?_eq_getElem hk'
    rw [hc, hc', Option.some.injEq, eq_comm]
    apply Classical.byContradiction
    intro hne
    exact hnone _ _ hk (h.changed hc hc' hne)
  · have hk' : t'.length ≤ k := h.length ▸ Nat.not_lt.mp hk
    rw [List.getElem?_eq_none hk', List.getElem?_eq_none (Nat.not_lt.mp hk)]

/-- Where nothing is allowed anywhere, the texts are the same. -/
theorem eq (h : Differ P t t') (hnone : ∀ k c c', k < t.length → ¬ P k c c') : t' = t :=
  List.ext_getElem? fun k => h.getElem?_eq (hnone k)

/-- Two parts of a text differ each for itself. -/
theorem append (h : Differ P (r ++ s) v) :
    ∃ r' s', v = r' ++ s' ∧ Differ P r r' ∧ Differ (fun k => P (k + r.length)) s s' := by
  have hlen := h.length
  rw [List.length_append] at hlen
  refine ⟨v.take r.length, v.drop r.length, (List.take_append_drop _ _).symm, ⟨?_, ?_⟩, ⟨?_, ?_⟩⟩
  · rw [List.length_take]
    omega
  · intro k c c' hc hc' hne
    have hk := (List.getElem?_eq_some_iff.mp hc).1
    rw [List.getElem?_take_of_lt hk] at hc'
    exact h.changed (by rwa [List.getElem?_append_left hk]) hc' hne
  · rw [List.length_drop]
    omega
  · intro k c c' hc hc' hne
    rw [List.getElem?_drop, Nat.add_comm] at hc'
    refine h.changed ?_ hc' hne
    rwa [List.getElem?_append_right (Nat.le_add_left _ _), Nat.add_sub_cancel]

theorem cons (h : Differ P (c :: t) v) :
    ∃ c' t', v = c' :: t' ∧ (c ≠ c' → P 0 c c') ∧ Differ (fun k => P (k + 1)) t t' := by
  obtain ⟨r', t', rfl, hr, ht⟩ := append (r := [c]) h
  obtain ⟨c', rfl⟩ := List.length_eq_one_iff.mp hr.length
  exact ⟨c', t', rfl, hr.changed rfl rfl, ht⟩

end Differ

/-! ### What may be replaced -/

/-- A character of a string may be replaced by another one if neither of them is a quote, a
backslash or a line feed, and the other one is no hash. -/
def Replaceable (c c' : Char) : Prop :=
  c ∉ ['"', '\\', '\n'] ∧ c' ∉ ['"', '\\', '\n', '#']

instance (c c' : Char) : Decidable (Replaceable c c') :=
  inferInstanceAs (Decidable (_ ∧ _))

def Token.opening (u : Text) : Text := u.takeWhile (· ≠ '"') ++ ['"']

def Token.closing (u : Text) : Text := '"' :: (u.takeWhile (· ≠ '"')).filter (· = '#')

/-- `u'` is the string `u` with other characters between its delimiters. -/
def Token.OtherContent (u u' : Text) : Prop :=
  Differ (fun k c c' => Replaceable c c' ∧ (opening u).length ≤ k ∧
    k + (closing u).length < u.length) u u'

namespace Token

variable {before : Option Char} {p q r s s' t u u' w w' x x' : Text} {n : Nat}

/-! ### Ends of strings -/

theorem eq_of_mem_kept {c c' : Char} (hP : c ≠ c' → Replaceable c c')
    (hkept : c ∈ ['"', '\\', '\n'] ∨ c' ∈ ['"', '\\', '\n', '#']) : c = c' := by
  apply Classical.byContradiction
  intro hne
  rcases hkept with hc | hc'
  · exact (hP hne).1 hc
  · exact (hP hne).2 hc'

theorem quote_isPrefixOf_iff {c : Char} {t : Text} :
    List.isPrefixOf ['"'] (c :: t) = true ↔ c = '"' := by
  rw [List.isPrefixOf, Bool.and_eq_true, beq_iff_eq, eq_comm]
  simp [List.isPrefixOf]

/-- Other contents do not end a quoted string elsewhere. A backslash stays, and what it takes along
may be any character. -/
theorem quotedEnd_differ {escapes : Bool} (hx : Differ (fun _ => Replaceable) x x')
    (h : quotedEnd ['"'] escapes true (x ++ '"' :: w) = .ok (x.length + 1)) :
    quotedEnd ['"'] escapes true (x' ++ '"' :: w) = .ok (x.length + 1) := by
  induction x using quoted_induction generalizing x' with
  | nil =>
    obtain rfl := List.eq_nil_of_length_eq_zero hx.length
    exact h
  | cons c x ih ih' =>
    obtain ⟨c', x', rfl, hc, hx⟩ := hx.cons
    rw [List.cons_append, quotedEnd_cons] at h ⊢
    have hquote : c ≠ '"' := by
      rintro rfl
      rw [if_pos (quote_isPrefixOf_iff.mpr rfl)] at h
      simp at h
    have hquote' : c' ≠ '"' := by
      rintro rfl
      exact hquote (eq_of_mem_kept hc (.inr (by decide)))
    rw [if_neg (by rwa [quote_isPrefixOf_iff])] at h ⊢
    by_cases hescape : (c = '\\' && escapes) = true
    · have hsame : c = c' := by
        rw [Bool.and_eq_true, decide_eq_true_iff] at hescape
        exact eq_of_mem_kept hc (.inl (by rw [hescape.1]; decide))
      have hne (v : Text) : v ++ '"' :: w ≠ [] := by simp
      rw [if_pos hescape, if_neg (hne x)] at h
      rw [← hsame, if_pos hescape, if_neg (hne x')]
      cases x with
      | nil =>
        -- The backslash would take the closing quote along.
        obtain ⟨m, hm, hlen⟩ := Outcome.map_ok_iff.mp h
        have := (length_quotedEnd hm).1
        simp only [List.length_cons, List.length_nil] at this hlen
        omega
      | cons y x =>
        obtain ⟨y', x', rfl, _, hx⟩ := hx.cons
        obtain ⟨m, hm, hlen⟩ := Outcome.map_ok_iff.mp h
        obtain rfl : m = x.length + 1 := by
          simp only [List.length_cons] at hlen
          omega
        show (quotedEnd ['"'] escapes true (x' ++ '"' :: w)).map (· + 2) = _
        rw [ih' hx hm]
        exact congrArg Except.ok hlen
    · have hescape' : ¬ (c' = '\\' && escapes) = true := by
        intro hescape'
        rw [Bool.and_eq_true, decide_eq_true_iff] at hescape'
        obtain rfl := eq_of_mem_kept hc (.inr (by rw [hescape'.1]; decide))
        exact hescape (by simpa using hescape')
      rw [if_neg hescape, if_neg (by simp)] at h
      rw [if_neg hescape', if_neg (by simp)]
      obtain ⟨m, hm, hlen⟩ := Outcome.map_ok_iff.mp h
      obtain rfl : m = x.length + 1 := by
        simp only [List.length_cons] at hlen
        omega
      rw [ih hx hm]
      exact congrArg Except.ok hlen

/-- Quotes and hashes that stand in the new contents stood there before. -/
theorem isPrefixOf_differ (hx : Differ (fun _ => Replaceable) x x')
    (hq : ∀ y ∈ q, y = '"' ∨ y = '#') (h : q.isPrefixOf (x' ++ s) = true) :
    q.isPrefixOf (x ++ s) = true := by
  induction x generalizing x' q with
  | nil =>
    obtain rfl := List.eq_nil_of_length_eq_zero hx.length
    exact h
  | cons c x ih =>
    obtain ⟨c', x', rfl, hc, hx'⟩ := hx.cons
    cases q with
    | nil => rfl
    | cons y q =>
      rw [List.cons_append, List.isPrefixOf, Bool.and_eq_true, beq_iff_eq] at h ⊢
      obtain ⟨rfl, h⟩ := h
      have hy := hq y List.mem_cons_self
      obtain rfl := eq_of_mem_kept hc (.inr (by rcases hy with rfl | rfl <;> decide))
      exact ⟨rfl, ih hx' (fun y hy => hq y (List.mem_cons_of_mem _ hy)) h⟩

/-- Other contents do not end a raw string elsewhere. -/
theorem offsetOf?_differ (hx : Differ (fun _ => Replaceable) x x')
    (hq : ∀ y ∈ q, y = '"' ∨ y = '#') (h : Text.offsetOf? q (x ++ s) = some x.length) :
    Text.offsetOf? q (x' ++ s) = some x.length := by
  induction x generalizing x' with
  | nil =>
    obtain rfl := List.eq_nil_of_length_eq_zero hx.length
    exact h
  | cons c x ih =>
    obtain ⟨c', x', rfl, hc, hx'⟩ := hx.cons
    rw [List.cons_append, Text.offsetOf?] at h ⊢
    split at h
    · simp at h
    · next hno =>
      have hno' : ¬ q.isPrefixOf (c' :: (x' ++ s)) = true := by
        intro hpre
        exact hno (isPrefixOf_differ hx hq hpre)
      obtain ⟨m, hm, hlen⟩ := Option.map_eq_some_iff.mp h
      obtain rfl : m = x.length := by simpa using hlen
      rw [if_neg hno', ih hx' hm]
      rfl

/-! ### The shape of a string -/

/-- What stands before the quote of a string has no quote and no hash in it. -/
theorem lead_spec {y : Char} (hy : y ∈ t.take (lead rust before t).length) : y ≠ '"' ∧ y ≠ '#' := by
  have letter {y z : Char} (hz : Caseless z) (hno : z ∉ ['b', 'c'])
      (hy : y ∈ t.take (leadAmong rust t rust.stringPrefixes).length) : y ≠ z := by
    rintro rfl
    by_cases hpos : 0 < (leadAmong rust t rust.stringPrefixes).length
    · obtain ⟨p, hp, hlen, hlower, _⟩ := leadAmong_spec hpos
      rw [hlen] at hy
      have hmem := Text.mem_lower_of_caseless hz hy
      rw [hlower] at hmem
      exact hno (Dialect.mem_rust_prefixes hp hmem)
    · rw [Nat.eq_zero_of_not_pos hpos] at hy
      simp at hy
  unfold lead at hy
  split at hy
  · simp at hy
  · have hcase : Caseless '"' ∧ Caseless '#' := ⟨⟨by decide, by decide⟩, ⟨by decide, by decide⟩⟩
    exact ⟨letter hcase.1 (by decide) hy, letter hcase.2 (by decide) hy⟩

/-- Behind a quote nothing matters for what stands before the quote of a string. -/
theorem lead_behind_quote (p w w' : Text) :
    lead rust before (p ++ '"' :: w') = lead rust before (p ++ '"' :: w) := by
  obtain ⟨hcase, hno⟩ := Dialect.rust_apart.quotes '"' (Dialect.rust_isQuote_iff.mpr rfl)
  have hmem : '"' ∈ p ++ ['"'] := List.mem_append_right _ (List.mem_singleton.mpr rfl)
  have hsame (v : Text) : lead rust before (p ++ '"' :: v) = lead rust before (p ++ ['"']) := by
    rw [List.append_cons]
    exact lead_append_of_mem hcase hno hmem
  rw [hsame w, hsame w']

/-- The text before the quote, or before the letter of raw strings. -/
theorem split_at_lead {c : Char} {v : Text}
    (hdrop : t.drop (lead rust before t).length = c :: v) :
    ∃ p, t = p ++ c :: v ∧ (lead rust before t).length = p.length ∧ ∀ y ∈ p, y ≠ '"' ∧ y ≠ '#' := by
  refine ⟨t.take (lead rust before t).length, ?_, ?_, fun y hy => lead_spec hy⟩
  · rw [← hdrop, List.take_append_drop]
  · rw [List.length_take_of_le]
    apply Nat.le_of_lt
    rw [← Nat.not_le]
    intro hle
    rw [List.drop_eq_nil_of_le hle] at hdrop
    cases hdrop

/-- A quoted string opens with a quote, behind a text without quotes and hashes, and its end is told
from what stands behind the quote. -/
theorem quotedString_spec (h : quotedString rust before t = .ok (some n)) :
    ∃ p w m escapes, t = p ++ '"' :: w ∧ '"' ∉ p ∧ '#' ∉ p ∧ n = p.length + 1 + m ∧
      quotedEnd ['"'] escapes true w = .ok m ∧
      ∀ w', hashedString rust before (p ++ '"' :: w') = .ok none ∧
        quotedString rust before (p ++ '"' :: w') =
          (quotedEnd ['"'] escapes true w').map (fun m => some (p.length + 1 + m)) := by
  unfold quotedString at h
  dsimp only at h
  split at h
  · next c w hdrop =>
    split at h
    · next hquote =>
      obtain rfl := Dialect.rust_isQuote_iff.mp hquote
      obtain ⟨m, hm, hn⟩ := Outcome.map_ok_iff.mp h
      obtain ⟨p, ht, hlen, hp⟩ := split_at_lead hdrop
      refine ⟨p, w, m, !((lead rust before t).raw && rust.rawHashes), ht, ?_, ?_, ?_, hm, ?_⟩
      · intro hmem
        exact (hp _ hmem).1 rfl
      · intro hmem
        exact (hp _ hmem).2 rfl
      · rw [← hlen]
        exact (Option.some.inj hn).symm
      · intro w'
        -- The lead is told without what stands behind the quote.
        have hlead : lead rust before (p ++ '"' :: w') = lead rust before t := by
          rw [ht]
          exact lead_behind_quote p w w'
        have hbehind : (p ++ '"' :: w').drop (lead rust before t).length = '"' :: w' := by
          rw [hlen, List.drop_left]
        unfold hashedString quotedString
        dsimp only
        rw [hlead, hbehind]
        refine ⟨if_neg (by simp), ?_⟩
        dsimp only
        rw [if_pos hquote, ← hlen]
        rfl
    · simp at h
  · simp at h

/-- Hashes before a quote are told from what they stand before. -/
theorem hashes_of_quote {v : Text} (hv : ∀ y ∈ v, y = '#') (w : Text) :
    hashes (v ++ '"' :: w) = v ∧ afterHashes (v ++ '"' :: w) = '"' :: w := by
  have hall : ∀ y ∈ v, decide (y = '#') = true := by simpa using hv
  unfold hashes afterHashes
  rw [List.takeWhile_append_of_pos hall, List.dropWhile_append_of_pos hall]
  exact ⟨List.append_nil v, rfl⟩

/-- A raw string opens with a quote, behind a text with some hashes, and ends at the first quote with
as many hashes behind it. -/
theorem hashedString_spec (h : hashedString rust before t = .ok (some n)) :
    ∃ p w m, t = p ++ '"' :: w ∧ '"' ∉ p ∧
      Text.offsetOf? ('"' :: p.filter (· = '#')) w = some m ∧
      n = p.length + 1 + m + (1 + (p.filter (· = '#')).length) ∧
      ∀ w', Text.offsetOf? ('"' :: p.filter (· = '#')) w' = some m →
        hashedString rust before (p ++ '"' :: w') = .ok (some n) := by
  unfold hashedString at h
  dsimp only at h
  split at h
  · next c v hdrop =>
    split at h
    · next hopen =>
      have hc : c = 'r' := by
        rw [Bool.and_eq_true, Bool.and_eq_true, decide_eq_true_iff] at hopen
        exact hopen.1.2
      obtain ⟨o, ho, hmap⟩ := Outcome.map_ok_iff.mp h
      obtain ⟨k, rfl, hn⟩ := Option.map_eq_some_iff.mp hmap
      obtain ⟨w, hw⟩ := exists_afterHashes ho
      obtain ⟨p, ht, hlen, hp⟩ := split_at_lead hdrop
      have hv : v = hashes v ++ '"' :: w := by
        rw [← hw]
        exact List.takeWhile_append_dropWhile.symm
      have hall : ∀ y ∈ hashes v, y = '#' := fun y hy => by
        simpa using List.all_eq_true.mp (List.all_takeWhile (p := (· = '#'))) y hy
      -- The hashes are the only ones before the quote.
      have hfilter : (p ++ c :: hashes v).filter (· = '#') = Text.pad '#' (hashes v).length := by
        have hnone : p.filter (· = '#') = [] := by
          rw [List.filter_eq_nil_iff]
          intro y hy
          simpa using (hp y hy).2
        have hkeep : (hashes v).filter (· = '#') = hashes v :=
          List.filter_eq_self.mpr fun y hy => by simpa using hall y hy
        rw [List.filter_append, hnone, List.nil_append, List.filter_cons_of_neg (by simp [hc]), hkeep]
        exact List.eq_replicate_of_mem hall
      have ht' : t = (p ++ c :: hashes v) ++ '"' :: w := by
        rw [List.append_assoc, List.cons_append, ← hv, ht]
      rw [hashedEnd_of_quote hw] at ho
      split at ho
      · next m hm =>
        obtain rfl := Option.some.inj (Except.ok.inj ho)
        rw [← hfilter] at hm
        refine ⟨p ++ c :: hashes v, w, m, ht', ?_, hm, ?_, ?_⟩
        · rw [List.mem_append, List.mem_cons]
          rintro (hmem | heq | hmem)
          · exact (hp _ hmem).1 rfl
          · rw [hc] at heq
            exact absurd heq (by decide)
          · exact absurd (hall _ hmem) (by decide)
        · rw [hfilter, ← hn, hlen]
          simp only [List.length_append, List.length_cons, Text.pad, List.length_replicate]
          omega
        · intro w' hm'
          have hlead : lead rust before ((p ++ c :: hashes v) ++ '"' :: w') = lead rust before t := by
            rw [ht']
            exact lead_behind_quote _ w w'
          have hbehind : ((p ++ c :: hashes v) ++ '"' :: w').drop (lead rust before t).length =
              c :: (hashes v ++ '"' :: w') := by
            rw [hlen, List.append_assoc, List.drop_left]
            rfl
          obtain ⟨hhashes, hafter⟩ := hashes_of_quote hall w'
          unfold hashedString
          dsimp only
          rw [hlead, hbehind]
          dsimp only
          rw [if_pos hopen, hashedEnd_of_quote hafter, hhashes, ← hfilter, hm']
          exact congrArg (fun n => Except.ok (some n)) hn
      · simp at ho
    · simp at h
  · simp at h

/-! ### Strings with other contents -/

/-- What opens and what closes a string stays. -/
theorem OtherContent.split (hp : '"' ∉ p) (hq : q = '"' :: p.filter (· = '#'))
    (h : OtherContent (p ++ '"' :: (x ++ q)) u') :
    ∃ x', u' = p ++ '"' :: (x' ++ q) ∧ Differ (fun _ => Replaceable) x x' := by
  have htake : (p ++ '"' :: (x ++ q)).takeWhile (· ≠ '"') = p := by
    have hall : ∀ y ∈ p, decide (y ≠ '"') = true := by
      intro y hy
      rw [decide_eq_true_iff]
      rintro rfl
      exact hp hy
    rw [List.takeWhile_append_of_pos hall]
    exact List.append_nil p
  have hopening : (opening (p ++ '"' :: (x ++ q))).length = p.length + 1 := by
    unfold opening
    rw [htake, List.length_append]
    rfl
  have hclosing : closing (p ++ '"' :: (x ++ q)) = q := by
    unfold closing
    rw [htake, hq]
  unfold OtherContent at h
  rw [hopening, hclosing] at h
  -- The changed text is taken apart like the old one; only between the quotes may the two differ.
  obtain ⟨p', v, rfl, hp', hv⟩ := h.append
  obtain ⟨c', v, rfl, hc, hv⟩ := hv.cons
  obtain ⟨x', q', rfl, hx, hq'⟩ := hv.append
  obtain rfl := hp'.eq fun k c c' hk hbad => by omega
  have hsame : '"' = c' := by
    apply Classical.byContradiction
    intro hne
    have := (hc hne).2
    omega
  obtain rfl := hq'.eq fun k c c' hk hbad => by
    simp only [List.length_append, List.length_cons] at hbad
    omega
  exact ⟨x', by rw [hsame], hx.mono fun _ _ _ _ h => h.1⟩

/-- Where a string begins, no comment does. -/
theorem no_comment_of_string (h : hashedString rust before t ≠ .ok none ∨
    quotedString rust before t ≠ .ok none) :
    lineComment rust before t rust.lineComments = .ok none ∧ blockComment rust t = .ok none := by
  cases t with
  | nil => exact absurd h (by simp [hashedString, quotedString])
  | cons c t =>
    have hc : ¬ rust.OpensComment c := by
      intro hc
      have hidle := (Dialect.rust_apart.comments c hc).1
      rcases h with h | h
      · exact h (hashedString_of_idle hidle t)
      · exact h (quotedString_of_idle hidle t)
    exact ⟨lineComment_of_head Dialect.rust_regular hc t,
      blockComment_of_head Dialect.rust_regular hc t⟩

theorem at?_of_hashedString (h : hashedString rust before t = .ok (some n)) :
    at? rust before t = .ok (some ⟨.string, n⟩) := by
  obtain ⟨hline, hblock⟩ := no_comment_of_string (.inl (by rw [h]; simp))
  rw [at?_ok_iff]
  exact .inr ⟨hline, .inr ⟨hblock, .inl ⟨n, h, rfl⟩⟩⟩

theorem at?_of_quotedString (hnone : hashedString rust before t = .ok none)
    (h : quotedString rust before t = .ok (some n)) :
    at? rust before t = .ok (some ⟨.string, n⟩) := by
  obtain ⟨hline, hblock⟩ := no_comment_of_string (.inr (by rw [h]; simp))
  rw [at?_ok_iff]
  exact .inr ⟨hline, .inr ⟨hblock, .inr ⟨hnone, .inl ⟨n, h, rfl⟩⟩⟩⟩

/-- A string with other contents is a string in the same place. -/
theorem at?_string_differ (h : at? rust before (u ++ s) = .ok (some ⟨.string, u.length⟩))
    (hu : OtherContent u u') : at? rust before (u' ++ s) = .ok (some ⟨.string, u.length⟩) := by
  rw [at?_ok_iff] at h
  rcases h with ⟨_, _, htoken⟩ | ⟨_, ⟨_, _, htoken⟩ | ⟨_, ⟨n, h, htoken⟩ | ⟨_, ⟨n, h, htoken⟩ |
    ⟨_, ⟨_, _, htoken⟩ | ⟨_, htoken⟩⟩⟩⟩⟩
  · simp at htoken
  · simp at htoken
  · -- A raw string: the first quote with the hashes behind it is where it was.
    obtain rfl : u.length = n := congrArg Token.length (Option.some.inj htoken)
    obtain ⟨p, w, m, ht, hp, hm, hn, hnew⟩ := hashedString_spec h
    obtain ⟨q, hq⟩ : ∃ q, q = '"' :: p.filter (· = '#') := ⟨_, rfl⟩
    have hmarks : ∀ y ∈ q, y = '"' ∨ y = '#' := by
      intro y hy
      rw [hq, List.mem_cons, List.mem_filter] at hy
      simpa using hy.imp id And.right
    rw [← hq] at hm hnew
    obtain ⟨x, v, rfl, rfl⟩ := Text.offsetOf?_spec hm
    have hsplit : u ++ s = (p ++ '"' :: (x ++ q)) ++ v := by
      rw [ht]
      simp
    obtain ⟨rfl, rfl⟩ := List.append_inj hsplit (by
      rw [hn, hq]
      simp only [List.length_append, List.length_cons]
      omega)
    obtain ⟨x', rfl, hx⟩ := hu.split hp hq
    have hstring := at?_of_hashedString (hnew _ (offsetOf?_differ hx hmarks hm))
    simpa using hstring
  · -- A quoted string: the quote that closes it is still the first one that is not escaped.
    obtain rfl : u.length = n := congrArg Token.length (Option.some.inj htoken)
    obtain ⟨p, w, m, escapes, ht, hp, hhash, hn, hm, hnew⟩ := quotedString_spec h
    have hfilter : p.filter (· = '#') = [] := by
      rw [List.filter_eq_nil_iff]
      intro y hy
      rw [decide_eq_true_iff]
      rintro rfl
      exact hhash hy
    obtain ⟨x, v, rfl, rfl⟩ := quotedEnd_ends hm
    have hsplit : u ++ s = (p ++ '"' :: (x ++ ['"'])) ++ v := by
      rw [ht]
      simp
    obtain ⟨rfl, rfl⟩ := List.append_inj hsplit (by
      rw [hn]
      simp only [List.length_append, List.length_cons, List.length_nil]
      omega)
    obtain ⟨x', rfl, hx⟩ := hu.split hp (by rw [hfilter])
    have hkeep : quotedEnd ['"'] escapes true (x' ++ '"' :: s) = .ok (x.length + 1) :=
      quotedEnd_differ hx hm
    obtain ⟨hhashed, hquoted⟩ := hnew (x' ++ '"' :: s)
    rw [hkeep] at hquoted
    have hstring := at?_of_quotedString hhashed hquoted
    rw [hn]
    simpa using hstring
  · simp at htoken
  · simp at htoken

/-! ### Before a text that is changed -/

/-- What stands behind the lead of a text with a quote: at least the quote. -/
theorem drop_lead_quote (before : Option Char) (p w : Text) :
    ∃ c v, '"' ∈ c :: v ∧
      ∀ w', (p ++ '"' :: w').drop (lead rust before (p ++ '"' :: w)).length = c :: (v ++ w') := by
  have hlt : (lead rust before (p ++ '"' :: w)).length < (p ++ ['"']).length := by
    rw [lead_behind_quote p [] w]
    exact lead_lt (by simp)
  generalize (lead rust before (p ++ '"' :: w)).length = k at hlt
  obtain ⟨c, v, hv⟩ : ∃ c v, (p ++ ['"']).drop k = c :: v := by
    apply List.exists_cons_of_ne_nil
    rw [← List.length_pos_iff, List.length_drop]
    omega
  refine ⟨c, v, ?_, fun w' => ?_⟩
  · have hlast : (c :: v).getLast? = some '"' := by
      rw [← hv, List.getLast?_drop, if_neg (by omega), List.getLast?_concat]
    exact List.mem_of_getLast? hlast
  · rw [List.append_cons, List.drop_append_of_le_length (Nat.le_of_lt hlt), hv]
    rfl

/-- Hashes that are over tell that no raw string begins. -/
theorem hashedEnd_none_append_of_ends (hends : afterHashes r ≠ [])
    (h : hashedEnd r = .ok none) : hashedEnd (r ++ s) = .ok none := by
  obtain ⟨y, v, hv⟩ := List.exists_cons_of_ne_nil hends
  have hy : y ≠ '"' := by
    rintro rfl
    exact hashedEnd_quote_ne_none hv h
  apply hashedEnd_of_no_quote
  unfold afterHashes at hv hends ⊢
  rw [Text.dropWhile_append_of_ends hends, hv]
  simpa using hy

/-- Whether no string begins is told from what stands up to a quote. -/
theorem strings_none_behind_quote (w' : Text)
    (hh : hashedString rust before (p ++ '"' :: w) = .ok none)
    (hq : quotedString rust before (p ++ '"' :: w) = .ok none) :
    hashedString rust before (p ++ '"' :: w') = .ok none ∧
      quotedString rust before (p ++ '"' :: w') = .ok none := by
  obtain ⟨c, v, hmem, hdrop⟩ := drop_lead_quote before p w
  unfold hashedString at hh ⊢
  unfold quotedString at hq ⊢
  dsimp only at hh hq ⊢
  rw [hdrop] at hh hq
  rw [lead_behind_quote p w w', hdrop]
  dsimp only at hh hq ⊢
  constructor
  · split at hh
    · next hopen =>
      obtain ⟨o, ho, hnone⟩ := Outcome.map_ok_iff.mp hh
      obtain rfl : o = none := by simpa using hnone
      -- The hashes do not go on to the end, because a quote follows.
      have hends : afterHashes v ≠ [] := by
        intro hnil
        unfold afterHashes at hnil
        rw [List.dropWhile_eq_nil_iff] at hnil
        rw [Bool.and_eq_true, Bool.and_eq_true, decide_eq_true_iff] at hopen
        rcases List.mem_cons.mp hmem with hc | hv
        · rw [hopen.1.2] at hc
          exact absurd hc (by decide)
        · exact absurd (hnil _ hv) (by decide)
      rw [if_pos hopen, hashedEnd_none_append_of_ends hends (hashedEnd_none_of_append ho)]
      rfl
    · next hopen => rw [if_neg hopen]
  · split at hq
    · next hquote =>
      obtain ⟨_, _, hm⟩ := Outcome.map_ok_iff.mp hq
      simp at hm
    · next hquote => rw [if_neg hquote]

/-- Line comments of Rust have one marker, and no flags. -/
theorem lineComment_rust (before : Option Char) (t : Text) :
    lineComment rust before t rust.lineComments =
      if ['/', '/'].isPrefixOf t then .ok (some (t.takeWhile (· ≠ '\n')).length) else .ok none := by
  have hmarkers : rust.lineComments = [.text ['/', '/']] := rfl
  have hflag : isSpecFlag rust ['/', '/'] before t = false := by
    rw [isSpecFlag_eq]
    rfl
  rw [hmarkers, lineComment, hflag]
  simp only [Bool.not_false, Bool.and_true]
  rfl

/-- Block comments of Rust begin with their opening delimiter. -/
theorem blockComment_rust_none_iff :
    blockComment rust t = .ok none ↔ ¬ ['/', '*'].isPrefixOf t = true := by
  rw [blockComment_none_iff]
  constructor
  · intro h
    exact h _ _ rfl
  · intro h opener closer hb
    obtain ⟨rfl, rfl⟩ := Prod.mk.inj (Option.some.inj hb)
    exact h

/-- Where no token opens before a quote, none opens before the same quote with another text behind
it, unless a quote of character literals stands right before it, and behind it in the new text
alone: then they enclose it. -/
theorem at?_none_behind_quote
    (hchar : p = ['\''] → w'.head? = some '\'' → w.head? = some '\'')
    (h : at? rust before (p ++ '"' :: w) = .ok none) :
    at? rust before (p ++ '"' :: w') = .ok none := by
  have begins {m : Text} (hm : '"' ∉ m) (v : Text) :
      m.isPrefixOf (p ++ '"' :: v) = m.isPrefixOf p := by
    refine Text.isPrefixOf_append_of_not_mem fun x hx => ?_
    obtain rfl := Option.some.inj hx
    exact hm
  rw [at?_ok_iff] at h ⊢
  rcases h with ⟨_, _, htoken⟩ | ⟨hline, ⟨_, _, htoken⟩ | ⟨hblock, ⟨_, _, htoken⟩ |
    ⟨hhashed, ⟨_, _, htoken⟩ | ⟨hquoted, ⟨_, _, htoken⟩ | ⟨hliteral, _⟩⟩⟩⟩⟩
  · simp at htoken
  · simp at htoken
  · simp at htoken
  · simp at htoken
  · simp at htoken
  · -- Each of the readers is asked again: those of comments look no further than the quote.
    have hline' : lineComment rust before (p ++ '"' :: w') rust.lineComments = .ok none := by
      rw [lineComment_rust, begins (by decide)] at hline ⊢
      split at hline
      · simp at hline
      · next hopen => rw [if_neg hopen]
    have hblock' : blockComment rust (p ++ '"' :: w') = .ok none := by
      rw [blockComment_rust_none_iff, begins (by decide)] at hblock ⊢
      exact hblock
    have hstrings := strings_none_behind_quote w' hhashed hquoted
    have hliteral' : charLiteral rust (p ++ '"' :: w') = .ok none := by
      have hquote : rust.charQuote = some '\'' := rfl
      refine charLiteral_none_swap (by rw [hquote]; decide) (fun q hp hq hw' => ?_) hliteral
      obtain rfl := Option.some.inj (hquote.symm.trans hq)
      exact hchar hp hw'
    exact .inr ⟨hline', .inr ⟨hblock', .inr ⟨hstrings.1, .inr ⟨hstrings.2,
      .inr ⟨hliteral', rfl⟩⟩⟩⟩⟩

/-- A comment is the same before every other text that begins alike. -/
theorem at?_comment_swap {c : Char} (hs : s'.head? = s.head?)
    (h : at? rust before (c :: (x ++ s)) = .ok (some ⟨.comment, x.length + 1⟩)) :
    at? rust before (c :: (x ++ s')) = .ok (some ⟨.comment, x.length + 1⟩) := by
  rw [at?_ok_iff] at h ⊢
  rcases h with ⟨_, hline, htoken⟩ | ⟨hnone, ⟨_, hblock, htoken⟩ | ⟨_, ⟨_, _, htoken⟩ |
    ⟨_, ⟨_, _, htoken⟩ | ⟨_, ⟨_, _, htoken⟩ | ⟨_, htoken⟩⟩⟩⟩⟩
  · -- A line comment ends at a line feed or with the text, and so it does before the new text.
    obtain rfl := congrArg Token.length (Option.some.inj htoken)
    obtain ⟨hfeed, hend⟩ := lineComment_ends (r := c :: x) hline
    have hmarker (v : Text) (hv : v.head? = s.head?) :
        ['/', '/'].isPrefixOf ((c :: x) ++ v) = ['/', '/'].isPrefixOf (c :: x) := by
      refine Text.isPrefixOf_append_of_not_mem fun y hy => ?_
      rw [hv] at hy
      rw [hend y hy]
      decide
    have hstop : s'.takeWhile (· ≠ '\n') = [] := by
      cases s' with
      | nil => rfl
      | cons y s' =>
        rw [hend y hs.symm]
        rfl
    have hopen : ['/', '/'].isPrefixOf (c :: x) = true := by
      rw [lineComment_rust] at hline
      split at hline
      · next hopen => rwa [← List.cons_append, hmarker s rfl] at hopen
      · simp at hline
    refine .inl ⟨_, ?_, rfl⟩
    rw [lineComment_rust, ← List.cons_append, hmarker s' hs, if_pos hopen,
      Text.takeWhile_line hfeed hstop]
    rfl
  · -- A block comment ends within itself.
    obtain rfl := congrArg Token.length (Option.some.inj htoken)
    obtain ⟨opener, closer, u, rest, hb, _, hn⟩ := blockComment_spec hblock
    have hdelimiters : rust.blockComment = some (['/', '*'], ['*', '/']) := rfl
    rw [hdelimiters, Option.some.injEq, Prod.mk.injEq] at hb
    obtain ⟨rfl, rfl⟩ := hb
    have hpart : blockComment rust (c :: x) = .ok (some (x.length + 1)) :=
      blockComment_of_append (r := c :: x) (fun _ _ hb => (Dialect.rust_regular.delimiters _ _ hb).2)
        hblock (Nat.le_refl _)
    have hnew := blockComment_some_append (s := s') (fun opener closer hb => by
      rw [hdelimiters, Option.some.injEq, Prod.mk.injEq] at hb
      rw [← hb.1, ← hb.2]
      decide) hpart
    have hline : lineComment rust before (c :: (x ++ s')) rust.lineComments = .ok none := by
      have hfits : ['/', '/'].length ≤ (c :: x).length := by
        simp only [List.length_cons, List.length_nil] at hn ⊢
        omega
      rw [lineComment_rust, ← List.cons_append, Text.isPrefixOf_append hfits] at hnone ⊢
      split at hnone
      · simp at hnone
      · next hopen => rw [if_neg hopen]
    exact .inr ⟨hline, .inl ⟨_, hnew, rfl⟩⟩
  · simp at htoken
  · simp at htoken
  · simp at htoken
  · simp at htoken

end Token
end Stencil
