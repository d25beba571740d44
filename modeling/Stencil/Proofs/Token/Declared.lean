import Mathlib.Data.List.Permutation
import Stencil.Proofs.Dialect.Lists
import Stencil.Proofs.Token.Nesting
import Stencil.Proofs.Segment.Scan

/-! # The tokens that a dialect declares

  The readers of tokens are tried in a fixed order, and the markers, delimiters, prefixes and quotes
  of a dialect are declared one by one, so that what one of them opens another may take first. Here
  is what is left of each declaration:

  * a block comment is read where no line comment opens (`blockComment_honoured`), and
  * a string behind a declared prefix is read where no comment opens at all, unless a longer prefix
    leads away from it (`string_honoured`).

  A prefix is compared with the lower-case form of the text, so that only one that is its own
  lower-case form is ever found. Of the prefixes that stand at a place with a string behind them the
  longest is taken, since a dialect that was read lists its prefixes in that order.
-/

namespace Stencil.Token

open Outcome (FailsOnly)
open Dialect.Record (Textual Descending longestFirst_descending plainWith)

variable {d : Dialect} {t u : Text} {before : Option Char} {i : Nat}

/-! ### What stands at an offset -/

/-- A line comment opens at an offset. -/
def LineOpens (d : Dialect) (t : Text) (i : Nat) : Prop :=
  ∃ marker, Entry.text marker ∈ d.lineComments ∧ marker.isPrefixOf (t.drop i) = true ∧
    isSpecFlag d marker (t.take i).getLast? (t.drop i) = false

/-- The opening delimiter of block comments stands at an offset. -/
def BlockOpens (d : Dialect) (t : Text) (i : Nat) : Prop :=
  ∃ opener closer, d.blockComment = some (opener, closer) ∧ opener.isPrefixOf (t.drop i) = true

/-- A prefix stands at the start of a text, in some case. -/
def Reads (p u : Text) : Prop := Text.lower (u.take p.length) = Text.lower p

/-- A longer prefix than `p` stands at an offset and leads to the letter of raw strings, with which
no string begins. -/
def Misled (d : Dialect) (t : Text) (i : Nat) (p : Text) : Prop :=
  ∃ q body, Entry.text q ∈ d.stringPrefixes ∧ p.length < q.length ∧
    Text.lower ((t.drop i).take q.length) = q ∧ t.drop (i + q.length) = 'r' :: body ∧
    d.rawHashes = true ∧ d.isQuote 'r' = false ∧ hashedEnd body = .ok none

/-- A block comment that opens at an offset is a comment up to the delimiter that matches, or is
reported as unclosed if there is none. -/
def BlockHonoured (d : Dialect) (t : Text) (i : Nat) : Prop :=
  ∀ opener closer, d.blockComment = some (opener, closer) → opener.isPrefixOf (t.drop i) = true →
    (∃ n, Closes opener closer d.nestedComments (t.drop (i + opener.length)) n ∧
      atOffset? d t i = .ok (some ⟨.comment, opener.length + n⟩)) ∨
    (∀ n, ¬ Closes opener closer d.nestedComments (t.drop (i + opener.length)) n) ∧
      atOffset? d t i = .error (.unclosed .comment)

/-- A literal that is not closed, as opposed to a comment. -/
def IsLiteral (token : Unclosed) : Prop := token.code = ("E_UNTERMINATED_LITERAL" : Text)

/-- A string that is longer than its prefix is read, or one is reported as unclosed. -/
def ReadsString (p : Text) (x : Except LexFault (Option Token)) : Prop :=
  (∃ n, p.length < n ∧ x = .ok (some ⟨.string, n⟩)) ∨
    ∃ token, IsLiteral token ∧ x = .error (.unclosed token)

/-- A string that opens at an offset with the declared prefix `p`, outside a word, is a string, or
is reported as unclosed. -/
def StringHonoured (d : Dialect) (t : Text) (i : Nat) (p : Text) : Prop :=
  ∀ c, Entry.text p ∈ d.stringPrefixes → Reads p (t.drop i) → t[i + p.length]? = some c →
    d.isQuote c = true → (t.take i).getLast?.any isWordChar = false →
    ReadsString p (atOffset? d t i)

/-! ### Comments -/

theorem lineComment_of_not_lineOpens (htexts : ∀ e ∈ d.lineComments, Textual e)
    (hline : ¬ LineOpens d t i) :
    lineComment d (t.take i).getLast? (t.drop i) d.lineComments = .ok none := by
  rw [lineComment_none_iff]
  intro e he
  obtain ⟨m, rfl⟩ := htexts e he
  refine ⟨m, rfl, fun hopen => hline ?_⟩
  rw [Bool.and_eq_true, Bool.not_eq_true'] at hopen
  exact ⟨m, he, hopen⟩

theorem blockComment_of_not_blockOpens (hblock : ¬ BlockOpens d t i) :
    blockComment d (t.drop i) = .ok none := by
  rw [blockComment_none_iff]
  intro opener closer hd hopen
  exact hblock ⟨opener, closer, hd, hopen⟩

/-- Where no line comment opens, a block comment that opens is read up to the delimiter that
matches. -/
theorem blockComment_honoured (hdelimiters : ∀ opener closer,
      d.blockComment = some (opener, closer) → opener ≠ [] ∧ closer ≠ [])
    (hline : lineComment d (t.take i).getLast? (t.drop i) d.lineComments = .ok none) :
    BlockHonoured d t i := by
  intro opener closer hd hopen
  obtain ⟨hopener, hcloser⟩ := hdelimiters opener closer hd
  unfold atOffset? at?
  rw [hline, Outcome.ok_bind]
  unfold blockComment
  simp only [hd, hopen, if_true, List.drop_drop]
  cases hend : blockEnd opener closer d.nestedComments 0 0 (t.drop (i + opener.length)) with
  | some n => exact .inl ⟨n, (blockEnd_eq_some_iff hopener hcloser).mp hend, rfl⟩
  | none => exact .inr ⟨(blockEnd_eq_none_iff hopener hcloser).mp hend, rfl⟩

/-! ### Strings -/

/-- A prefix stands at the start of a text in lower case, with a string behind it. -/
def IsLead (d : Dialect) (u q : Text) : Prop :=
  Text.lower (u.take q.length) = q ∧ opensString d (u.drop q.length) = true

/-- The lead is the longest of the prefixes that may be it, if no prefix is listed behind a shorter
one. -/
theorem leadAmong_longest {entries : List Entry} {p : Text} (hsorted : Descending entries)
    (hp : Entry.text p ∈ entries) (hlead : IsLead d u p) :
    ∃ q, Entry.text q ∈ entries ∧ (leadAmong d u entries).length = q.length ∧
      p.length ≤ q.length ∧ IsLead d u q := by
  induction entries with
  | nil => exact absurd hp List.not_mem_nil
  | cons e entries ih =>
    obtain ⟨hhead, htail⟩ := List.pairwise_cons.mp hsorted
    have later (hp : Entry.text p ∈ entries)
        (hpass : leadAmong d u (e :: entries) = leadAmong d u entries) :
        ∃ q, Entry.text q ∈ e :: entries ∧ (leadAmong d u (e :: entries)).length = q.length ∧
          p.length ≤ q.length ∧ IsLead d u q := by
      obtain ⟨q, hq, hspec⟩ := ih htail hp
      rw [hpass]
      exact ⟨q, List.mem_cons_of_mem _ hq, hspec⟩
    cases e with
    | other value =>
      cases hp with
      | tail _ hp => exact later hp rfl
    | text q =>
      have hfound : (Text.lower (u.take q.length) = q && opensString d (u.drop q.length)) = true ↔
          IsLead d u q := by rw [Bool.and_eq_true, decide_eq_true_iff, IsLead]
      by_cases hq : IsLead d u q
      · have hle : p.length ≤ q.length := by
          cases hp with
          | head => exact Nat.le_refl _
          | tail _ hp => exact hhead _ hp q p rfl rfl
        rw [leadAmong, if_pos (hfound.mpr hq)]
        exact ⟨q, List.mem_cons_self, rfl, hle, hq⟩
      · -- The first prefix is not the lead, so that it is not `p` either.
        cases hp with
        | head => exact absurd hlead hq
        | tail _ hp => exact later hp (by rw [leadAmong, if_neg fun h => hq (hfound.mp h)])

theorem hashedString_failsOnly : FailsOnly IsLiteral (hashedString d before u) := by
  unfold hashedString hashedEnd
  dsimp only
  split
  · split
    · refine .map ?_ _
      split
      · split
        · exact .ok _
        · exact .error rfl
      · exact .ok none
    · exact .ok none
  · exact .ok none

theorem quotedEnd_failsOnly {quote : Text} {escapes multiline : Bool} :
    FailsOnly IsLiteral (quotedEnd quote escapes multiline u) := by
  induction u using quoted_induction with
  | nil => exact .error rfl
  | cons c u ih ih' =>
    rw [quotedEnd_cons]
    split
    · exact .ok _
    · split
      · split
        · exact .error rfl
        · exact ih'.map _
      · split
        · exact .error rfl
        · exact ih.map _

theorem quotedString_failsOnly : FailsOnly IsLiteral (quotedString d before u) := by
  unfold quotedString
  dsimp only
  split
  · split
    · exact quotedEnd_failsOnly.map _
    · exact .ok none
  · exact .ok none

/-- Where no comment opens, what one of the readers of strings finds is a string. -/
theorem readsString_at? {p : Text} (hline : lineComment d before u d.lineComments = .ok none)
    (hblock : blockComment d u = .ok none) (hlead : p.length ≤ (lead d before u).length)
    (hstring : hashedString d before u ≠ .ok none ∨ quotedString d before u ≠ .ok none) :
    ReadsString p (at? d before u) := by
  unfold at?
  rw [hline, hblock]
  simp only [Outcome.ok_bind]
  cases hhashed : hashedString d before u with
  | error token => exact .inr ⟨token, hashedString_failsOnly token hhashed, rfl⟩
  | ok found =>
    cases found with
    | some n => exact .inl ⟨n, Nat.lt_of_le_of_lt hlead (lead_lt_of_hashedString hhashed), rfl⟩
    | none =>
      cases hquoted : quotedString d before u with
      | error token => exact .inr ⟨token, quotedString_failsOnly token hquoted, rfl⟩
      | ok found =>
        cases found with
        | some n => exact .inl ⟨n, Nat.lt_of_le_of_lt hlead (lead_lt_of_quotedString hquoted), rfl⟩
        | none =>
          exfalso
          cases hstring with
          | inl h => exact h hhashed
          | inr h => exact h hquoted

/-- Where no comment opens, a string behind a prefix that is its own lower-case form is read, if no
longer prefix leads away from it. -/
theorem string_honoured {p : Text} (hsorted : Descending d.stringPrefixes)
    (hline : lineComment d (t.take i).getLast? (t.drop i) d.lineComments = .ok none)
    (hblock : blockComment d (t.drop i) = .ok none) (hlower : Text.lower p = p)
    (hmisled : ¬ Misled d t i p) : StringHonoured d t i p := by
  intro c hp hreads hc hquote hword
  unfold Reads at hreads
  rw [hlower] at hreads
  have hdrop : (t.drop i).drop p.length = c :: t.drop (i + p.length + 1) := by
    rw [List.drop_drop, (drop_of_getElem? hc).1]
  have hopens : opensString d ((t.drop i).drop p.length) = true := by
    rw [hdrop, opensString, hquote]
    rfl
  obtain ⟨q, hq, hlength, hle, hreadsq, hopensq⟩ := leadAmong_longest hsorted hp ⟨hreads, hopens⟩
  have hlead : (lead d (t.take i).getLast? (t.drop i)).length = q.length := by
    unfold lead
    rw [hword]
    exact hlength
  refine readsString_at? hline hblock (by rw [hlead]; exact hle) ?_
  cases hbody : (t.drop i).drop q.length with
  | nil =>
    rw [hbody] at hopensq
    cases hopensq
  | cons c' body =>
    by_cases hquote' : d.isQuote c' = true
    · exact .inr (quotedString_ne_none (by rw [hlead]; exact hbody) hquote')
    · -- Behind the lead stands the letter of raw strings, so that the lead is not `p`.
      refine .inl fun hnone => hmisled ?_
      rw [hbody, opensString, Bool.or_eq_true, Bool.and_eq_true, decide_eq_true_iff] at hopensq
      obtain ⟨hraw, rfl⟩ := hopensq.resolve_left hquote'
      have hlt : p.length < q.length := by
        refine Nat.lt_of_le_of_ne hle fun heq => ?_
        rw [← heq, hdrop] at hbody
        obtain rfl := (List.cons.inj hbody).1
        exact hquote' hquote
      refine ⟨q, body, hq, hlt, hreadsq, ?_, hraw, Bool.eq_false_iff.mpr hquote', ?_⟩
      · rw [← List.drop_drop]
        exact hbody
      · unfold hashedString at hnone
        simp only [hlead, hbody, hraw, hword, decide_true, Bool.not_false, Bool.or_true,
          Bool.and_self, if_true] at hnone
        obtain ⟨o, ho, hmap⟩ := Outcome.map_ok_iff.mp hnone
        rw [ho, Option.map_eq_none_iff.mp hmap]

/-! ### Declarations that are honoured -/

/-- In a dialect that was read and whose markers are texts, a block comment is honoured wherever no
line comment opens, and a string behind a prefix in lower case wherever no comment opens and no
longer prefix leads away from it. -/
theorem declared_honoured {record : Json} (hread : Dialect.Record.read record = .ok d)
    (htexts : ∀ e ∈ d.lineComments, Textual e) (hline : ¬ LineOpens d t i) :
    BlockHonoured d t i ∧
      (¬ BlockOpens d t i → ∀ p, Text.lower p = p → ¬ Misled d t i p → StringHonoured d t i p) := by
  have hnone := lineComment_of_not_lineOpens htexts hline
  obtain ⟨es, _, hlongest⟩ := (Dialect.Record.readFrom hread).prefixes
  constructor
  · exact blockComment_honoured (fun _ _ => Dialect.Record.delimiters_ne_nil hread) hnone
  · intro hblock p hlower hmisled
    exact string_honoured (longestFirst_descending hlongest) hnone
      (blockComment_of_not_blockOpens hblock) hlower hmisled

/-- A dialect whose comments may stand in each other, and whose strings may have a prefix. -/
def nestingDialect : Dialect :=
  { Dialect.plain with
    stringPrefixes := [.text ['b']]
    lineComments := [.text ['/', '/']]
    blockComment := some (['/', '*'], ['*', '/'])
    nestedComments := true }

/-- A comment with another one in it, and a string behind it. -/
def nestingText : Text := "/*/**/*/B\"x\""

theorem declared_honoured_nested :
    (∃ n, Closes ['/', '*'] ['*', '/'] true (nestingText.drop 2) n ∧
      atOffset? nestingDialect nestingText 0 = .ok (some ⟨.comment, 2 + n⟩)) ∧
    ReadsString ['b'] (atOffset? nestingDialect nestingText 8) := by
  have hread : Dialect.Record.read (plainWith [("prefixes", .arr [.str ['b']])]
      [("line", .arr [.str ['/', '/']]), ("block", .arr [.str ['/', '*'], .str ['*', '/']]),
        ("nested", .bool true)]) = .ok nestingDialect := by cbv
  have htexts : ∀ e ∈ nestingDialect.lineComments, Textual e :=
    List.forall_mem_singleton.mpr ⟨_, rfl⟩
  have hline (i : Nat) (h : ['/', '/'].isPrefixOf (nestingText.drop i) = false) :
      ¬ LineOpens nestingDialect nestingText i := by
    intro hopens
    obtain ⟨m, hm, hpre, _⟩ := hopens
    obtain rfl := Entry.text.inj (List.mem_singleton.mp hm)
    rw [h] at hpre
    cases hpre
  have hblock : ¬ BlockOpens nestingDialect nestingText 8 := by
    intro hopens
    obtain ⟨opener, closer, hd, hopen⟩ := hopens
    obtain ⟨rfl, rfl⟩ := Prod.mk.inj (Option.some.inj hd)
    cases hopen
  have hreads : Reads ['b'] (nestingText.drop 8) := by
    unfold Reads
    decide +kernel
  have hmisled : ¬ Misled nestingDialect nestingText 8 ['b'] := by
    intro hmisled
    obtain ⟨_, _, _, _, _, _, hraw, _⟩ := hmisled
    cases hraw
  constructor
  · refine ((declared_honoured hread htexts (hline 0 rfl)).1 _ _ rfl rfl).resolve_right ?_
    intro hunclosed
    cases hunclosed.2
  · exact (declared_honoured hread htexts (hline 8 rfl)).2 hblock ['b'] (by decide +kernel) hmisled
      '"' List.mem_cons_self hreads rfl rfl rfl

/-- What a dialect declares is not always honoured: a line comment is read before a block comment, a
block comment before a string, a prefix with a capital letter is not found, a longer prefix may lead
away from a string, and a marker that is no text breaks the reading off. -/
theorem declared_not_honoured :
    (∃ d, Dialect.Record.read (plainWith [] [("line", .arr [.str ['-', '-']]),
        ("block", .arr [.str ['-', '-', '[', '['], .str [']', ']']])]) = .ok d ∧
      atOffset? d "--[[a\nb]]" 0 = .ok (some ⟨.comment, 5⟩) ∧ ¬ BlockHonoured d "--[[a\nb]]" 0) ∧
    (∃ d, Dialect.Record.read (plainWith [("prefixes", .arr [.str ['r']])]
        [("block", .arr [.str ['r', '"'], .str ['"']])]) = .ok d ∧
      atOffset? d "r\"a\"" 0 = .ok (some ⟨.comment, 4⟩) ∧ ¬ StringHonoured d "r\"a\"" 0 ['r']) ∧
    (∃ d, Dialect.Record.read (plainWith [("prefixes", .arr [.str ['R']])] []) =
        .ok d ∧
      atOffset? d "R\"a\"" 0 = .ok none ∧ ¬ StringHonoured d "R\"a\"" 0 ['R']) ∧
    (∃ d, Dialect.Record.read (plainWith
        [("prefixes", .arr [.str ['b'], .str ['b', '"']]), ("raw_hashes", .bool true)] []) =
        .ok d ∧
      atOffset? d "b\"rx\"" 0 = .ok none ∧ ¬ StringHonoured d "b\"rx\"" 0 ['b']) ∧
    ∃ d, Dialect.Record.read (plainWith [] [("line", .arr [.int 1]),
        ("block", .arr [.str ['/', '*'], .str ['*', '/']])]) = .ok d ∧
      atOffset? d "/**/" 0 = .error (.marker (.int 1)) ∧ ¬ BlockHonoured d "/**/" 0 := by
  -- The reader of strings gives something else than a string.
  have not_string {p : Text} {o : Option Token} (ho : o.map Token.kind ≠ some .string) :
      ¬ ReadsString p (.ok o) := by
    intro hreads
    obtain ⟨n, _, h⟩ | ⟨_, _, h⟩ := hreads
    · exact ho (congrArg (Option.map Token.kind) (Except.ok.inj h))
    · cases h
  refine ⟨⟨{ Dialect.plain with
      lineComments := [.text ['-', '-']]
      blockComment := some (['-', '-', '[', '['], [']', ']']) }, by cbv, rfl, ?_⟩,
    ⟨{ Dialect.plain with
      stringPrefixes := [.text ['r']], blockComment := some (['r', '"'], ['"']) }, by cbv, rfl, ?_⟩,
    ⟨{ Dialect.plain with stringPrefixes := [.text ['R']] }, by cbv, rfl, ?_⟩,
    ⟨{ Dialect.plain with
      stringPrefixes := [.text ['b', '"'], .text ['b']], rawHashes := true }, by cbv, rfl, ?_⟩,
    ⟨{ Dialect.plain with
      lineComments := [.other (.int 1)], blockComment := some (['/', '*'], ['*', '/']) },
      by cbv, rfl, ?_⟩⟩
  · intro h
    rcases h _ _ rfl rfl with ⟨n, hcloses, htoken⟩ | ⟨_, herror⟩
    · have hn := (blockEnd_eq_some_iff (by simp) (by simp)).mpr hcloses
      cases hn
      cases htoken
    · cases herror
  · intro h
    exact not_string (o := some ⟨.comment, 4⟩) (by decide)
      (h '"' List.mem_cons_self rfl rfl rfl rfl)
  · intro h
    exact not_string (o := none) (by decide) (h '"' List.mem_cons_self rfl rfl rfl rfl)
  · intro h
    have hprefix : Entry.text ['b'] ∈ [Entry.text ['b', '"'], .text ['b']] :=
      List.mem_cons_of_mem _ List.mem_cons_self
    exact not_string (o := none) (by decide) (h '"' hprefix rfl rfl rfl rfl)
  · intro h
    rcases h _ _ rfl rfl with ⟨_, _, htoken⟩ | ⟨_, herror⟩
    · cases htoken
    · cases herror

end Stencil.Token
