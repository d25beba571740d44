import Mathlib.Data.List.Forall2
import Stencil.Proofs.Block.Revised
import Stencil.Proofs.Segment.Scan
import Stencil.Proofs.Segment.Spelling
import Stencil.Proofs.Token.Gap

/-! # The contents of strings are inert

  A template of Rust code may have other characters in its strings and is taken apart as before: the
  same segments in the same places, and blocks of the same shape (`segments_inert`). What may be
  replaced is said of offsets of the template (`StringChange`), and is brought down to the bodies of
  its code segments and to their tokens step by step:

  - in a body, from its marks to a `Revised` copy (`revised_of_lexed`);
  - the scan passes the copy as it passed the body (`BodyScan.revised`);
  - chunk by chunk the two templates are cut alike (`chunks_inert`).

  One replacement is not inert: a quote of character literals right behind the quote that opens a
  string, if another one stands right before it, since the three are a character literal then.
-/

namespace Stencil

open Dialect (rust)

/-! ### Where a character may be replaced -/

/-- The character at `j` of a text stands between the delimiters of the string `e`. -/
structure InString (t : Text) (e : Token.Extent) (j : Nat) : Prop where
  string : e.kind = .string
  opened : e.start + (Token.opening (t.slice e.start e.stop)).length ≤ j
  closed : j + (Token.closing (t.slice e.start e.stop)).length < e.stop

/-- The character at `j` of a text stands in one of its strings. -/
def InSomeString (t : Text) (ms : List Mark) (j : Nat) : Prop :=
  ∃ e ∈ tokensFrom 0 ms, InString t e j

/-- The character at `j` of a text is the first one of a token behind its first character, and a
plain quote of character literals stands before the token. -/
def BehindQuotes (t : Text) (ms : List Mark) (j : Nat) : Prop :=
  ∃ e ∈ tokensFrom 0 ms, ∃ i, e.start = i + 1 ∧ j = i + 2 ∧ PlainAt t ms '\'' i

/-- What holds at the place of a body that is at offset `k` of a template with the given segments. -/
def InCode (P : Text → List Mark → Nat → Prop) (ss : List Segment) (k : Nat) : Prop :=
  ∃ s ∈ ss, s.kind = .code ∧ ∃ ms, marks rust s.text = .ok ms ∧ ∃ j, k = s.bodyStart + j ∧
    P s.text ms j

/-- A character in a string of a code block is replaced. -/
def StringChange (ss : List Segment) (k : Nat) (c c' : Char) : Prop :=
  Replaceable c c' ∧ InCode InSomeString ss k

/-- A character in a string of a code block is replaced, and no character literal comes about. -/
def InertChange (ss : List Segment) (k : Nat) (c c' : Char) : Prop :=
  StringChange ss k c c' ∧ ¬ (c' = '\'' ∧ InCode BehindQuotes ss k)

/-- A character in a string of a body is replaced, and no character literal comes about. -/
def BodyChange (t : Text) (ms : List Mark) (j : Nat) (c c' : Char) : Prop :=
  Replaceable c c' ∧ InSomeString t ms j ∧ ¬ (c' = '\'' ∧ BehindQuotes t ms j)

variable {before : Option Char} {depth k o : Nat} {kind : Token.Kind} {c c' : Char}
  {rest r t t' x : Text} {ms : List Mark} {ss : List Segment}

/-! ### Tokens and their places -/

theorem slice_append_shift (r t : Text) (a b : Nat) :
    Text.slice (r ++ t) (a + r.length) (b + r.length) = t.slice a b := by
  unfold Text.slice
  rw [Nat.add_comm a, ← List.drop_drop, List.drop_left, Nat.add_comm b, Nat.add_sub_add_left]

/-- What may be replaced behind a part of a text, whose tokens are `es`, may be replaced in what
follows the part alone. -/
theorem BodyChange.of_append (r : Text) (mr : List Mark) (es : List Token.Extent)
    (hlen : mr.length = r.length)
    (htokens : tokensFrom 0 (mr ++ ms) = es ++ (tokensFrom 0 ms).map (Token.Extent.shift r.length))
    (hes : ∀ e ∈ es, e.stop ≤ r.length) (h : BodyChange (r ++ t) (mr ++ ms) (k + r.length) c c') :
    BodyChange t ms k c c' := by
  obtain ⟨hreplace, ⟨e, he, hin⟩, hliteral⟩ := h
  rw [htokens] at he
  refine ⟨hreplace, ?_, fun hbad => hliteral ⟨hbad.1, ?_⟩⟩
  · -- The string that holds the place is none of those in the part, which end before it.
    rcases List.mem_append.mp he with he | he
    · have := hes e he
      have := hin.closed
      omega
    · obtain ⟨e, hmem, rfl⟩ := List.mem_map.mp he
      have hslice : (r ++ t).slice (e.start + r.length) (e.stop + r.length) =
          t.slice e.start e.stop := slice_append_shift r t e.start e.stop
      refine ⟨e, hmem, hin.string, ?_, ?_⟩
      · have hopened := hin.opened
        simp only [Token.Extent.shift] at hopened
        rw [hslice] at hopened
        omega
      · have hclosed := hin.closed
        simp only [Token.Extent.shift] at hclosed
        rw [hslice] at hclosed
        omega
  · obtain ⟨_, e, he, i, hstart, rfl, ht, hm⟩ := hbad
    refine ⟨e.shift r.length, ?_, i + r.length, ?_, ?_, ?_, ?_⟩
    · rw [htokens]
      exact List.mem_append_right _ (List.mem_map.mpr ⟨e, he, rfl⟩)
    · show e.start + r.length = i + r.length + 1
      omega
    · omega
    · rwa [List.getElem?_append_right (Nat.le_add_left _ _), Nat.add_sub_cancel]
    · rwa [List.getElem?_append_right (by omega), hlen, Nat.add_sub_cancel]

/-- A text in whose strings characters are replaced is a revised one. -/
theorem revised_of_lexed (h : Lexed rust before t ms) (hdiff : Differ (BodyChange t ms) t t') :
    Revised t t' ms := by
  induction h generalizing t' with
  | nil =>
    obtain rfl := List.eq_nil_of_length_eq_zero hdiff.length
    exact .nil
  | @plain _ c t ms _ _ ih =>
    obtain ⟨c', t', rfl, hc, ht⟩ := hdiff.cons
    have htokens : tokensFrom 0 (.plain :: ms) = (tokensFrom 0 ms).map (Token.Extent.shift 1) := by
      rw [← tokensFrom_shift]
      rfl
    -- The strings of the text lie behind its first character.
    have hstart {j : Nat} {y y' : Char} (h : BodyChange (c :: t) (.plain :: ms) j y y') :
        ∃ e ∈ tokensFrom 0 (.plain :: ms), 1 ≤ e.start ∧ e.start < j := by
      obtain ⟨_, ⟨e, he, hin⟩, _⟩ := h
      refine ⟨e, he, (@stop_le_of_mem_tokensFrom e 1 ms he).1, ?_⟩
      have hopened := hin.opened
      unfold Token.opening at hopened
      rw [List.length_append, List.length_singleton] at hopened
      omega
    have hsame : c = c' := by
      apply Classical.byContradiction
      intro hne
      obtain ⟨_, _, _, hlt⟩ := hstart (hc hne)
      exact absurd hlt (Nat.not_lt_zero _)
    rw [← hsame]
    refine .plain ?_ (ih (ht.mono fun _ _ _ _ => BodyChange.of_append [c] [.plain] [] rfl htokens
      (fun _ h => absurd h List.not_mem_nil)))
    intro hquote w w' hw hw' hhead
    apply Classical.byContradiction
    intro hno
    obtain ⟨v', rfl⟩ := List.head?_eq_some_iff.mp hhead
    obtain ⟨y, v, rfl⟩ : ∃ y v, w = y :: v := List.exists_cons_of_ne_nil (by
      rintro rfl
      have := ht.length
      simp [hw, hw'] at this)
    -- The replaced character stands right behind the quote that opens its string.
    have hchange : BodyChange (c :: t) (.plain :: ms) 2 y '\'' :=
      ht.changed (k := 1) (by rw [hw]; rfl) (by rw [hw']; rfl) (by simpa using hno)
    obtain ⟨e, he, hge, hlt⟩ := hstart hchange
    exact hchange.2.2 ⟨rfl, e, he, 0, by omega, rfl, by rw [hquote]; rfl, rfl⟩
  | @token _ kind c x t ms _ next ih =>
    have htokens := tokensFrom_append 0
      (.opens kind :: List.replicate x.length (.inside kind)) next.head_ne_inside
    rw [tokensFrom_single, List.length_cons, List.length_replicate, List.cons_append] at htokens
    obtain ⟨u', t', rfl, hu, ht⟩ := Differ.append (r := c :: x) hdiff
    have hnext := ih (ht.mono fun _ _ _ _ => BodyChange.of_append (c :: x)
      (.opens kind :: List.replicate x.length (.inside kind)) [⟨kind, 0, x.length + 1⟩] (by simp)
      htokens (by simp))
    -- What is replaced in the token is replaced in its content.
    have hfirst {k : Nat} {y y' : Char} (hk : k < (c :: x).length)
        (h : BodyChange (c :: (x ++ t))
          (.opens kind :: (List.replicate x.length (.inside kind) ++ ms)) k y y') :
        kind = .string ∧ (Token.opening (c :: x)).length ≤ k ∧
          k + (Token.closing (c :: x)).length < (c :: x).length := by
      obtain ⟨_, ⟨e, he, hin⟩, _⟩ := h
      rw [htokens] at he
      rcases List.mem_cons.mp he with rfl | he
      · have hslice : Text.slice (c :: (x ++ t)) 0 (x.length + 1) = c :: x := by
          show ((c :: x) ++ t).take (c :: x).length = c :: x
          exact List.take_left
        obtain ⟨hstring, hopened, hclosed⟩ := hin
        dsimp only at hstring hopened hclosed
        rw [hslice] at hopened hclosed
        exact ⟨hstring, by omega, hclosed⟩
      · obtain ⟨e, _, rfl⟩ := List.mem_map.mp he
        have hopened := hin.opened
        simp only [Token.Extent.shift, List.length_cons] at hopened hk
        omega
    obtain ⟨c', x', rfl, hc, _⟩ := hu.cons
    have hsame : c = c' := by
      apply Classical.byContradiction
      intro hne
      have := (hfirst (Nat.succ_pos _) (hc hne)).2.1
      simp [Token.opening] at this
    subst hsame
    refine .token ?_ hnext
    by_cases hstring : kind = .string
    · exact .inr ⟨hstring, hu.mono fun _ _ _ hy h =>
        ⟨h.1, (hfirst (List.getElem?_eq_some_iff.mp hy).1 h).2⟩⟩
    · left
      have hkeep := hu.eq fun _ _ _ hk h => hstring (hfirst hk h).1
      exact (List.cons.inj hkeep).2

/-! ### Scans of revised code -/

/-- A scan that stands in a token passes it as far as its marks go. -/
theorem BodyScan.skip {d : Dialect} {n : Nat} (hms : ms.head? ≠ some (.inside kind))
    (h : BodyScan d depth kind n before (x ++ t) rest
      (List.replicate x.length (.inside kind) ++ ms)) :
    n = x.length ∧ BodyScan d depth kind 0 (x.getLast?.or before) t rest ms := by
  induction x generalizing n before with
  | nil =>
    cases n with
    | zero => exact ⟨rfl, h⟩
    | succ n =>
      -- Something would be left of the token, but its marks have all been passed.
      generalize ht : [] ++ t = body at h
      generalize hmarks : List.replicate ([] : Text).length (Mark.inside kind) ++ ms = marks at h
      cases h with
      | inside next =>
        rw [List.length_nil, List.replicate_zero, List.nil_append] at hmarks
        rw [hmarks] at hms
        exact absurd rfl hms
  | cons c x ih =>
    rw [List.cons_append, List.length_cons, List.replicate_succ, List.cons_append] at h
    cases h with
    | inside next =>
      obtain ⟨rfl, hscan⟩ := ih next
      rw [or_getLast?] at hscan
      rw [List.getLast?_cons] at hscan ⊢
      exact ⟨rfl, hscan⟩

/-- What is left over from a token is passed, whatever it is. -/
theorem BodyScan.inside_append {d : Dialect} (x : Text)
    (h : BodyScan d depth kind 0 (x.getLast?.or before) t rest ms) :
    BodyScan d depth kind x.length before (x ++ t) rest
      (List.replicate x.length (.inside kind) ++ ms) := by
  induction x generalizing before with
  | nil => exact h
  | cons c x ih =>
    rw [List.getLast?_cons] at h
    refine .inside (ih ?_)
    rw [or_getLast?, List.getLast?_cons]
    exact h

/-- The scan of a code block passes revised code as it passed the code. -/
theorem BodyScan.revised (hrev : Revised t t' ms)
    (h : BodyScan rust depth kind 0 before t rest ms) :
    BodyScan rust depth kind 0 before t' rest ms := by
  induction hrev generalizing depth kind before with
  | nil => exact h
  | plain hliteral next ih =>
    cases h with
    | up hnone hscan => exact .up (at?_none_revised next hliteral hnone) (ih hscan)
    | down hnone hscan => exact .down (at?_none_revised next hliteral hnone) (ih hscan)
    | plain hnone hopen hclose hscan =>
      exact .plain (at?_none_revised next hliteral hnone) hopen hclose (ih hscan)
  | @token kind' c x x' t t' ms hx next ih =>
    have hlen := Token.length_of_kept hx
    generalize hbody : c :: (x ++ t) = body at h
    cases h with
    | token htoken hscan =>
      obtain ⟨rfl, rfl⟩ := List.cons.inj hbody
      obtain ⟨rfl, hrest⟩ := hscan.skip (next.head?_ne_inside kind')
      rw [List.append_assoc] at htoken
      have htoken' := at?_token_revised (s := '}' :: rest) next hx htoken
      -- The token ends in the same character.
      have hlast : x'.getLast?.or (some c) = x.getLast?.or (some c) := by
        rw [or_getLast?, or_getLast?]
        rcases hx with rfl | ⟨_, hx⟩
        · rfl
        · exact hx.alike.2
      rw [← hlast] at hrest
      have hnext := (ih hrest).inside_append x'
      rw [hlen] at hnext
      refine .token ?_ hnext
      rw [List.append_assoc]
      exact htoken'

/-- Rust code is lexed alone as it was scanned. -/
theorem marks_of_bodyScan (h : BodyScan rust 0 .comment 0 (some '{') t rest ms) :
    marks rust t = .ok ms := by
  have hcut : Cuttable rust := by
    constructor
    · intro _ p hp hmem
      exact absurd (Dialect.mem_rust_prefixes hp hmem) (by decide)
    · intro m hm
      obtain ⟨m, hm', _, hfeed⟩ := Dialect.rust_regular.markers _ hm
      obtain rfl := Entry.text.inj hm'
      have hall : ∀ y ∈ m, decide (y ≠ '\n') = true := by
        intro y hy
        rw [decide_eq_true_iff]
        rintro rfl
        exact hfeed hy
      rw [List.dropWhile_eq_nil_iff.mpr hall]
      exact List.not_mem_nil
  unfold marks
  rw [← marksFrom_after (c := '{') (by decide) (by decide)]
  exact h.marksFrom hcut (fun _ _ hb => (Dialect.rust_regular.delimiters _ _ hb).2) 0

/-! ### Chunks of the template -/

/-- Two chunks that are the same, or blocks of code that is revised. -/
inductive Chunk.SameTokens : Chunk → Chunk → Prop
  | plain {c : Char} : SameTokens (.plain c) (.plain c)
  | doubled {c : Char} : SameTokens (.doubled c) (.doubled c)
  | block {body body' : Text} {ms : List Mark} (h : Revised body body' ms)
      (hms : marks rust body = .ok ms) (hms' : marks rust body' = .ok ms) :
      SameTokens (.block body) (.block body')

/-- Segments of the same kind and in the same place, of which those with code have the same shape. -/
structure Segment.SameShape (s s' : Segment) : Prop where
  kind : s'.kind = s.kind
  start : s'.start = s.start
  stop : s'.stop = s.stop
  literal : s.kind = .literal → s'.text = s.text
  code : s.kind = .code →
    Block.SameShape (Block.read rust s.bodyStart s.text) (Block.read rust s'.bodyStart s'.text)

variable {cs cs' : List Chunk} {ss' : List Segment} {P : Text → List Mark → Nat → Prop}

theorem Segment.sameShape_literal (t : Text) (start stop : Nat) :
    Segment.SameShape ⟨.literal, t, start, stop⟩ ⟨.literal, t, start, stop⟩ where
  kind := rfl
  start := rfl
  stop := rfl
  literal _ := rfl
  code h := absurd h (by simp)

theorem Segment.prepend_sameShape (c : Char) (o width : Nat)
    (h : List.Forall₂ Segment.SameShape ss ss') :
    List.Forall₂ Segment.SameShape (prepend c o width ss) (prepend c o width ss') := by
  cases h with
  | nil => exact .cons (sameShape_literal _ _ _) .nil
  | @cons s s' ss ss' hs hss =>
    obtain ⟨kind, text, start, stop⟩ := s
    obtain ⟨kind', text', start', stop'⟩ := s'
    obtain rfl : kind' = kind := hs.kind
    obtain rfl : stop' = stop := hs.stop
    cases kind' with
    | literal =>
      obtain rfl : text' = text := hs.literal rfl
      exact .cons (sameShape_literal _ _ _) hss
    | code => exact .cons (sameShape_literal _ _ _) (.cons hs hss)

/-- Chunks with the same tokens make up segments of the same shape. -/
theorem ofChunks_sameShape (h : List.Forall₂ Chunk.SameTokens cs cs') (o : Nat) :
    List.Forall₂ Segment.SameShape (Segment.ofChunks o cs) (Segment.ofChunks o cs') := by
  induction h generalizing o with
  | nil => exact .nil
  | cons hc _ ih =>
    cases hc with
    | plain => exact Segment.prepend_sameShape _ o 1 (ih (o + 1))
    | doubled => exact Segment.prepend_sameShape _ o 2 (ih (o + 2))
    | @block body body' ms h hms hms' =>
      rw [Segment.ofChunks, Segment.ofChunks, h.length_eq]
      refine .cons ?_ (ih _)
      exact {
        kind := rfl
        start := rfl
        stop := rfl
        literal := fun h => absurd h (by simp)
        code := fun _ => Block.read_sameShape h hms hms' }

/-! ### Changes of the template, chunk by chunk -/

/-- The segments of a text lie in it. -/
theorem le_start_of_mem_ofChunks (h : chunksFrom rust 0 o t = .ok cs) {s : Segment}
    (hs : s ∈ Segment.ofChunks o cs) : o ≤ s.start := by
  obtain ⟨pre, _, _, _, hstart, _⟩ := (tiling_of_chunks h).covers_of_mem hs
  omega

/-- No code stands at the offset of a text, where its first brace would be, or before. -/
theorem InCode.lt (h : chunksFrom rust 0 o t = .ok cs) (hin : InCode P (Segment.ofChunks o cs) k) :
    o < k := by
  obtain ⟨s, hs, _, _, _, j, rfl, _⟩ := hin
  have := le_start_of_mem_ofChunks h hs
  unfold Segment.bodyStart
  omega

theorem InertChange.lt (h : chunksFrom rust 0 o t = .ok cs)
    (hin : InertChange (Segment.ofChunks o cs) k c c') : o < k :=
  hin.1.2.lt h

/-- Literal characters in front leave the code where it is. -/
theorem inCode_prepend_iff {a : Char} {width : Nat} :
    InCode P (Segment.prepend a o width ss) k ↔ InCode P ss k := by
  constructor
  · rintro ⟨s, hs, hcode, h⟩
    exact ⟨s, Segment.mem_of_mem_prepend hs hcode, hcode, h⟩
  · rintro ⟨s, hs, hcode, h⟩
    refine ⟨s, ?_, hcode, h⟩
    unfold Segment.prepend
    split
    · rcases List.mem_cons.mp hs with rfl | hs
      · simp at hcode
      · exact List.mem_cons_of_mem _ hs
    · exact List.mem_cons_of_mem _ hs

theorem inertChange_prepend_iff {a : Char} {width : Nat} :
    InertChange (Segment.prepend a o width ss) k c c' ↔ InertChange ss k c c' := by
  unfold InertChange StringChange
  rw [inCode_prepend_iff, inCode_prepend_iff]

/-- A changed template begins as before. -/
theorem head?_of_differ (h : chunksFrom rust 0 o t = .ok cs)
    (hdiff : Differ (fun k => InertChange (Segment.ofChunks o cs) (o + k)) t t') :
    t'.head? = t.head? := by
  rw [List.head?_eq_getElem?, List.head?_eq_getElem?]
  exact hdiff.getElem?_eq fun _ _ _ hbad => absurd (hbad.lt h) (Nat.lt_irrefl o)

/-- Literal text stays. -/
theorem literal_of_differ (r : Text) {a : Char} {width : Nat} (hwidth : r.length = width)
    (h : chunksFrom rust 0 (o + width) t = .ok cs)
    (hdiff : Differ (fun k =>
      InertChange (Segment.prepend a o width (Segment.ofChunks (o + width) cs)) (o + k)) (r ++ t) x) :
    ∃ t', x = r ++ t' ∧
      Differ (fun k => InertChange (Segment.ofChunks (o + width) cs) (o + width + k)) t t' := by
  obtain ⟨r', t', rfl, hr, ht⟩ := hdiff.append
  obtain rfl := hr.eq fun k _ _ hk hbad => by
    have := (inertChange_prepend_iff.mp hbad).lt h
    omega
  refine ⟨t', rfl, ht.mono fun k _ _ _ hchange => ?_⟩
  have hplace : o + (k + r'.length) = o + width + k := by omega
  rw [hplace, inertChange_prepend_iff] at hchange
  exact hchange

/-- A change of a template that begins with a code block is one of the block or one behind it. -/
theorem inertChange_block (hms : marks rust t = .ok ms)
    (h : chunksFrom rust 0 (o + t.length + 2) rest = .ok cs)
    (hchange : InertChange (⟨.code, t, o, o + t.length + 2⟩ ::
      Segment.ofChunks (o + t.length + 2) cs) (o + k) c c') :
    (∃ j, k = j + 1 ∧ j < t.length ∧ BodyChange t ms j c c') ∨
      t.length + 2 < k ∧ InertChange (Segment.ofChunks (o + t.length + 2) cs) (o + k) c c' := by
  obtain ⟨⟨hreplace, s, hs, hcode, ms', hms', j, hk, hin⟩, hliteral⟩ := hchange
  rcases List.mem_cons.mp hs with rfl | hs
  · -- The change lies in the body of this block.
    obtain rfl : ms = ms' := Except.ok.inj (hms.symm.trans hms')
    have hkj : k = j + 1 := by
      unfold Segment.bodyStart at hk
      dsimp only at hk
      omega
    refine .inl ⟨j, hkj, ?_, hreplace, hin, fun hbad => hliteral ⟨hbad.1, ?_⟩⟩
    · obtain ⟨e, he, hin⟩ := hin
      have hstop := (stop_le_of_mem_tokensFrom he).2
      have hclosed := hin.closed
      have hlen := length_marksFrom hms
      dsimp only at hclosed
      omega
    · exact ⟨_, List.mem_cons_self, rfl, ms, hms, j, hk, hbad.2⟩
  · -- The change lies in a segment behind it.
    have hchange : InertChange (Segment.ofChunks (o + t.length + 2) cs) (o + k) c c' := by
      refine ⟨⟨hreplace, s, hs, hcode, ms', hms', j, hk, hin⟩, fun hbad => hliteral ⟨hbad.1, ?_⟩⟩
      obtain ⟨s, hs, h⟩ := hbad.2
      exact ⟨s, List.mem_cons_of_mem _ hs, h⟩
    have := hchange.lt h
    exact .inr ⟨by omega, hchange⟩

/-- A changed template that begins with a code block begins with a changed one. -/
theorem block_of_differ (hms : marks rust t = .ok ms)
    (h : chunksFrom rust 0 (o + t.length + 2) rest = .ok cs)
    (hdiff : Differ (fun k => InertChange (⟨.code, t, o, o + t.length + 2⟩ ::
      Segment.ofChunks (o + t.length + 2) cs) (o + k)) ('{' :: (t ++ '}' :: rest)) x) :
    ∃ t' rest', x = '{' :: (t' ++ '}' :: rest') ∧ Differ (BodyChange t ms) t t' ∧
      Differ (fun k => InertChange (Segment.ofChunks (o + t.length + 2) cs)
        (o + t.length + 2 + k)) rest rest' := by
  -- A change lies in the body or behind the block, so that the braces of the block stay.
  have brace {c' : Char} {k : Nat} (hk : k = 0 ∨ k = t.length + 1) {a : Char}
      (hbad : a ≠ c' → InertChange (⟨.code, t, o, o + t.length + 2⟩ ::
        Segment.ofChunks (o + t.length + 2) cs) (o + k) a c') : a = c' := by
    apply Classical.byContradiction
    intro hne
    rcases inertChange_block hms h (hbad hne) with ⟨j, hj, hlt, _⟩ | ⟨hlt, _⟩
    · omega
    · omega
  obtain ⟨c', x, rfl, hc, hx⟩ := hdiff.cons
  obtain ⟨t', x, rfl, ht, hx⟩ := hx.append
  obtain ⟨c'', rest', rfl, hc', hrest⟩ := hx.cons
  obtain rfl := brace (.inl rfl) hc
  obtain rfl := brace (k := 0 + t.length + 1) (.inr (by omega)) hc'
  refine ⟨t', rest', rfl, ht.mono fun k y _ hy hchange => ?_, hrest.mono fun k _ _ _ hchange => ?_⟩
  · have hk := (List.getElem?_eq_some_iff.mp hy).1
    rcases inertChange_block hms h hchange with ⟨j, hj, _, hchange⟩ | ⟨hlt, _⟩
    · obtain rfl : k = j := by omega
      exact hchange
    · omega
  · rcases inertChange_block hms h hchange with ⟨j, hj, hlt, _⟩ | ⟨_, hchange⟩
    · omega
    · have hplace : o + (k + 1 + t.length + 1) = o + t.length + 2 + k := by omega
      rw [hplace] at hchange
      exact hchange

/-- A changed template is cut like the template. The induction is on the length of the text, since a
chunk takes several characters at once. -/
theorem chunks_inert (h : chunksFrom rust 0 o t = .ok cs)
    (hdiff : Differ (fun k => InertChange (Segment.ofChunks o cs) (o + k)) t t') :
    ∃ cs', chunksFrom rust 0 o t' = .ok cs' ∧ List.Forall₂ Chunk.SameTokens cs cs' := by
  induction hlen : t.length using Nat.strongRecOn generalizing o t t' cs with
  | ind len ih =>
    cases t with
    | nil =>
      obtain rfl : [] = cs := Except.ok.inj h
      obtain rfl := List.eq_nil_of_length_eq_zero hdiff.length
      exact ⟨[], rfl, .nil⟩
    | cons c t =>
      rw [List.length_cons] at hlen
      rw [chunksFrom] at h
      split at h
      · -- A doubled brace.
        next hdouble =>
        rw [Bool.and_eq_true, decide_eq_true_iff] at hdouble
        obtain ⟨hc, hhead⟩ := hdouble
        obtain ⟨t, rfl⟩ := List.head?_eq_some_iff.mp hhead
        obtain ⟨cs, hcs, rfl⟩ := Outcome.map_ok_iff.mp h
        rw [chunksFrom_skip] at hcs
        obtain ⟨t', rfl, ht⟩ := literal_of_differ [c, c] rfl hcs hdiff
        obtain ⟨cs', hcs', hsame⟩ :=
          ih t.length (by rw [← hlen, List.length_cons]; omega) hcs ht rfl
        refine ⟨.doubled c :: cs', ?_, .cons .doubled hsame⟩
        show chunksFrom rust 0 o (c :: c :: t') = _
        rw [chunksFrom, List.head?_cons, if_pos (by simp [hc]), chunksFrom_skip, List.drop_succ_cons,
          List.drop_zero, hcs']
        rfl
      · next hdouble =>
        split at h
        · -- A block of code.
          next hopen =>
          subst hopen
          obtain ⟨n, hn, h⟩ := Outcome.bind_ok_iff.mp h
          obtain ⟨body, rest, ms, rfl, rfl, _, hscan⟩ := bodyScan_of_bodyLength hn
          obtain ⟨cs, hcs, rfl⟩ := Outcome.map_ok_iff.mp h
          have hskip (u v : Text) : (u ++ '}' :: v).drop (u.length + 1) = v := by
            rw [← List.drop_drop, List.drop_left]
            rfl
          have hoffset : o + 1 + (body.length + 1) = o + body.length + 2 := by omega
          rw [chunksFrom_skip, hskip, hoffset] at hcs
          rw [List.take_left] at hdiff ⊢
          have hms := marks_of_bodyScan hscan
          obtain ⟨body', rest', rfl, hbody, hrest⟩ := block_of_differ hms hcs hdiff
          have hrev := revised_of_lexed (marks_ok_iff.mp hms) hbody
          have hshort : rest.length < len := by
            rw [← hlen, List.length_append, List.length_cons]
            omega
          obtain ⟨cs', hcs', hsame⟩ := ih rest.length hshort hcs hrest rfl
          -- First the text behind the block is changed, and then the block.
          have hbrace : rust.Inert '}' := Dialect.rust_inert ⟨by decide, by decide⟩ (by decide)
          have hswap : BodyScan rust 0 .comment 0 (some '{') body rest' ms := by
            refine hscan.swap Dialect.rust_regular hbrace fun q hq _ => ?_
            rw [← head?_of_differ hcs hrest]
            exact hq
          have hnew := BodyScan.revised hrev hswap
          refine ⟨.block body' :: cs', ?_, .cons (.block hrev hms (marks_of_bodyScan hnew)) hsame⟩
          have hdouble' : ¬ (('{' = '{' || '{' = '}') &&
              (body' ++ '}' :: rest').head? = some '{') = true := by
            have hhead : (body' ++ '}' :: rest').head? = (body ++ '}' :: rest).head? := by
              rw [hrev.head?_append]
              cases body <;> rfl
            rw [hhead]
            exact hdouble
          rw [chunksFrom, if_neg hdouble', if_pos rfl, hnew.bodyLength_eq, Outcome.ok_bind,
            chunksFrom_skip, hskip, List.take_left, hrev.length_eq, hoffset, hcs']
          rfl
        · -- A character that stands for itself.
          next hopen =>
          obtain ⟨cs, hcs, rfl⟩ := Outcome.map_ok_iff.mp h
          obtain ⟨t', rfl, ht⟩ := literal_of_differ [c] rfl hcs hdiff
          obtain ⟨cs', hcs', hsame⟩ := ih t.length (by omega) hcs ht rfl
          refine ⟨.plain c :: cs', ?_, .cons .plain hsame⟩
          show chunksFrom rust 0 o (c :: t') = _
          rw [chunksFrom, head?_of_differ hcs ht, if_neg hdouble, if_neg hopen, hcs']
          rfl

/-! ### The segments of the template -/

/-- A template whose strings hold other characters has the same segments in the same places, and
blocks of the same shape. -/
theorem segments_inert (h : segments rust t = .ok ss) (hdiff : Differ (InertChange ss) t t') :
    ∃ ss', segments rust t' = .ok ss' ∧ List.Forall₂ Segment.SameShape ss ss' := by
  obtain ⟨cs, hcs, hss⟩ := Outcome.bind_ok_iff.mp h
  split at hss
  · -- An empty template.
    next hnil =>
    have htiling := tiling_of_chunks hcs
    rw [hnil] at htiling
    obtain rfl := htiling.eq_nil
    obtain rfl := Except.ok.inj hss
    obtain rfl := List.eq_nil_of_length_eq_zero hdiff.length
    exact ⟨_, h, .cons (Segment.sameShape_literal _ _ _) .nil⟩
  · next hne =>
    obtain rfl := Except.ok.inj hss
    obtain ⟨cs', hcs', hsame⟩ := chunks_inert hcs (hdiff.mono fun k _ _ _ h => by
      rwa [Nat.zero_add])
    have hshape := ofChunks_sameShape hsame 0
    refine ⟨_, segments_of_chunks hcs' ?_, hshape⟩
    intro hnil
    rw [hnil] at hshape
    exact hne (List.forall₂_nil_right_iff.mp hshape)

/-- A text with one character replaced. -/
theorem differ_set {P : Nat → Char → Char → Prop} {t : Text} {k : Nat} {c c' : Char}
    (hc : t[k]? = some c) (hP : P k c c') : Differ P t (t.set k c') := by
  refine ⟨List.length_set, fun {i y y'} hy hy' hne => ?_⟩
  by_cases hi : k = i
  · subst hi
    obtain rfl := Option.some.inj (hc.symm.trans hy)
    rw [List.getElem?_set_self (List.getElem?_eq_some_iff.mp hy).1] at hy'
    obtain rfl := Option.some.inj hy'
    exact hP
  · rw [List.getElem?_set_ne hi] at hy'
    exact absurd (Option.some.inj (hy.symm.trans hy')) hne

/-- The only segment of the template `{r#"a"#:x}`. -/
def rawSegment : Segment := ⟨.code, ['r', '#', '"', 'a', '"', '#', ':', 'x'], 0, 10⟩

/-- In the template `{r#"a"#:x}` a brace may stand in place of the letter. -/
theorem segments_inert_brace :
    segments rust ['{', 'r', '#', '"', 'a', '"', '#', ':', 'x', '}'] = .ok [rawSegment] ∧
      Differ (InertChange [rawSegment]) ['{', 'r', '#', '"', 'a', '"', '#', ':', 'x', '}']
        ['{', 'r', '#', '"', '}', '"', '#', ':', 'x', '}'] ∧
      ∃ ss', segments rust ['{', 'r', '#', '"', '}', '"', '#', ':', 'x', '}'] = .ok ss' ∧
        List.Forall₂ Segment.SameShape [rawSegment] ss' := by
  have hsegments : segments rust ['{', 'r', '#', '"', 'a', '"', '#', ':', 'x', '}'] =
      .ok [rawSegment] := Outcome.ok_of_toOption (by decide +kernel)
  have hmarks : marks rust rawSegment.text = .ok (.opens .string ::
      (List.replicate 5 (.inside .string) ++ [.plain, .plain])) :=
    Outcome.ok_of_toOption (by decide +kernel)
  have hstring : InSomeString rawSegment.text (.opens .string ::
      (List.replicate 5 (.inside .string) ++ [.plain, .plain])) 3 :=
    ⟨⟨.string, 0, 6⟩, List.mem_cons_self, rfl, by decide, by decide⟩
  have hdiff : Differ (InertChange [rawSegment]) ['{', 'r', '#', '"', 'a', '"', '#', ':', 'x', '}']
      ['{', 'r', '#', '"', '}', '"', '#', ':', 'x', '}'] :=
    differ_set (k := 4) (c := 'a') rfl
      ⟨⟨by decide, rawSegment, List.mem_cons_self, rfl, _, hmarks, 3, rfl, hstring⟩,
        fun h => absurd h.1 (by decide)⟩
  exact ⟨hsegments, hdiff, segments_inert hsegments hdiff⟩

/-- The only segment of the template `{'"a"}`. -/
def lifetimeSegment : Segment := ⟨.code, ['\'', '"', 'a', '"'], 0, 6⟩

/-- Behind a plain quote of character literals a string may not begin with another one: the three
quotes are a literal then, and the one behind them opens a string that does not end. -/
theorem segments_not_inert :
    segments rust ['{', '\'', '"', 'a', '"', '}'] = .ok [lifetimeSegment] ∧
      Differ (StringChange [lifetimeSegment]) ['{', '\'', '"', 'a', '"', '}']
        ['{', '\'', '"', '\'', '"', '}'] ∧
      ¬ ∃ ss', segments rust ['{', '\'', '"', '\'', '"', '}'] = .ok ss' := by
  have hmarks : marks rust lifetimeSegment.text =
      .ok [.plain, .opens .string, .inside .string, .inside .string] :=
    Outcome.ok_of_toOption (by decide +kernel)
  have hstring : InSomeString lifetimeSegment.text
      [.plain, .opens .string, .inside .string, .inside .string] 2 :=
    ⟨⟨.string, 1, 4⟩, List.mem_cons_self, rfl, by decide, by decide⟩
  refine ⟨Outcome.ok_of_toOption (by decide +kernel), differ_set (k := 3) (c := 'a') rfl
    ⟨by decide, lifetimeSegment, List.mem_cons_self, rfl, _, hmarks, 2, rfl, hstring⟩, ?_⟩
  rintro ⟨ss', hss⟩
  have hnone : (segments rust ['{', '\'', '"', '\'', '"', '}']).toOption = none := by
    decide +kernel
  rw [hss] at hnone
  cases hnone

end Stencil
