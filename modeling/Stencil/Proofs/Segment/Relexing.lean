import Mathlib.Data.List.Defs
import Stencil.Block
import Stencil.Proofs.Dialect.Record
import Stencil.Proofs.Segment.Tiling
import Stencil.Proofs.Token.Extent
import Stencil.Proofs.Token.Marks

/-! # A code block is lexed as it was scanned

  The scan for the end of a code block lexes the template from the block on. Later the body of the
  block is lexed once more, alone: the character before it and everything after it are gone. Both
  find the same tokens, because the scan passes every token as a whole and stops at a brace.

  A dialect can break this with a string prefix that holds a brace, or with a comment marker that
  goes on past the end of a line and holds a brace there; `Cuttable` excludes both, and the two
  dialects at the end of this file show that neither condition can be dropped.
-/

namespace Stencil

/-! ### Cuts before a closing brace -/

/-- What a dialect must not have for its code blocks to be lexed alone. -/
structure Cuttable (d : Dialect) : Prop where
  /-- Before a raw string with hashes stands no prefix with a closing brace. -/
  prefixes : d.rawHashes = true → ∀ p, Entry.text p ∈ d.stringPrefixes → '}' ∉ p
  /-- No comment marker has a closing brace after a line feed. -/
  markers : ∀ m, Entry.text m ∈ d.lineComments → '}' ∉ m.dropWhile (· ≠ '\n')

namespace Token

variable {d : Dialect} {before : Option Char} {r post : Text}

theorem caseless_brace : Caseless '}' where
  own := by decide
  notSigma := by decide

/-- A lead that reaches the closing brace has the quote of a string behind it: otherwise a raw
string stands there, and its prefix holds the brace. -/
theorem lead_reaches_brace (hcut : Cuttable d) (hr : r ≠ [])
    (h : r.length ≤ (lead d before (r ++ '}' :: post)).length) :
    ∃ c body, (r ++ '}' :: post).drop (lead d before (r ++ '}' :: post)).length = c :: body ∧
      d.isQuote c = true := by
  obtain ⟨c, body, hdrop, hopen, hreach⟩ := lead_reaches caseless_brace hr h
  refine ⟨c, body, hdrop, ?_⟩
  rcases hopen with hquote | ⟨hraw, hc⟩
  · exact hquote
  · exfalso
    rcases hreach with ⟨p, hp, hmem⟩ | rfl
    · exact hcut.prefixes hraw p hp hmem
    · exact absurd hc (by decide)

/-- A line comment that ends before the brace has its marker before the brace. -/
theorem marker_fits (hcut : Cuttable d) {m : Text} (hm : Entry.text m ∈ d.lineComments)
    (hpre : m.isPrefixOf (r ++ '}' :: post) = true)
    (hline : ((r ++ '}' :: post).takeWhile (· ≠ '\n')).length ≤ r.length) :
    m.length ≤ r.length := by
  rw [← Nat.not_lt]
  intro hlong
  apply hcut.markers m hm
  obtain ⟨u, hu⟩ := List.isPrefixOf_iff_prefix.mp hpre
  -- If `r` were all on one line, the comment would pass the brace.
  have hends : r.dropWhile (· ≠ '\n') ≠ [] := by
    intro hall
    have hwhole : ('}' :: post).takeWhile (· ≠ '\n') = '}' :: post.takeWhile (· ≠ '\n') := rfl
    rw [List.takeWhile_append, if_pos (Text.length_takeWhile_of_dropWhile_nil hall), hwhole,
      List.length_append, List.length_cons] at hline
    omega
  -- The marker is `r` and more, so that the brace follows the line feed in it.
  obtain ⟨v, rfl⟩ : ∃ v, m = r ++ '}' :: v := by
    have htake : (m ++ u).take m.length = m := List.take_left
    obtain ⟨k, hk⟩ : ∃ k, m.length = r.length + (k + 1) := ⟨m.length - r.length - 1, by omega⟩
    rw [hu, hk, List.take_length_add_append, List.take_succ_cons] at htake
    exact ⟨_, htake.symm⟩
  rw [Text.dropWhile_append_of_ends hends]
  exact List.mem_append_right _ List.mem_cons_self

/-- A text may be cut before the brace at which a scan stops. -/
theorem seam_of_brace (hcut : Cuttable d) (hr : r ≠ []) : Seam d before r ('}' :: post) where
  marker m hm hpre hflag hline := by
    have hlen := marker_fits hcut hm hpre hline
    refine ⟨hlen, ?_⟩
    rw [← Bool.not_eq_true] at hflag ⊢
    intro h
    exact hflag (isSpecFlag_append_brace hlen h)
  lead hle := lead_reaches_brace hcut hr hle

end Token

/-! ### Lexing the body alone -/

section relexing
variable {d : Dialect} {depth pending : Nat} {kind : Token.Kind} {before : Option Char}
  {body rest : Text} {ms : List Mark}

/-- The body of a scan has, lexed alone, the marks of the scan. -/
theorem BodyScan.marksFrom (hcut : Cuttable d)
    (hclose : ∀ opener closer, d.blockComment = some (opener, closer) → closer ≠ [])
    (h : BodyScan d depth kind pending before body rest ms) (offset : Nat) :
    Stencil.marksFrom d kind pending offset before body = .ok ms := by
  -- Where the scan met no token, none opens in the body alone either.
  have alone {before : Option Char} {c : Char} {body rest : Text}
      (h : Token.at? d before (c :: (body ++ '}' :: rest)) = .ok none) :
      Token.at? d before (c :: body) = .ok none :=
    Token.at?_none_of_append (Token.seam_of_brace hcut (List.cons_ne_nil c body)) h
  induction h generalizing offset with
  | close => rfl
  | inside _ ih => rw [Stencil.marksFrom, ih]; rfl
  | @token depth kind kind' n before c body rest ms htoken next ih =>
    -- The scan goes on to the closing brace outside tokens, so that this one ends before it.
    have hfits : (⟨kind', n + 1⟩ : Token).length ≤ (c :: body).length :=
      Nat.succ_le_succ next.pending_le
    have halone := Token.at?_of_append hclose
      (Token.seam_of_brace hcut (List.cons_ne_nil c body)) htoken hfits
    rw [Stencil.marksFrom, halone]
    dsimp only
    rw [ih]
    rfl
  | up h _ ih => rw [Stencil.marksFrom, alone h]; dsimp only; rw [ih]; rfl
  | down h _ ih => rw [Stencil.marksFrom, alone h]; dsimp only; rw [ih]; rfl
  | plain h _ _ _ ih => rw [Stencil.marksFrom, alone h]; dsimp only; rw [ih]; rfl

end relexing

/-! ### Braces outside tokens -/

/-- Before each character of a text at most `depth` more braces have been closed than opened, and
at its end exactly so many. -/
structure Balanced (depth : Nat) (t : Text) : Prop where
  prefixes : ∀ k, (t.take k).count '}' ≤ (t.take k).count '{' + depth
  whole : t.count '}' = t.count '{' + depth

namespace Balanced

theorem nil : Balanced 0 [] where
  prefixes k := by simp
  whole := rfl

theorem opener {depth : Nat} {t : Text} (h : Balanced (depth + 1) t) :
    Balanced depth ('{' :: t) where
  prefixes k := by
    cases k with
    | zero => simp
    | succ k =>
      have := h.prefixes k
      rw [List.take_succ_cons, List.count_cons_self, List.count_cons_of_ne (by decide)]
      omega
  whole := by
    have := h.whole
    rw [List.count_cons_self, List.count_cons_of_ne (by decide)]
    omega

theorem closer {depth : Nat} {t : Text} (h : Balanced depth t) :
    Balanced (depth + 1) ('}' :: t) where
  prefixes k := by
    cases k with
    | zero => simp
    | succ k =>
      have := h.prefixes k
      rw [List.take_succ_cons, List.count_cons_self, List.count_cons_of_ne (by decide)]
      omega
  whole := by
    have := h.whole
    rw [List.count_cons_self, List.count_cons_of_ne (by decide)]
    omega

theorem other {depth : Nat} {c : Char} {t : Text} (hopen : c ≠ '{') (hclose : c ≠ '}')
    (h : Balanced depth t) : Balanced depth (c :: t) where
  prefixes k := by
    cases k with
    | zero => simp
    | succ k =>
      rw [List.take_succ_cons, List.count_cons_of_ne hopen, List.count_cons_of_ne hclose]
      exact h.prefixes k
  whole := by
    rw [List.count_cons_of_ne hopen, List.count_cons_of_ne hclose]
    exact h.whole

/-- A blanked character is no brace. -/
theorem blank {depth : Nat} {t : Text} (c : Char) (h : Balanced depth t) :
    Balanced depth (blanked c :: t) := by
  have hblank : blanked c ≠ '{' ∧ blanked c ≠ '}' := by
    unfold blanked
    split <;> decide
  exact other hblank.1 hblank.2 h

end Balanced

/-- The mask of a body is balanced: the scan counts the braces outside tokens. -/
theorem BodyScan.balanced {d : Dialect} {depth pending : Nat} {kind : Token.Kind}
    {before : Option Char} {body rest : Text} {ms : List Mark}
    (h : BodyScan d depth kind pending before body rest ms) :
    Balanced depth (maskWith Mark.isOpaque body ms) := by
  induction h with
  | close => exact .nil
  | inside _ ih => exact ih.blank _
  | token _ _ ih => exact ih.blank _
  | up _ _ ih => exact ih.opener
  | down _ _ ih => exact ih.closer
  | plain _ hopen hclose _ ih => exact ih.other hopen hclose

/-! ### The tokens of a code segment -/

/-- A fault found in a body that is lexed without one is a specifier without an expression. -/
theorem Block.read_error {d : Dialect} {base : Int} {t : Text} {ms : List Mark} {f : Failure}
    (hmarks : marks d t = .ok ms) (h : Block.read d base t = .error f) :
    ∃ offset, f = .template ⟨.missingExpression, offset⟩ := by
  unfold Block.read at h
  rw [hmarks] at h
  simp only [bind, Except.bind, pure, Except.pure, throw, throwThe, MonadExceptOf.throw] at h
  split at h
  · simp at h
  · split at h
    · simp at h
    · split at h
      · exact ⟨_, (Except.error.inj h).symm⟩
      · simp at h

/-- A code segment whose body, lexed alone, has the tokens that the scan of the template stepped
over, a mask with its braces in order, and no fault but a missing expression. -/
structure SameTokens (d : Dialect) (t : Text) (s : Segment) : Prop where
  tokens : ∃ ms,
    bodyMarks d s.start 0 .comment 0 (s.start + 1) (some '{') (t.drop (s.start + 1)) = .ok ms ∧
      marks d s.text = .ok ms ∧
      tokensFrom (s.start + 1) ms = (tokensFrom 0 ms).map (Token.Extent.shift (s.start + 1))
  balanced : ∃ masked, mask d s.text = .ok masked ∧ Balanced 0 masked
  fault : ∀ f, Block.read d s.bodyStart s.text = .error f →
    ∃ offset, f = .template ⟨.missingExpression, offset⟩

/-- The body of every code segment is lexed alone as it was scanned in the template. -/
theorem segments_sameTokens {record : Json} {d : Dialect}
    (hread : Dialect.Record.read record = .ok d) (hcut : Cuttable d) {t : Text}
    {ss : List Segment} (h : segments d t = .ok ss) {s : Segment} (hs : s ∈ ss)
    (hcode : s.kind = .code) : SameTokens d t s := by
  obtain ⟨rest, htext, hlength⟩ := body_of_code_segment h hs hcode
  obtain ⟨body, rest', ms, hbody, hlen, hscanned, hscan⟩ := bodyScan_of_bodyLength hlength
  obtain ⟨rfl, _⟩ := List.append_inj (htext.symm.trans hbody) hlen.symm
  -- The brace that opens the block is like no character to a token behind it.
  have halone : marks d s.text = .ok ms := by
    unfold marks
    rw [← marksFrom_after (c := '{') (by decide) (by decide)]
    exact hscan.marksFrom hcut (fun _ _ => Dialect.Record.closer_ne_nil hread) 0
  refine ⟨⟨ms, hscanned, halone, ?_⟩, ⟨maskWith Mark.isOpaque s.text ms, ?_, hscan.balanced⟩, ?_⟩
  · rw [← tokensFrom_shift, Nat.zero_add]
  · unfold mask
    rw [halone]
    rfl
  · intro f hf
    exact Block.read_error halone hf

/-! ### Dialects for which a cut shows -/

/-- A record with a raw string, a comment of each kind and no brace in their marks. -/
def cuttableRecord : Json :=
  Dialect.Record.plainWith [("prefixes", .arr [.str ['b']]), ("raw_hashes", .bool true)]
    [("line", .arr [.str ['/', '/']]), ("block", .arr [.str ['/', '*'], .str ['*', '/']])]

def cuttableDialect : Dialect :=
  { Dialect.plain with
    stringPrefixes := [.text ['b']]
    rawHashes := true
    lineComments := [.text ['/', '/']]
    blockComment := some (['/', '*'], ['*', '/']) }

/-- The block `{b"}" /*}*/}`, in which a string and a comment hold braces that do not count. -/
def cuttableText : Text := "\x7bb\"\x7d\" /*\x7d*/\x7d"

/-- The only segment of that text. -/
def cuttableSegment : Segment := ⟨.code, "b\"\x7d\" /*\x7d*/", 0, 12⟩

theorem segments_sameTokens_braces :
    Dialect.Record.read cuttableRecord = .ok cuttableDialect ∧ Cuttable cuttableDialect ∧
      segments cuttableDialect cuttableText = .ok [cuttableSegment] ∧
      SameTokens cuttableDialect cuttableText cuttableSegment := by
  have hread : Dialect.Record.read cuttableRecord = .ok cuttableDialect := by cbv
  have hcut : Cuttable cuttableDialect := by
    constructor
    · intro _ p hp
      simp only [cuttableDialect, List.mem_singleton, Entry.text.injEq] at hp
      rw [hp]
      decide
    · intro m hm
      simp only [cuttableDialect, List.mem_singleton, Entry.text.injEq] at hm
      rw [hm]
      decide
  have hsegments : segments cuttableDialect cuttableText = .ok [cuttableSegment] :=
    Outcome.ok_of_toOption (by decide +kernel)
  exact ⟨hread, hcut, hsegments,
    segments_sameTokens hread hcut hsegments List.mem_cons_self rfl⟩

/-- Comment markers that open with a character of the line that they hide. -/
def MarkersCover (d : Dialect) : Prop :=
  ∀ m, Entry.text m ∈ d.lineComments → m ≠ [] ∧ m.head? ≠ some '\n'

/-- A body whose scan and whose own lexing differ. -/
theorem not_sameTokens {d : Dialect} {t : Text} {s : Segment}
    (h : (bodyMarks d s.start 0 .comment 0 (s.start + 1) (some '{')
      (t.drop (s.start + 1))).toOption ≠ (marks d s.text).toOption) : ¬ SameTokens d t s := by
  intro hsame
  obtain ⟨ms, hscanned, halone, _⟩ := hsame.tokens
  apply h
  rw [hscanned, halone]

/-- A raw string may have a prefix with a closing brace in it. -/
def bracePrefixRecord : Json :=
  Dialect.Record.plainWith [("prefixes", .arr [.str ['"', '}']]), ("raw_hashes", .bool true)] []

def bracePrefixDialect : Dialect :=
  { Dialect.plain with stringPrefixes := [.text ['"', '}']], rawHashes := true }

/-- A comment marker may go on past a line feed, with a closing brace behind it. -/
def braceMarkerRecord : Json :=
  Dialect.Record.plainWith [] [("line", .arr [.str ['#', '\n', '}']])]

def braceMarkerDialect : Dialect :=
  { Dialect.plain with lineComments := [.text ['#', '\n', '}']] }

/-- Without either condition a body may be lexed otherwise than it was scanned: a string that is
nothing but a prefix before the brace is never closed without the brace, and a comment whose marker
ends with the brace is none. -/
theorem sameTokens_fails_before_brace :
    (Dialect.Record.read bracePrefixRecord = .ok bracePrefixDialect ∧
      MarkersCover bracePrefixDialect ∧
      segments bracePrefixDialect ['{', '"', '}', 'r', '}'] =
        .ok [⟨.code, ['"'], 0, 3⟩, ⟨.literal, ['r', '}'], 3, 5⟩] ∧
      ¬ SameTokens bracePrefixDialect ['{', '"', '}', 'r', '}'] ⟨.code, ['"'], 0, 3⟩) ∧
    (Dialect.Record.read braceMarkerRecord = .ok braceMarkerDialect ∧
      MarkersCover braceMarkerDialect ∧
      segments braceMarkerDialect ['{', '#', '\n', '}'] = .ok [⟨.code, ['#', '\n'], 0, 4⟩] ∧
      ¬ SameTokens braceMarkerDialect ['{', '#', '\n', '}'] ⟨.code, ['#', '\n'], 0, 4⟩) := by
  constructor
  · refine ⟨by cbv, ?_, Outcome.ok_of_toOption (by decide +kernel),
      not_sameTokens (by decide +kernel)⟩
    intro m hm
    simp [bracePrefixDialect, Dialect.plain] at hm
  · refine ⟨by cbv, ?_, Outcome.ok_of_toOption (by decide +kernel),
      not_sameTokens (by decide +kernel)⟩
    intro m hm
    simp only [braceMarkerDialect, List.mem_singleton, Entry.text.injEq] at hm
    rw [hm]
    decide

end Stencil
