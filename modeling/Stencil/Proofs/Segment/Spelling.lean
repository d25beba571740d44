import Stencil.Proofs.Dialect.Builtin
import Stencil.Proofs.Segment.Tiling

/-! # Segments spelled out as a template again

  Literal text with its braces doubled, and code between braces, make up a template with the same
  segments. Doubling changes what comes after a code block: where a lone brace stood, two stand. So
  the scan of the block has to be the same before another text (`BodyScan.swap`), and it is, because
  the first character behind the closing brace stays as it was.
-/

namespace Stencil

/-! ### Spelling -/

def isBrace (c : Char) : Bool := c = '{' || c = '}'

def Text.doubleBraces (t : Text) : Text := t.flatMap fun c => if isBrace c then [c, c] else [c]

theorem Text.doubleBraces_brace {c : Char} (hc : isBrace c = true) (t : Text) :
    doubleBraces (c :: t) = c :: c :: doubleBraces t := by
  rw [doubleBraces, List.flatMap_cons, if_pos hc]
  rfl

theorem Text.doubleBraces_other {c : Char} (hc : ¬ isBrace c = true) (t : Text) :
    doubleBraces (c :: t) = c :: doubleBraces t := by
  rw [doubleBraces, List.flatMap_cons, if_neg hc]
  rfl

/-- A segment as it is written in a template. -/
def Segment.spelling (s : Segment) : Text :=
  match s.kind with
  | .literal => s.text.doubleBraces
  | .code => '{' :: (s.text ++ ['}'])

/-- The template in which the given segments are written one after the other. -/
def spelling (ss : List Segment) : Text := ss.flatMap Segment.spelling

/-- What a segment holds, wherever it stands. -/
def Segment.content (s : Segment) : Segment.Kind × Text := (s.kind, s.text)

/-! ### Scans before another text -/

section scans
variable {d : Dialect} {depth pending : Nat} {kind : Token.Kind} {before : Option Char}
  {body rest rest' : Text} {ms : List Mark}

/-- Before a closing brace, the token of a text does not depend on what is behind the brace, unless
that is a quote. -/
theorem Token.at?_swap_brace (hd : d.Regular) (hbrace : d.Inert '}') {r : Text}
    (hrest : ∀ q ∈ rest'.head?, d.charQuote = some q → rest.head? = some q) {o : Option Token}
    (h : Token.at? d before (r ++ '}' :: rest) = .ok o)
    (ho : ∀ token ∈ o, token.length ≤ r.length) :
    Token.at? d before (r ++ '}' :: rest') = .ok o := by
  refine Token.at?_swap hd hbrace (by decide) (fun m _ hpre hflag => ?_) hrest h ho
  have hlen := (List.isPrefixOf_iff_prefix.mp hpre).length_le
  exact Token.isSpecFlag_append_brace hlen (Token.isSpecFlag_of_append hlen hflag)

/-- A scan passes the same body before another text. -/
theorem BodyScan.swap (hd : d.Regular) (hbrace : d.Inert '}')
    (hrest : ∀ q ∈ rest'.head?, d.charQuote = some q → rest.head? = some q)
    (h : BodyScan d depth kind pending before body rest ms) :
    BodyScan d depth kind pending before body rest' ms := by
  have none_of {before : Option Char} {c : Char} {body rest : Text}
      (hrest : ∀ q ∈ rest'.head?, d.charQuote = some q → rest.head? = some q)
      (h : Token.at? d before (c :: (body ++ '}' :: rest)) = .ok none) :
      Token.at? d before (c :: (body ++ '}' :: rest')) = .ok none :=
    Token.at?_swap_brace (r := c :: body) hd hbrace hrest h (fun _ h => absurd h (by simp))
  induction h with
  | close => exact .close (Token.at?_of_inert hd hbrace rest')
  | inside _ ih => exact .inside (ih hrest)
  | @token depth kind kind' n before c body rest ms htoken next ih =>
    -- The scan goes on to the closing brace outside tokens, so that this one ends before it.
    refine .token (Token.at?_swap_brace (r := c :: body) hd hbrace hrest htoken ?_) (ih hrest)
    rintro token htoken'
    obtain rfl := Option.some.inj htoken'
    exact Nat.succ_le_succ next.pending_le
  | up h _ ih => exact .up (none_of hrest h) (ih hrest)
  | down h _ ih => exact .down (none_of hrest h) (ih hrest)
  | plain h hopen hclose _ ih => exact .plain (none_of hrest h) hopen hclose (ih hrest)

/-- What a scan does at a character that opens no token. -/
theorem bodyLength_of_none {opened offset : Nat} {c : Char} {t : Text}
    (h : Token.at? d before (c :: t) = .ok none) :
    bodyLength d opened depth 0 offset before (c :: t) =
      if c = '{' then (bodyLength d opened (depth + 1) 0 (offset + 1) (some c) t).map (· + 1)
      else if c = '}' then
        if depth = 0 then .ok 0
        else (bodyLength d opened (depth - 1) 0 (offset + 1) (some c) t).map (· + 1)
      else (bodyLength d opened depth 0 (offset + 1) (some c) t).map (· + 1) := by
  conv => lhs; unfold bodyLength
  rw [h]
  cases depth <;> rfl

/-- A derivation is one of the scan: it stops behind the body. -/
theorem BodyScan.bodyLength_eq (h : BodyScan d depth kind pending before body rest ms)
    (opened offset : Nat) :
    bodyLength d opened depth pending offset before (body ++ '}' :: rest) = .ok body.length := by
  induction h generalizing offset with
  | close h =>
    rw [List.nil_append, bodyLength_of_none h, if_neg (by decide), if_pos rfl, if_pos rfl]
    rfl
  | inside _ ih =>
    rw [List.cons_append, bodyLength, ih]
    rfl
  | token h _ ih =>
    unfold bodyLength
    rw [List.cons_append]
    dsimp only
    rw [h]
    dsimp only
    rw [ih]
    rfl
  | up h _ ih =>
    rw [List.cons_append, bodyLength_of_none h, if_pos rfl, ih]
    rfl
  | down h _ ih =>
    rw [List.cons_append, bodyLength_of_none h, if_neg (by decide), if_pos rfl,
      if_neg (Nat.succ_ne_zero _), Nat.add_sub_cancel, ih]
    rfl
  | plain h hopen hclose _ ih =>
    rw [List.cons_append, bodyLength_of_none h, if_neg hopen, if_neg hclose, ih]
    rfl

end scans

/-! ### Chunks of literal text -/

def Chunk.ofLiteral (c : Char) : Chunk := if isBrace c then .doubled c else .plain c

/-- Doubled literal text is cut into its characters, whatever comes after it. -/
theorem chunksFrom_doubleBraces (d : Dialect) (offset : Nat) (t rest : Text) :
    chunksFrom d 0 offset (t.doubleBraces ++ rest) =
      (chunksFrom d 0 (offset + t.doubleBraces.length) rest).map
        (t.map Chunk.ofLiteral ++ ·) := by
  have map_cons {x : Except Failure (List Chunk)} (c : Chunk) (cs : List Chunk) :
      (x.map (cs ++ ·)).map (c :: ·) = x.map (c :: cs ++ ·) := by cases x <;> rfl
  induction t generalizing offset with
  | nil =>
    show chunksFrom d 0 offset rest = (chunksFrom d 0 offset rest).map ([] ++ ·)
    cases chunksFrom d 0 offset rest <;> rfl
  | cons c t ih =>
    by_cases hc : isBrace c = true
    · have hchunk : Chunk.ofLiteral c = .doubled c := if_pos hc
      have hbrace : (c = '{' || c = '}') = true := hc
      have hoffset : offset + ((Text.doubleBraces t).length + 1 + 1) =
          offset + 1 + 1 + (Text.doubleBraces t).length := by omega
      rw [Text.doubleBraces_brace hc, List.map_cons, hchunk, List.cons_append, List.cons_append,
        chunksFrom, List.head?_cons, decide_eq_true rfl, Bool.and_true, if_pos hbrace, chunksFrom, ih,
        map_cons, List.length_cons, List.length_cons, hoffset]
    · have hchunk : Chunk.ofLiteral c = .plain c := if_neg hc
      have hopen : c ≠ '{' := by
        rintro rfl
        exact hc rfl
      have hoffset : offset + ((Text.doubleBraces t).length + 1) =
          offset + 1 + (Text.doubleBraces t).length := by omega
      have hdouble : ¬ ((c = '{' || c = '}') && (Text.doubleBraces t ++ rest).head? = some c) =
          true := by
        rw [Bool.and_eq_true]
        exact fun h => hc h.1
      rw [Text.doubleBraces_other hc, List.map_cons, hchunk, List.cons_append, chunksFrom,
        if_neg hdouble, if_neg hopen, ih, map_cons, List.length_cons, hoffset]

/-- The chunks of literal text make up one segment where no other literal text comes after them. -/
theorem ofChunks_literal {offset : Nat} {t : Text} {chunks : List Chunk} (hne : t ≠ [])
    (hnext : ∀ s ∈ (Segment.ofChunks (offset + t.doubleBraces.length) chunks).head?,
      s.kind ≠ .literal) :
    Segment.ofChunks offset (t.map Chunk.ofLiteral ++ chunks) =
      ⟨.literal, t, offset, offset + t.doubleBraces.length⟩ ::
        Segment.ofChunks (offset + t.doubleBraces.length) chunks := by
  -- A literal character makes up a segment with the literal text after it.
  have join {c : Char} {t : Text} {offset width stop : Nat}
      (hstop : offset + width + t.doubleBraces.length = stop)
      (hnext : ∀ s ∈ (Segment.ofChunks stop chunks).head?, s.kind ≠ .literal)
      (ih : t ≠ [] → Segment.ofChunks (offset + width) (t.map Chunk.ofLiteral ++ chunks) =
        ⟨.literal, t, offset + width, stop⟩ :: Segment.ofChunks stop chunks) :
      Segment.prepend c offset width
          (Segment.ofChunks (offset + width) (t.map Chunk.ofLiteral ++ chunks)) =
        ⟨.literal, c :: t, offset, stop⟩ :: Segment.ofChunks stop chunks := by
    cases t with
    | nil =>
      obtain rfl : offset + width = stop := hstop
      rw [List.map_nil, List.nil_append]
      cases hss : Segment.ofChunks (offset + width) chunks with
      | nil => rfl
      | cons s ss =>
        obtain ⟨kind, text, start, stop⟩ := s
        rw [hss] at hnext
        cases kind with
        | literal => exact absurd rfl (hnext _ rfl)
        | code => rfl
    | cons a t =>
      rw [ih (List.cons_ne_nil a t)]
      rfl
  induction t generalizing offset with
  | nil => exact absurd rfl hne
  | cons c t ih =>
    by_cases hc : isBrace c = true
    · have hchunk : Chunk.ofLiteral c = .doubled c := if_pos hc
      have hstop : offset + 2 + (Text.doubleBraces t).length =
          offset + (Text.doubleBraces (c :: t)).length := by
        rw [Text.doubleBraces_brace hc, List.length_cons, List.length_cons]
        omega
      rw [List.map_cons, hchunk]
      refine join hstop hnext fun ht => ?_
      rw [← hstop] at hnext ⊢
      exact ih ht hnext
    · have hchunk : Chunk.ofLiteral c = .plain c := if_neg hc
      have hstop : offset + 1 + (Text.doubleBraces t).length =
          offset + (Text.doubleBraces (c :: t)).length := by
        rw [Text.doubleBraces_other hc, List.length_cons]
        omega
      rw [List.map_cons, hchunk]
      refine join hstop hnext fun ht => ?_
      rw [← hstop] at hnext ⊢
      exact ih ht hnext

/-! ### The template of a tiling -/

theorem head?_of_decode {t text : Text} (h : decode t = some text) : text.head? = t.head? := by
  match t with
  | [] =>
    obtain rfl := Option.some.inj h
    rfl
  | [c] =>
    rw [decode] at h
    split at h
    · simp at h
    · obtain rfl := Option.some.inj h
      rfl
  | c :: c' :: t =>
    -- Whatever the first character stands for, it is the first of the decoded text.
    rw [decode] at h
    split at h
    · obtain ⟨_, _, rfl⟩ := Option.map_eq_some_iff.mp h
      rfl
    · split at h
      · simp at h
      · obtain ⟨_, _, rfl⟩ := Option.map_eq_some_iff.mp h
        rfl

theorem Text.head?_doubleBraces (t rest : Text) (hne : t ≠ []) :
    (t.doubleBraces ++ rest).head? = t.head? := by
  obtain ⟨c, t, rfl⟩ := List.exists_cons_of_ne_nil hne
  by_cases hc : isBrace c = true
  · rw [doubleBraces_brace hc]
    rfl
  · rw [doubleBraces_other hc]
    rfl

namespace Tiling

variable {d : Dialect} {offset : Nat} {t : Text} {ss : List Segment}

/-- The template that is spelled out begins as the one that was read. -/
theorem head?_spelling (h : Tiling d offset t ss) : (spelling ss).head? = t.head? := by
  cases h with
  | nil => rfl
  | @cons _ s u rest ss hs _ _ _ =>
    cases hs with
    | @literal _ _ _ text hne hdecode =>
      have hhead := head?_of_decode hdecode
      obtain ⟨c, u, rfl⟩ := List.exists_cons_of_ne_nil hne
      obtain ⟨text, rfl⟩ := List.head?_eq_some_iff.mp hhead
      exact Text.head?_doubleBraces (c :: text) (spelling ss) (List.cons_ne_nil _ _)
    | code => rfl

/-- The template that is spelled out has the same segments. -/
theorem chunks_spelling (hd : d.Regular) (hbrace : d.Inert '}') (h : Tiling d offset t ss)
    (offset' : Nat) :
    ∃ chunks, chunksFrom d 0 offset' (spelling ss) = .ok chunks ∧
      (Segment.ofChunks offset' chunks).map Segment.content = ss.map Segment.content := by
  induction h generalizing offset' with
  | nil => exact ⟨[], rfl, rfl⟩
  | @cons offset s u rest ss hs hstart hnext next ih =>
    cases hs with
    | @literal offset _ _ text hne hdecode =>
      have htext : text ≠ [] := by
        rintro rfl
        exact hne (List.head?_eq_none_iff.mp (head?_of_decode hdecode).symm)
      obtain ⟨chunks, hchunks, hcontent⟩ := ih (offset' + text.doubleBraces.length)
      refine ⟨text.map Chunk.ofLiteral ++ chunks, ?_, ?_⟩
      · show chunksFrom d 0 offset' (text.doubleBraces ++ spelling ss) = _
        rw [chunksFrom_doubleBraces, hchunks]
        rfl
      · rw [ofChunks_literal htext, List.map_cons, hcontent]
        · rfl
        · -- The segment after literal text is code, and so it is in the new template.
          intro b hb hkind
          have hhead := congrArg List.head? hcontent
          rw [List.head?_map, List.head?_map, hb, Option.map_some] at hhead
          obtain ⟨b', hb', hsame⟩ := Option.map_eq_some_iff.mp hhead.symm
          refine hnext b' hb' ⟨rfl, ?_⟩
          rw [← hkind]
          exact congrArg Prod.fst hsame
    | @code offset body _ hhead hbody =>
      obtain ⟨body', rest', ms, htext, hlen, _, hscan⟩ := bodyScan_of_bodyLength hbody
      obtain ⟨rfl, hrest⟩ := List.append_inj htext hlen.symm
      obtain rfl := (List.cons.inj hrest).2
      obtain ⟨chunks, hchunks, hcontent⟩ := ih (offset' + 1 + (body.length + 1))
      -- The scan of the body looks no further than at the first character behind it, which is the
      -- same.
      have hswap : BodyScan d 0 .comment 0 (some '{') body (spelling ss) ms :=
        hscan.swap hd hbrace fun q hq _ => by
          rw [← next.head?_spelling]
          exact hq
      refine ⟨.block body :: chunks, ?_, ?_⟩
      · have hspelling : spelling (⟨.code, body, offset, offset + body.length + 2⟩ :: ss) =
            '{' :: (body ++ '}' :: spelling ss) := by
          show '{' :: (body ++ ['}']) ++ spelling ss = _
          simp
        have hdouble : ¬ (('{' = '{' || '{' = '}') &&
            (body ++ '}' :: spelling ss).head? = some '{') = true := by
          rw [Bool.and_eq_true, decide_eq_true_iff]
          rintro ⟨_, hbrace⟩
          cases body with
          | nil => exact absurd (Option.some.inj hbrace) (by decide)
          | cons c body => exact hhead hbrace
        have hdrop : (body ++ '}' :: spelling ss).drop (body.length + 1) = spelling ss := by
          rw [← List.drop_drop, List.drop_left]
          rfl
        rw [hspelling, chunksFrom, if_neg hdouble, if_pos rfl, hswap.bodyLength_eq]
        show (chunksFrom d (body.length + 1) (offset' + 1) (body ++ '}' :: spelling ss)).map
          (.block ((body ++ '}' :: spelling ss).take body.length) :: ·) = _
        rw [chunksFrom_skip, hdrop, hchunks, List.take_left]
        rfl
      · rw [Segment.ofChunks, List.map_cons, List.map_cons,
          show offset' + body.length + 2 = offset' + 1 + (body.length + 1) by omega, hcontent]
        rfl

end Tiling

/-- The segments of a template are those of its chunks, where there are any. -/
theorem segments_of_chunks {d : Dialect} {t : Text} {found : List Chunk}
    (h : chunksFrom d 0 0 t = .ok found) (hne : Segment.ofChunks 0 found ≠ []) :
    segments d t = .ok (Segment.ofChunks 0 found) := by
  refine Outcome.bind_ok_iff.mpr ⟨found, h, ?_⟩
  generalize Segment.ofChunks 0 found = ss at hne
  cases ss with
  | nil => exact absurd rfl hne
  | cons s ss => rfl

/-- Segments that are spelled out are read again, and a text whose braces are doubled is read as
literal text. -/
theorem segments_spelling {d : Dialect} (hd : d = Dialect.rust ∨ d = Dialect.python) :
    (∀ t ss, segments d t = .ok ss → ∃ ss', segments d (spelling ss) = .ok ss' ∧
      ss'.map Segment.content = ss.map Segment.content) ∧
    ∀ u, segments d u.doubleBraces = .ok [⟨.literal, u, 0, u.doubleBraces.length⟩] := by
  have hregular : d.Regular := (Dialect.apart_of_builtin hd).toRegular
  have hbrace : d.Inert '}' :=
    Dialect.inert_of_builtin hd ⟨by decide, by decide⟩ (by decide)
  constructor
  · intro t ss h
    rcases tiling_of_segments h with ⟨hne, htiling⟩ | ⟨rfl, rfl⟩
    · obtain ⟨found, hfound, hcontent⟩ := htiling.chunks_spelling hregular hbrace 0
      -- What is spelled out has as many segments, and so at least one.
      have hne' : Segment.ofChunks 0 found ≠ [] := by
        intro hnil
        rw [hnil] at hcontent
        exact hne (List.map_eq_nil_iff.mp hcontent.symm)
      exact ⟨_, segments_of_chunks hfound hne', hcontent⟩
    · exact ⟨_, h, rfl⟩
  · intro u
    by_cases hu : u = []
    · subst hu
      rfl
    · -- All chunks are characters of literal text, which make up one segment.
      have hchunks := chunksFrom_doubleBraces d 0 u []
      have hone : Segment.ofChunks 0 (u.map Chunk.ofLiteral ++ []) =
          [⟨.literal, u, 0, 0 + u.doubleBraces.length⟩] :=
        ofChunks_literal hu fun s hs => absurd hs (by simp [Segment.ofChunks])
      rw [List.append_nil] at hchunks
      rw [segments_of_chunks hchunks (by rw [hone]; exact List.cons_ne_nil _ _), hone,
        Nat.zero_add]

/-- In the template `a{{{x}}{"}"}` a lone brace comes after a block. It is doubled when the segments
are spelled out, and they are read as before. -/
theorem segments_spelling_braces :
    ∃ ss, segments Dialect.rust bracesText = .ok ss ∧
      spelling ss = ("a\x7b\x7b\x7bx\x7d\x7d\x7d\x7b\"\x7d\"\x7d" : String) ∧
      (∃ ss', segments Dialect.rust (spelling ss) = .ok ss' ∧
        ss'.map Segment.content = ss.map Segment.content) ∧
      segments Dialect.rust (Text.doubleBraces ['{', 'x']) = .ok [⟨.literal, ['{', 'x'], 0, 3⟩] := by
  have hsegments : segments Dialect.rust bracesText =
      .ok [⟨.literal, ['a', '{'], 0, 3⟩, ⟨.code, ['x'], 3, 6⟩, ⟨.literal, ['}'], 6, 7⟩,
        ⟨.code, ['"', '}', '"'], 7, 12⟩] := Outcome.ok_of_toOption (by decide +kernel)
  obtain ⟨hread, hdoubled⟩ := segments_spelling (.inl rfl)
  exact ⟨_, hsegments, by decide +kernel, hread _ _ hsegments, hdoubled ['{', 'x']⟩

end Stencil
