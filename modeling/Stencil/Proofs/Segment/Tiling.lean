import Stencil.Dialect.Builtin
import Stencil.Proofs.Segment.Body

/-! # Segments take a template apart

  The segments of a template lie next to each other, from its first character to its last, and the
  text of each is told by the part that it covers: a code segment holds what stands between its
  braces, a literal segment what its part decodes to.

  The invariant is `Tiling`, on the text from some offset on and the segments of that text. A chunk
  in front either starts a segment of its own or joins the literal segment behind it, and keeps the
  invariant in both cases. `segments_partition` reads the statements about offsets off it.
-/

namespace Stencil

/-! ### What literal text stands for -/

/-- The text that literal text stands for, read from the left: a doubled brace is a single one, and
any other character is itself. An opening brace that is not doubled is no literal text. -/
def decode : Text → Option Text
  | [] => some []
  | [c] => if c = '{' then none else some [c]
  | c :: c' :: t =>
    if (c = '{' || c = '}') && c' = c then (decode t).map (c :: ·)
    else if c = '{' then none
    else (decode (c' :: t)).map (c :: ·)

theorem decode_doubled {c : Char} (hc : c = '{' ∨ c = '}') (t : Text) :
    decode (c :: c :: t) = (decode t).map (c :: ·) := by
  rw [decode, if_pos (by simp [hc])]

theorem decode_plain {c : Char} {t : Text} (hopen : c ≠ '{')
    (hclose : ¬ (c = '}' ∧ t.head? = some c)) : decode (c :: t) = (decode t).map (c :: ·) := by
  cases t with
  | nil => exact if_neg hopen
  | cons c' t =>
    have hdouble : ¬ ((c = '{' || c = '}') && c' = c) = true := by
      intro h
      rw [Bool.and_eq_true, Bool.or_eq_true, decide_eq_true_iff, decide_eq_true_iff,
        decide_eq_true_iff] at h
      rcases h with ⟨h | h, rfl⟩
      · exact hopen h
      · exact hclose ⟨h, rfl⟩
    rw [decode, if_neg hdouble, if_neg hopen]

/-! ### Tilings -/

/-- How a segment covers the part `u` of a text, with `rest` after it. -/
inductive Covers (d : Dialect) : Segment → (u rest : Text) → Prop
  | literal {offset u rest text} (hne : u ≠ []) (h : decode u = some text) :
      Covers d ⟨.literal, text, offset, offset + u.length⟩ u rest
  | code {offset body rest} (hhead : body.head? ≠ some '{')
      (h : bodyLength d offset 0 0 (offset + 1) (some '{') (body ++ '}' :: rest) =
        .ok body.length) :
      Covers d ⟨.code, body, offset, offset + body.length + 2⟩ ('{' :: (body ++ ['}'])) rest

theorem Covers.stop_eq {d : Dialect} {s : Segment} {u rest : Text} (h : Covers d s u rest) :
    s.stop = s.start + u.length := by
  cases h with
  | literal => rfl
  | code =>
    simp only [List.length_cons, List.length_append, List.length_nil]
    omega

theorem Covers.ne_nil {d : Dialect} {s : Segment} {u rest : Text} (h : Covers d s u rest) :
    u ≠ [] := by
  cases h with
  | literal hne => exact hne
  | code => exact List.cons_ne_nil _ _

/-- Two segments of literal text, which would be one. -/
def bothLiteral (a b : Segment) : Prop := a.kind = .literal ∧ b.kind = .literal

/-- The segments of a text that stands at an offset, one next to the other. -/
inductive Tiling (d : Dialect) : (offset : Nat) → Text → List Segment → Prop
  | nil {offset} : Tiling d offset [] []
  | cons {offset s u rest ss} (hs : Covers d s u rest) (hstart : s.start = offset)
      (hnext : ∀ b ∈ ss.head?, ¬ bothLiteral s b)
      (next : Tiling d (offset + u.length) rest ss) : Tiling d offset (u ++ rest) (s :: ss)

namespace Tiling

variable {d : Dialect} {offset : Nat} {t : Text} {ss : List Segment}

/-- A literal character in front of a tiling, written as `u`, starts a segment of its own or joins
the literal segment behind it. -/
theorem prepend {c : Char} {u : Text} (hone : decode u = some [c]) (hne : u ≠ [])
    (hjoin : ∀ v rest text, t = v ++ rest → v ≠ [] → decode v = some text →
      decode (u ++ v) = some (c :: text))
    (h : Tiling d (offset + u.length) t ss) :
    Tiling d offset (u ++ t) (Segment.prepend c offset u.length ss) := by
  cases h with
  | nil => exact .cons (.literal hne hone) rfl (fun _ hb => by simp at hb) .nil
  | @cons _ s v rest ss hs hstart hnext next =>
    cases hs with
    | @literal _ _ _ text hv htext =>
      -- The literal segment behind takes the character in.
      obtain rfl : _ = offset + u.length := hstart
      have hjoined := hjoin v rest text rfl hv htext
      have hcover : Covers d ⟨.literal, c :: text, offset, offset + (u ++ v).length⟩ (u ++ v)
          rest := .literal (by simp [hne]) hjoined
      rw [Nat.add_assoc, ← List.length_append] at next
      rw [← List.append_assoc, Segment.prepend, Nat.add_assoc, ← List.length_append]
      exact .cons hcover rfl hnext next
    | code hhead hbody =>
      -- Before a block the character is a segment of its own, and two literals do not meet.
      refine .cons (.literal hne hone) rfl ?_ (.cons (.code hhead hbody) hstart hnext next)
      intro b hb hboth
      obtain rfl := Option.some.inj hb
      exact absurd hboth.2 (by simp)

/-- A doubled brace in front of a tiling. -/
theorem doubled {c : Char} (hc : c = '{' ∨ c = '}') (h : Tiling d (offset + 2) t ss) :
    Tiling d offset (c :: c :: t) (Segment.prepend c offset 2 ss) := by
  refine prepend (u := [c, c]) (decode_doubled hc []) (List.cons_ne_nil _ _) ?_ h
  intro v rest text _ _ htext
  show decode (c :: c :: v) = _
  rw [decode_doubled hc, htext]
  rfl

/-- A character that stands for itself in front of a tiling. -/
theorem plain {c : Char} (hopen : c ≠ '{') (hclose : ¬ (c = '}' ∧ t.head? = some c))
    (h : Tiling d (offset + 1) t ss) :
    Tiling d offset (c :: t) (Segment.prepend c offset 1 ss) := by
  refine prepend (u := [c]) ?_ (List.cons_ne_nil _ _) ?_ h
  · rw [decode, if_neg hopen]
  · intro v rest text htext hv hdecode
    show decode (c :: v) = _
    have hclose' : ¬ (c = '}' ∧ v.head? = some c) := by
      rintro ⟨hc, hhead⟩
      obtain ⟨v, rfl⟩ := List.head?_eq_some_iff.mp hhead
      exact hclose ⟨hc, by rw [htext]; rfl⟩
    rw [decode_plain hopen hclose', hdecode]
    rfl

/-- A block of code in front of a tiling. -/
theorem block {body rest : Text} (hhead : body.head? ≠ some '{')
    (hbody : bodyLength d offset 0 0 (offset + 1) (some '{') (body ++ '}' :: rest) =
      .ok body.length) (h : Tiling d (offset + body.length + 2) rest ss) :
    Tiling d offset ('{' :: (body ++ '}' :: rest))
      (⟨.code, body, offset, offset + body.length + 2⟩ :: ss) := by
  have hwidth : offset + ('{' :: (body ++ ['}'])).length = offset + body.length + 2 := by
    simp [Nat.add_assoc]
  rw [← hwidth] at h
  have htiling := Tiling.cons (.code hhead hbody) rfl
    (fun b _ hboth => absurd hboth.1 (by simp)) h
  rw [List.cons_append, List.append_assoc] at htiling
  exact htiling

end Tiling

/-! ### The segments of a template are a tiling -/

/-- What has been taken already is passed. -/
theorem chunksFrom_skip (d : Dialect) (skip offset : Nat) (t : Text) :
    chunksFrom d skip offset t = chunksFrom d 0 (offset + skip) (t.drop skip) := by
  induction skip generalizing offset t with
  | zero => rfl
  | succ skip ih =>
    cases t with
    | nil => rfl
    | cons c t =>
      rw [chunksFrom, ih, List.drop_succ_cons, Nat.add_assoc, Nat.add_comm 1 skip]

/-- The chunks of a text make up a tiling of it. The induction is on the length of the text, since
a chunk takes several characters at once. -/
theorem tiling_of_chunks {d : Dialect} {offset : Nat} {t : Text} {chunks : List Chunk}
    (h : chunksFrom d 0 offset t = .ok chunks) :
    Tiling d offset t (Segment.ofChunks offset chunks) := by
  induction hlen : t.length using Nat.strongRecOn generalizing offset t chunks with
  | ind len ih =>
    cases t with
    | nil =>
      obtain rfl : [] = chunks := Except.ok.inj h
      exact .nil
    | cons c t =>
      rw [List.length_cons] at hlen
      rw [chunksFrom] at h
      split at h
      · -- A doubled brace.
        next hdouble =>
        rw [Bool.and_eq_true, Bool.or_eq_true, decide_eq_true_iff, decide_eq_true_iff,
          decide_eq_true_iff] at hdouble
        obtain ⟨hc, hhead⟩ := hdouble
        obtain ⟨t, rfl⟩ := List.head?_eq_some_iff.mp hhead
        obtain ⟨chunks, hchunks, rfl⟩ := Outcome.map_ok_iff.mp h
        rw [chunksFrom_skip] at hchunks
        exact .doubled hc (ih t.length (by rw [← hlen, List.length_cons]; omega) hchunks rfl)
      · next hdouble =>
        rw [Bool.and_eq_true, Bool.or_eq_true, decide_eq_true_iff, decide_eq_true_iff,
          decide_eq_true_iff] at hdouble
        split at h
        · -- A block of code.
          next hopen =>
          subst hopen
          obtain ⟨n, hn, h⟩ := Outcome.bind_ok_iff.mp h
          obtain ⟨body, rest, ms, rfl, rfl, _⟩ := bodyScan_of_bodyLength hn
          obtain ⟨chunks, hchunks, rfl⟩ := Outcome.map_ok_iff.mp h
          have hdrop : (body ++ '}' :: rest).drop (body.length + 1) = rest := by
            rw [← List.drop_drop, List.drop_left]
            rfl
          have hoffset : offset + 1 + (body.length + 1) = offset + body.length + 2 := by omega
          rw [chunksFrom_skip, hdrop, hoffset] at hchunks
          have hshort : rest.length < len := by
            rw [← hlen, List.length_append, List.length_cons]
            omega
          have hhead : body.head? ≠ some '{' := by
            intro hhead
            apply hdouble
            obtain ⟨body, rfl⟩ := List.head?_eq_some_iff.mp hhead
            exact ⟨.inl rfl, rfl⟩
          rw [List.take_left]
          exact .block hhead hn (ih _ hshort hchunks rfl)
        · -- A character that stands for itself.
          next hopen =>
          obtain ⟨chunks, hchunks, rfl⟩ := Outcome.map_ok_iff.mp h
          refine .plain hopen ?_ (ih t.length (by omega) hchunks rfl)
          rintro ⟨hc, hhead⟩
          exact hdouble ⟨.inr hc, hhead⟩

namespace Tiling

variable {d : Dialect} {offset : Nat} {t : Text} {ss : List Segment}

theorem eq_nil (h : Tiling d offset t []) : t = [] := by
  cases h with
  | nil => rfl

/-- From any of its segments on, a tiling is one of the text from there on. -/
theorem of_append {left right : List Segment} (h : Tiling d offset t (left ++ right)) :
    ∃ pre post, t = pre ++ post ∧ Tiling d (offset + pre.length) post right := by
  induction left generalizing offset t with
  | nil => exact ⟨[], t, rfl, h⟩
  | cons s left ih =>
    cases h with
    | @cons _ _ u rest _ _ _ _ next =>
      obtain ⟨pre, post, rfl, hpost⟩ := ih next
      refine ⟨u ++ pre, post, by rw [List.append_assoc], ?_⟩
      rw [List.length_append, ← Nat.add_assoc]
      exact hpost

/-- Every segment of a tiling covers the part of the text at its offset. -/
theorem covers_of_mem (h : Tiling d offset t ss) {s : Segment} (hs : s ∈ ss) :
    ∃ pre u rest, t = pre ++ (u ++ rest) ∧ s.start = offset + pre.length ∧ Covers d s u rest := by
  obtain ⟨left, right, rfl⟩ := List.append_of_mem hs
  obtain ⟨pre, post, rfl, hpost⟩ := h.of_append
  cases hpost with
  | @cons _ _ u rest _ hcover hstart => exact ⟨pre, u, rest, rfl, hstart, hcover⟩

/-- Two neighbours touch, and are not both literal. -/
theorem neighbours {left right : List Segment} {a b : Segment}
    (h : Tiling d offset t (left ++ a :: b :: right)) : a.stop = b.start ∧ ¬ bothLiteral a b := by
  obtain ⟨pre, post, _, hpost⟩ := h.of_append
  cases hpost with
  | cons hcover hstart hnext next =>
    cases next with
    | cons _ hstart' =>
      refine ⟨?_, hnext b rfl⟩
      rw [hcover.stop_eq, hstart, hstart']

/-- The last segment ends where the text ends. -/
theorem last_stop {s : Segment} (h : Tiling d offset t ss) (hs : ss.getLast? = some s) :
    s.stop = offset + t.length := by
  obtain ⟨left, rfl⟩ := List.getLast?_eq_some_iff.mp hs
  obtain ⟨pre, post, rfl, hpost⟩ := h.of_append
  cases hpost with
  | @cons _ _ u rest _ hcover hstart _ next =>
    obtain rfl := next.eq_nil
    rw [hcover.stop_eq, hstart, List.append_nil, List.length_append, Nat.add_assoc]

end Tiling

/-! ### Partitions -/

/-- Segments that take a text apart without a gap and without an overlap, each with the text that
its part stands for. -/
structure Partition (t : Text) (ss : List Segment) : Prop where
  first : ss.head?.map Segment.start = some 0
  last : ss.getLast?.map Segment.stop = some t.length
  /-- Where a segment ends, the next one begins. -/
  contiguous : ∀ left a b right, ss = left ++ a :: b :: right → a.stop = b.start
  /-- Literal text is one segment as far as it goes. -/
  apart : ∀ left a b right, ss = left ++ a :: b :: right → ¬ bothLiteral a b
  /-- A code segment holds what stands between two braces, the first of which is not doubled. -/
  code : ∀ s ∈ ss, s.kind = .code →
    t[s.start]? = some '{' ∧ t[s.start + 1]? ≠ some '{' ∧ s.start + 2 ≤ s.stop ∧
      t[s.stop - 1]? = some '}' ∧ s.text = t.slice (s.start + 1) (s.stop - 1)
  /-- A literal segment holds what its part decodes to. -/
  literal : ∀ s ∈ ss, s.kind = .literal → decode (t.slice s.start s.stop) = some s.text
  /-- Only the segment of an empty text covers nothing. -/
  empty : ∀ s ∈ ss, s.stop ≤ s.start → t = [] ∧ ss = [s]

/-- A part of a text is the slice between its offsets. -/
theorem slice_append (pre u rest : Text) :
    (pre ++ (u ++ rest)).slice pre.length (pre.length + u.length) = u := by
  unfold Text.slice
  rw [List.drop_left, Nat.add_sub_cancel_left, List.take_left]

theorem partition_of_tiling {d : Dialect} {t : Text} {ss : List Segment}
    (h : Tiling d 0 t ss) (hne : ss ≠ []) : Partition t ss where
  first := by
    cases h with
    | nil => exact absurd rfl hne
    | cons _ hstart => exact congrArg some hstart
  last := by
    have hs := List.getLast?_eq_some_getLast hne
    rw [hs, Option.map_some, h.last_stop hs, Nat.zero_add]
  contiguous left a b right hss := (Tiling.neighbours (hss ▸ h)).1
  apart left a b right hss := (Tiling.neighbours (hss ▸ h)).2
  code s hs hkind := by
    obtain ⟨pre, u, rest, rfl, hstart, hcover⟩ := h.covers_of_mem hs
    cases hcover with
    | literal => simp at hkind
    | @code offset body _ hhead =>
      obtain rfl : offset = pre.length := by simpa using hstart
      have hdrop : (pre ++ ('{' :: (body ++ ['}']) ++ rest)).drop (pre.length + 1) =
          body ++ '}' :: rest := by
        rw [← List.drop_drop, List.drop_left]
        simp
      refine ⟨by simp, ?_, by simp, ?_, ?_⟩
      · rw [← List.head?_drop, hdrop]
        cases body with
        | nil => simp
        | cons c body => exact hhead
      · have hstop : pre.length + body.length + 2 - 1 = pre.length + 1 + body.length := by omega
        rw [hstop, ← List.head?_drop, ← List.drop_drop, hdrop, List.drop_left]
        rfl
      · unfold Text.slice
        rw [hdrop, show pre.length + body.length + 2 - 1 - (pre.length + 1) = body.length by omega,
          List.take_left]
  literal s hs hkind := by
    obtain ⟨pre, u, rest, rfl, hstart, hcover⟩ := h.covers_of_mem hs
    cases hcover with
    | @literal offset _ _ text _ hdecode =>
      obtain rfl : offset = pre.length := by simpa using hstart
      rw [slice_append]
      exact hdecode
    | code => simp at hkind
  empty s hs hspan := by
    obtain ⟨pre, u, rest, rfl, hstart, hcover⟩ := h.covers_of_mem hs
    have hpos := List.length_pos_iff.mpr hcover.ne_nil
    rw [hcover.stop_eq] at hspan
    omega

/-- The only segment of an empty text. -/
theorem partition_nil : Partition [] [⟨.literal, [], 0, 0⟩] where
  first := rfl
  last := rfl
  contiguous left a b right h := by
    have := congrArg List.length h
    simp at this
    omega
  apart left a b right h := by
    have := congrArg List.length h
    simp at this
    omega
  code s hs hkind := by
    obtain rfl := List.mem_singleton.mp hs
    simp at hkind
  literal s hs _ := by
    obtain rfl := List.mem_singleton.mp hs
    rfl
  empty s hs _ := by
    obtain rfl := List.mem_singleton.mp hs
    exact ⟨rfl, rfl⟩

/-- The segments of a template are a tiling of it, unless it is empty. -/
theorem tiling_of_segments {d : Dialect} {t : Text} {ss : List Segment}
    (h : segments d t = .ok ss) :
    ss ≠ [] ∧ Tiling d 0 t ss ∨ t = [] ∧ ss = [⟨.literal, [], 0, 0⟩] := by
  obtain ⟨chunks, hchunks, h⟩ := Outcome.bind_ok_iff.mp h
  have htiling := tiling_of_chunks hchunks
  split at h
  · next hnil =>
    rw [hnil] at htiling
    exact .inr ⟨htiling.eq_nil, (Except.ok.inj h).symm⟩
  · next found hfound =>
    obtain rfl := Except.ok.inj h
    exact .inl ⟨hfound, htiling⟩

/-- A template is split at the body of a code segment and at the braces around it. -/
theorem split_at_code_segment {d : Dialect} {t : Text} {ss : List Segment}
    (h : segments d t = .ok ss) {s : Segment} (hs : s ∈ ss) (hcode : s.kind = .code) :
    ∃ pre rest, t = (pre ++ ['{']) ++ (s.text ++ '}' :: rest) ∧
      (pre ++ ['{']).length = s.bodyStart ∧ s.bodyStart + s.text.length < s.stop := by
  rcases tiling_of_segments h with ⟨_, htiling⟩ | ⟨_, rfl⟩
  · obtain ⟨pre, u, rest, rfl, hstart, hcover⟩ := htiling.covers_of_mem hs
    cases hcover with
    | literal => simp at hcode
    | @code offset body =>
      obtain rfl : offset = pre.length := by simpa using hstart
      refine ⟨pre, rest, by simp, by simp [Segment.bodyStart], ?_⟩
      simp only [Segment.bodyStart]
      omega
  · obtain rfl := List.mem_singleton.mp hs
    simp at hcode

/-- A code segment stands between two braces, and the scan from the first stopped at the second. -/
theorem body_of_code_segment {d : Dialect} {t : Text} {ss : List Segment}
    (h : segments d t = .ok ss) {s : Segment} (hs : s ∈ ss) (hcode : s.kind = .code) :
    ∃ rest, t.drop (s.start + 1) = s.text ++ '}' :: rest ∧
      bodyLength d s.start 0 0 (s.start + 1) (some '{') (t.drop (s.start + 1)) =
        .ok s.text.length := by
  rcases tiling_of_segments h with ⟨_, htiling⟩ | ⟨_, rfl⟩
  · obtain ⟨pre, u, rest, rfl, hstart, hcover⟩ := htiling.covers_of_mem hs
    cases hcover with
    | literal => simp at hcode
    | @code offset body _ _ hbody =>
      obtain rfl : offset = pre.length := by simpa using hstart
      have hdrop : (pre ++ ('{' :: (body ++ ['}']) ++ rest)).drop (pre.length + 1) =
          body ++ '}' :: rest := by
        rw [← List.drop_drop, List.drop_left]
        simp
      rw [hdrop]
      exact ⟨rest, rfl, hbody⟩
  · obtain rfl := List.mem_singleton.mp hs
    simp at hcode

/-- The segments of a template take it apart: they cover it in order and without a gap, and each
holds what its part stands for. -/
theorem segments_partition {d : Dialect} {t : Text} {ss : List Segment}
    (h : segments d t = .ok ss) : Partition t ss := by
  rcases tiling_of_segments h with ⟨hne, htiling⟩ | ⟨rfl, rfl⟩
  · exact partition_of_tiling htiling hne
  · exact partition_nil

/-- The template `a{{{x}}{"}"}`, with three braces before a block, a lone brace after one, and a
brace in a string. -/
def bracesText : Text := "a\x7b\x7b\x7bx\x7d\x7d\x7b\"\x7d\"\x7d"

theorem segments_partition_braces :
    ∃ ss, segments Dialect.rust bracesText = .ok ss ∧
      ss.map Segment.text = [['a', '{'], ['x'], ['}'], ['"', '}', '"']] ∧
      Partition bracesText ss := by
  have hsegments : segments Dialect.rust bracesText =
      .ok [⟨.literal, ['a', '{'], 0, 3⟩, ⟨.code, ['x'], 3, 6⟩, ⟨.literal, ['}'], 6, 7⟩,
        ⟨.code, ['"', '}', '"'], 7, 12⟩] := Outcome.ok_of_toOption (by decide +kernel)
  exact ⟨_, hsegments, rfl, segments_partition hsegments⟩

end Stencil
