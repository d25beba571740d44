import Stencil.Proofs.Segment.Tiling
import Stencil.Proofs.Token.Extent

/-! # The scan of a template, offset by offset

  The scan reads a template from its start and stands at one offset after the other. Between code
  blocks it passes literal characters and doubled braces (`Reached`); a brace that is not doubled
  opens a block (`Opened`), and in the block it passes tokens as a whole and counts the braces
  between them (`Inside`), up to the brace that closes it (`Closed`).

  `bodyLength` and `chunksFrom` are this scan: where they give a result, a block is closed at the
  offset that the result says, and where they fail, the scan stands at an offset at which it can not
  go on (`Stuck`).
-/

namespace Stencil

variable {d : Dialect} {t : Text}

/-! ### Where the scan stands -/

/-- The scan of the block opened at `i` stands at an offset, outside tokens and with `depth` more
braces open. -/
inductive Inside (d : Dialect) (t : Text) (i : Nat) : (depth o : Nat) → Prop
  | opened : Inside d t i 0 (i + 1)
  /-- A token is passed as a whole. -/
  | token {depth o kind n} (h : Inside d t i depth o)
      (htoken : Token.atOffset? d t o = .ok (some ⟨kind, n + 1⟩)) : Inside d t i depth (o + (n + 1))
  | up {depth o} (h : Inside d t i depth o) (hnone : Token.atOffset? d t o = .ok none)
      (hc : t[o]? = some '{') : Inside d t i (depth + 1) (o + 1)
  /-- A brace that closes another one than that of the block. -/
  | down {depth o} (h : Inside d t i (depth + 1) o) (hnone : Token.atOffset? d t o = .ok none)
      (hc : t[o]? = some '}') : Inside d t i depth (o + 1)
  | plain {depth o c} (h : Inside d t i depth o) (hnone : Token.atOffset? d t o = .ok none)
      (hc : t[o]? = some c) (hopen : c ≠ '{') (hclose : c ≠ '}') : Inside d t i depth (o + 1)

/-- The scan of a template stands at an offset, outside code blocks. -/
inductive Reached (d : Dialect) (t : Text) : (o : Nat) → Prop
  | start : Reached d t 0
  | plain {o c} (h : Reached d t o) (hc : t[o]? = some c) (hopen : c ≠ '{')
      (hclose : ¬ (c = '}' ∧ t[o + 1]? = some c)) : Reached d t (o + 1)
  | doubled {o c} (h : Reached d t o) (hc : t[o]? = some c) (hbrace : c = '{' ∨ c = '}')
      (hnext : t[o + 1]? = some c) : Reached d t (o + 2)
  /-- A block from the brace that opens it to the one that closes it. -/
  | block {i e} (h : Reached d t i) (hopen : t[i]? = some '{') (hsingle : t[i + 1]? ≠ some '{')
      (hinside : Inside d t i 0 e) (hnone : Token.atOffset? d t e = .ok none)
      (hclose : t[e]? = some '}') : Reached d t (e + 1)

/-- A code block is opened at offset `i`: the scan meets a brace there that is not doubled. -/
structure Opened (d : Dialect) (t : Text) (i : Nat) : Prop where
  reached : Reached d t i
  brace : t[i]? = some '{'
  single : t[i + 1]? ≠ some '{'

/-- The code block opened at `i` is closed at offset `e`. -/
structure Closed (d : Dialect) (t : Text) (i e : Nat) : Prop where
  opened : Opened d t i
  inside : Inside d t i 0 e
  outside : Token.atOffset? d t e = .ok none
  brace : t[e]? = some '}'

theorem Inside.lt {i depth o : Nat} (h : Inside d t i depth o) : i < o := by
  induction h with
  | opened => exact Nat.lt_succ_self i
  | token _ _ ih => omega
  | up _ _ _ ih => omega
  | down _ _ _ ih => omega
  | plain _ _ _ _ _ ih => omega

/-- The scan of a block stays in the text. -/
theorem Inside.le {i depth o : Nat} (hi : i < t.length) (h : Inside d t i depth o) :
    o ≤ t.length := by
  have within {o : Nat} {c : Char} (hc : t[o]? = some c) : o + 1 ≤ t.length :=
    (List.getElem?_eq_some_iff.mp hc).1
  induction h with
  | opened => exact hi
  | @token depth o kind n h htoken ih =>
    have hlen : n + 1 ≤ (t.drop o).length := Token.at?_length_le htoken
    rw [List.length_drop] at hlen
    omega
  | up _ _ hc => exact within hc
  | down _ _ hc => exact within hc
  | plain _ _ hc => exact within hc

/-! ### Code blocks -/

/-- Why the scan of the block opened at `i` does not go on. -/
inductive Stuck (d : Dialect) (t : Text) (i : Nat) : Failure → Prop
  /-- The text ends. -/
  | unbalanced {depth} (h : Inside d t i depth t.length) :
      Stuck d t i (.template ⟨.unbalanced i (depth + 1), t.length⟩)
  /-- It cannot be told whether there is a token. -/
  | token {depth o fault} (h : Inside d t i depth o)
      (hfault : Token.atOffset? d t o = .error fault) : Stuck d t i (fault.at o)
  /-- A token covers nothing. -/
  | nothing : Stuck d t i .emptyComment

/-- How the scan of the block opened at `i` ends that stands at offset `o`. -/
inductive ScanEnds (d : Dialect) (t : Text) (i o : Nat) : Except Failure Nat → Prop
  | closed {n} (hinside : Inside d t i 0 (o + n)) (hnone : Token.atOffset? d t (o + n) = .ok none)
      (hclose : t[o + n]? = some '}') : ScanEnds d t i o (.ok n)
  | stuck {f} (h : Stuck d t i f) : ScanEnds d t i o (.error f)

theorem ScanEnds.step {i o : Nat} {r : Except Failure Nat} (h : ScanEnds d t i (o + 1) r) :
    ScanEnds d t i o (r.map (· + 1)) := by
  cases h with
  | @closed n hinside hnone hclose =>
    rw [Nat.add_right_comm] at hinside hnone hclose
    exact .closed hinside hnone hclose
  | stuck h => exact .stuck h

/-- The length of a body is that of the scan. -/
theorem bodyLength_ends {i depth pending o : Nat} (hinside : Inside d t i depth (o + pending))
    (hle : o + pending ≤ t.length) :
    ScanEnds d t i o (bodyLength d i depth pending o (t.take o).getLast? (t.drop o)) := by
  generalize hdrop : t.drop o = u
  induction u generalizing depth pending o with
  | nil =>
    have hend := List.drop_eq_nil_iff.mp hdrop
    obtain rfl : pending = 0 := by omega
    obtain rfl : o = t.length := by omega
    rw [bodyLength]
    exact .stuck (.unbalanced hinside)
  | cons c u ih =>
    obtain ⟨hc, hnext, hbefore⟩ := drop_eq_cons hdrop
    have hlt := (List.getElem?_eq_some_iff.mp hc).1
    -- One character is passed, and the rest of a token that it begins is pending.
    have pass {depth pending : Nat} (hinside : Inside d t i depth (o + 1 + pending))
        (hle : o + 1 + pending ≤ t.length) :
        ScanEnds d t i o ((bodyLength d i depth pending (o + 1) (some c) u).map (· + 1)) := by
      rw [← hbefore]
      exact (ih hinside hle hnext).step
    cases pending with
    | succ pending =>
      rw [bodyLength]
      rw [Nat.add_comm pending 1, ← Nat.add_assoc] at hinside hle
      exact pass hinside hle
    | zero =>
      unfold bodyLength
      have htoken := Token.at?_of_drop (d := d) hdrop
      rw [htoken]
      split
      · next fault hfault => exact .stuck (.token hinside hfault)
      · exact .stuck .nothing
      · next kind n hsome =>
        have hlen : n + 1 ≤ (c :: u).length := Token.at?_length_le (htoken.trans hsome)
        rw [← hdrop, List.length_drop] at hlen
        refine pass ?_ (by omega)
        rw [Nat.add_assoc, Nat.add_comm 1 n]
        exact .token hinside hsome
      · next hnone =>
        by_cases hopen : c = '{'
        · rw [if_pos hopen]
          exact pass (.up hinside hnone (hopen ▸ hc)) hlt
        · rw [if_neg hopen]
          by_cases hclose : c = '}'
          · rw [if_pos hclose]
            cases depth with
            | zero => exact .closed hinside hnone (hclose ▸ hc)
            | succ depth => exact pass (.down hinside hnone (hclose ▸ hc)) hlt
          · rw [if_neg hclose]
            exact pass (.plain hinside hnone hc hopen hclose) hlt

/-- The scan of a block ends at the brace that closes it, or does not go on. -/
theorem Opened.scanEnds {i : Nat} (h : Opened d t i) :
    ScanEnds d t i (i + 1) (bodyLength d i 0 0 (i + 1) (some '{') (t.drop (i + 1))) := by
  have hlt := (List.getElem?_eq_some_iff.mp h.brace).1
  have hbefore : (t.take (i + 1)).getLast? = some '{' := by
    rw [List.take_add_one, h.brace]
    exact List.getLast?_concat
  rw [← hbefore]
  exact bodyLength_ends .opened hlt

/-! ### Templates -/

/-- How the scan of a template ends that stands at offset `o`, outside code blocks. -/
inductive ChunksEnd (d : Dialect) (t : Text) (o : Nat) : Except Failure (List Chunk) → Prop
  /-- Every code segment is a block that was closed. -/
  | read {found} (h : ∀ s ∈ Segment.ofChunks o found, s.kind = .code →
      ∃ e, Closed d t s.start e ∧ s.text = t.slice (s.start + 1) e) : ChunksEnd d t o (.ok found)
  | stuck {i f} (hopen : Opened d t i) (h : Stuck d t i f) : ChunksEnd d t o (.error f)

/-- A code segment behind a literal character is one of the segments that come after it. -/
theorem Segment.mem_of_mem_prepend {c : Char} {offset width : Nat} {ss : List Segment} {s : Segment}
    (hs : s ∈ prepend c offset width ss) (hcode : s.kind = .code) : s ∈ ss := by
  unfold prepend at hs
  split at hs
  · rcases List.mem_cons.mp hs with rfl | hs
    · cases hcode
    · exact List.mem_cons_of_mem _ hs
  · rcases List.mem_cons.mp hs with rfl | hs
    · cases hcode
    · exact hs

/-- Literal characters in front leave the code segments as they are. -/
theorem ChunksEnd.literal {o width : Nat} {x : Chunk} {c : Char} {r : Except Failure (List Chunk)}
    (hx : ∀ found, Segment.ofChunks o (x :: found) =
      Segment.prepend c o width (Segment.ofChunks (o + width) found))
    (h : ChunksEnd d t (o + width) r) : ChunksEnd d t o (r.map (x :: ·)) := by
  cases h with
  | @read found h =>
    refine .read fun s hs hcode => h s ?_ hcode
    rw [hx] at hs
    exact Segment.mem_of_mem_prepend hs hcode
  | stuck hopen h => exact .stuck hopen h

/-- A block in front is a code segment more. -/
theorem ChunksEnd.block {o e : Nat} {r : Except Failure (List Chunk)} (hclosed : Closed d t o e)
    (h : ChunksEnd d t (e + 1) r) :
    ChunksEnd d t o (r.map (.block (t.slice (o + 1) e) :: ·)) := by
  cases h with
  | @read found h =>
    refine .read fun s hs hcode => ?_
    have hlt := hclosed.inside.lt
    have hend := (List.getElem?_eq_some_iff.mp hclosed.brace).1
    have hstop : o + (t.slice (o + 1) e).length + 2 = e + 1 := by
      unfold Text.slice
      rw [List.length_take_of_le (by rw [List.length_drop]; omega)]
      omega
    rw [Segment.ofChunks, hstop] at hs
    rcases List.mem_cons.mp hs with rfl | hs
    · exact ⟨e, hclosed, rfl⟩
    · exact h s hs hcode
  | stuck hopen h => exact .stuck hopen h

/-- The chunks of a template are those of the scan. The induction is on the length of the text that
is left, since a chunk takes several characters at once. -/
theorem chunksFrom_ends {o : Nat} (hreached : Reached d t o) :
    ChunksEnd d t o (chunksFrom d 0 o (t.drop o)) := by
  induction hlen : (t.drop o).length using Nat.strongRecOn generalizing o with
  | ind len ih =>
    have later {o' : Nat} (hreached : Reached d t o') (hlt : o < o') (hle : o < t.length) :
        ChunksEnd d t o' (chunksFrom d 0 o' (t.drop o')) := by
      refine ih _ ?_ hreached rfl
      rw [← hlen, List.length_drop, List.length_drop]
      omega
    cases hdrop : t.drop o with
    | nil => exact .read fun s hs => absurd hs List.not_mem_nil
    | cons c u =>
      obtain ⟨hc, hnext, _⟩ := drop_eq_cons hdrop
      have hlt := (List.getElem?_eq_some_iff.mp hc).1
      have hhead : u.head? = t[o + 1]? := by rw [← hnext, List.head?_drop]
      rw [chunksFrom]
      by_cases hdouble : ((c = '{' || c = '}') && u.head? = some c) = true
      · -- A doubled brace.
        rw [if_pos hdouble, chunksFrom_skip, ← hnext, List.drop_drop]
        rw [hhead, Bool.and_eq_true, Bool.or_eq_true, decide_eq_true_iff, decide_eq_true_iff,
          decide_eq_true_iff] at hdouble
        obtain ⟨hbrace, hagain⟩ := hdouble
        exact (later (.doubled hreached hc hbrace hagain) (by omega) hlt).literal fun _ => rfl
      · rw [if_neg hdouble]
        rw [hhead, Bool.and_eq_true, Bool.or_eq_true, decide_eq_true_iff, decide_eq_true_iff,
          decide_eq_true_iff] at hdouble
        by_cases hopen : c = '{'
        · -- A code block, which the scan passes or does not.
          rw [if_pos hopen]
          subst hopen
          have hopened : Opened d t o := ⟨hreached, hc, fun h => hdouble ⟨.inl rfl, h⟩⟩
          have hends := hopened.scanEnds
          rw [hnext] at hends
          generalize bodyLength d o 0 0 (o + 1) (some '{') u = r at hends
          cases hends with
          | stuck hstuck => exact .stuck hopened hstuck
          | @closed n hinside hnone hclose =>
            have hclosed : Closed d t o (o + 1 + n) := ⟨hopened, hinside, hnone, hclose⟩
            have hbody : u.take n = t.slice (o + 1) (o + 1 + n) := by
              unfold Text.slice
              rw [hnext, Nat.add_sub_cancel_left]
            rw [Outcome.ok_bind, chunksFrom_skip, ← hnext, List.drop_drop, hnext, hbody,
              ← Nat.add_assoc]
            exact (later (.block hreached hc hopened.single hinside hnone hclose) (by omega)
              hlt).block hclosed
        · -- A character that stands for itself.
          rw [if_neg hopen, ← hnext]
          exact (later (.plain hreached hc hopen fun h => hdouble ⟨.inr h.1, h.2⟩) (by omega)
            hlt).literal fun _ => rfl

/-- Every code segment of a template is a block that was closed. -/
theorem closed_of_segments {ss : List Segment} (h : segments d t = .ok ss) {s : Segment}
    (hs : s ∈ ss) (hcode : s.kind = .code) :
    ∃ e, Closed d t s.start e ∧ s.text = t.slice (s.start + 1) e := by
  obtain ⟨found, hfound, h⟩ := Outcome.bind_ok_iff.mp h
  have hends := chunksFrom_ends (d := d) (t := t) .start
  rw [List.drop_zero] at hends
  unfold chunks at hfound
  rw [hfound] at hends
  cases hends with
  | read hread =>
    split at h
    · obtain rfl := Except.ok.inj h
      obtain rfl := List.mem_singleton.mp hs
      cases hcode
    · obtain rfl := Except.ok.inj h
      exact hread s hs hcode

/-- A template without segments has a block whose scan does not go on. -/
theorem stuck_of_segments {f : Failure} (h : segments d t = .error f) :
    ∃ i, Opened d t i ∧ Stuck d t i f := by
  have hends := chunksFrom_ends (d := d) (t := t) .start
  rw [List.drop_zero] at hends
  unfold segments chunks at h
  generalize chunksFrom d 0 0 t = r at h hends
  cases hends with
  | read =>
    rw [Outcome.ok_bind] at h
    split at h
    · cases h
    · cases h
  | stuck hopen hstuck =>
    obtain rfl := Except.error.inj h
    exact ⟨_, hopen, hstuck⟩

/-! ### A scan is known from where it stands -/

/-- The scan of the block opened at `i` from offset `o` on, outside tokens. -/
def scanAt (d : Dialect) (t : Text) (i depth o : Nat) : Except Failure Nat :=
  bodyLength d i depth 0 o (t.take o).getLast? (t.drop o)

theorem scanAt_of_drop {i depth o : Nat} {u : Text} (h : t.drop o = u) :
    scanAt d t i depth o = bodyLength d i depth 0 o (t.take o).getLast? u := by
  rw [← h]
  rfl

theorem map_add {r : Except Failure Nat} (m n : Nat) :
    (r.map (· + m)).map (· + n) = r.map (· + (m + n)) := by
  cases r with
  | error f => rfl
  | ok k => exact congrArg Except.ok (Nat.add_assoc k m n)

/-- What is pending of a token is passed. -/
theorem bodyLength_pending {i depth o pending : Nat} (hle : o + pending ≤ t.length) :
    bodyLength d i depth pending o (t.take o).getLast? (t.drop o) =
      (scanAt d t i depth (o + pending)).map (· + pending) := by
  induction pending generalizing o with
  | zero =>
    show scanAt d t i depth o = _
    cases scanAt d t i depth o <;> rfl
  | succ pending ih =>
    obtain ⟨c, u, hdrop⟩ : ∃ c u, t.drop o = c :: u := List.exists_cons_of_ne_nil fun hnil => by
      have := List.drop_eq_nil_iff.mp hnil
      omega
    obtain ⟨_, hnext, hbefore⟩ := drop_eq_cons hdrop
    have hlater := ih (o := o + 1) (by omega)
    rw [hdrop, bodyLength, ← hbefore, ← hnext, hlater, map_add, Nat.add_assoc,
      Nat.add_comm 1 pending]

/-- A text goes on where it has a character. -/
theorem drop_of_getElem? {o : Nat} {c : Char} (hc : t[o]? = some c) :
    t.drop o = c :: t.drop (o + 1) ∧ (t.take (o + 1)).getLast? = some c := by
  obtain ⟨hlt, rfl⟩ := List.getElem?_eq_some_iff.mp hc
  have hdrop := List.drop_eq_getElem_cons hlt
  exact ⟨hdrop, (drop_eq_cons hdrop).2.2⟩

/-- A token is passed as a whole. -/
theorem scanAt_token {i depth o n : Nat} {kind : Token.Kind}
    (htoken : Token.atOffset? d t o = .ok (some ⟨kind, n + 1⟩)) :
    scanAt d t i depth o = (scanAt d t i depth (o + (n + 1))).map (· + (n + 1)) := by
  have hlen : n + 1 ≤ (t.drop o).length := Token.at?_length_le htoken
  rw [List.length_drop] at hlen
  obtain ⟨c, hc⟩ : ∃ c, t[o]? = some c := ⟨_, List.getElem?_eq_getElem (by omega)⟩
  obtain ⟨hdrop, hbefore⟩ := drop_of_getElem? hc
  have hpending : bodyLength d i depth n (o + 1) (t.take (o + 1)).getLast? (t.drop (o + 1)) =
      (scanAt d t i depth (o + 1 + n)).map (· + n) := bodyLength_pending (by omega)
  rw [← Token.at?_of_drop hdrop] at htoken
  rw [scanAt_of_drop hdrop]
  unfold bodyLength
  rw [htoken]
  dsimp only
  rw [← hbefore, hpending, map_add, Nat.add_assoc, Nat.add_comm 1 n]

/-- A character outside tokens is passed, unless it is the brace that closes the block. -/
theorem scanAt_none {i depth o : Nat} {c : Char} (hc : t[o]? = some c)
    (hnone : Token.atOffset? d t o = .ok none) :
    scanAt d t i depth o =
      if c = '{' then (scanAt d t i (depth + 1) (o + 1)).map (· + 1)
      else if c = '}' then
        match depth with
        | 0 => .ok 0
        | depth + 1 => (scanAt d t i depth (o + 1)).map (· + 1)
      else (scanAt d t i depth (o + 1)).map (· + 1) := by
  obtain ⟨hdrop, hbefore⟩ := drop_of_getElem? hc
  rw [← Token.at?_of_drop hdrop] at hnone
  rw [scanAt_of_drop hdrop]
  unfold bodyLength
  rw [hnone]
  dsimp only
  unfold scanAt
  cases depth <;> simp only [hbefore]

/-- A scan that comes to an offset goes on from there. -/
theorem Inside.scan_eq {i depth o : Nat} (h : Inside d t i depth o) :
    scanAt d t i 0 (i + 1) = (scanAt d t i depth o).map (· + (o - (i + 1))) := by
  have pass {depth depth' o n : Nat} (hlt : i < o)
      (hstep : scanAt d t i depth o = (scanAt d t i depth' (o + n)).map (· + n))
      (ih : scanAt d t i 0 (i + 1) = (scanAt d t i depth o).map (· + (o - (i + 1)))) :
      scanAt d t i 0 (i + 1) = (scanAt d t i depth' (o + n)).map (· + (o + n - (i + 1))) := by
    have hwidth : n + (o - (i + 1)) = o + n - (i + 1) := by omega
    rw [ih, hstep, map_add, hwidth]
  induction h with
  | opened =>
    rw [Nat.sub_self]
    cases scanAt d t i 0 (i + 1) <;> rfl
  | token h htoken ih => exact pass h.lt (scanAt_token htoken) ih
  | up h hnone hc ih => exact pass h.lt ((scanAt_none hc hnone).trans (if_pos rfl)) ih
  | down h hnone hc ih => exact pass h.lt (scanAt_none hc hnone) ih
  | plain h hnone hc hopen hclose ih =>
    refine pass h.lt ?_ ih
    rw [scanAt_none hc hnone, if_neg hopen, if_neg hclose]

theorem Opened.scanAt_eq {i : Nat} (h : Opened d t i) :
    scanAt d t i 0 (i + 1) = bodyLength d i 0 0 (i + 1) (some '{') (t.drop (i + 1)) := by
  unfold scanAt
  rw [(drop_of_getElem? h.brace).2]

/-- The scan of a block that is closed stops at the brace. -/
theorem Closed.bodyLength_eq {i e : Nat} (h : Closed d t i e) :
    bodyLength d i 0 0 (i + 1) (some '{') (t.drop (i + 1)) = .ok (e - (i + 1)) := by
  have hstop : scanAt d t i 0 e = .ok 0 := scanAt_none h.brace h.outside
  rw [← h.opened.scanAt_eq, h.inside.scan_eq, hstop]
  exact congrArg Except.ok (Nat.zero_add _)

/-- A block whose scan comes to the end of the text is not closed. -/
theorem Opened.not_closed {i depth : Nat} (h : Opened d t i) (hend : Inside d t i depth t.length)
    (e : Nat) : ¬ Closed d t i e := by
  intro hclosed
  have hstop : scanAt d t i depth t.length = .error (.template ⟨.unbalanced i (depth + 1), t.length⟩) := by
    unfold scanAt
    rw [List.drop_length]
    rfl
  have heq := hend.scan_eq
  rw [h.scanAt_eq, hclosed.bodyLength_eq, hstop] at heq
  cases heq

end Stencil
