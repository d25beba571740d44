import Stencil.Routine.Rust
import Stencil.Proofs.Block.Parts
import Stencil.Proofs.Segment.Relexing
import Stencil.Proofs.Token.Content

/-! # Pieces of Rust text

  A routine in Rust is written from pieces: text that is the same in every routine, remarks, string
  literals, and code of the template. The pieces do not run into each other: the whole is lexed
  without a fault, and its tokens are those of the pieces, each at its place (`Written`).

  What may stand behind a piece depends on what it is:

  - behind a string literal anything, because the quote that closes it is the first one that is not
    escaped (`quotedEnd_escaped`);
  - behind a remark a line end;
  - behind text without tokens anything, if no character of it could begin a string with what comes
    next (`quiet`);
  - behind code that does not end in a comment an inert character, and then no quote of character
    literals (`Lexed.append_inert`).
-/

namespace Stencil

open Dialect (rust)

variable {before : Option Char} {c x : Char} {r s t : Text} {ms mr : List Mark}

/-- The character before what stands behind the text `t`, which stands behind `before`. -/
def behind (before : Option Char) (t : Text) : Option Char := t.getLast?.or before

theorem behind_append (before : Option Char) (r t : Text) :
    behind before (r ++ t) = behind (behind before r) t := by
  unfold behind
  rw [List.getLast?_append, Option.or_assoc]

theorem behind_concat (before : Option Char) (t : Text) (c : Char) :
    behind before (t ++ [c]) = some c := by
  unfold behind
  rw [List.getLast?_concat, Option.some_or]

theorem behind_cons (before : Option Char) (c : Char) (t : Text) :
    behind before (c :: t) = (c :: t).getLast? := by
  unfold behind
  rw [List.getLast?_cons, Option.some_or]

/-! ### Code before other text -/

/-- The marks of a comment end in one of the comment. -/
theorem exists_comment_last (n : Nat) :
    ∃ m ∈ (Mark.opens .comment :: List.replicate n (.inside .comment)).getLast?,
      m.isComment = true := by
  refine ⟨_, List.getLast?_eq_some_getLast (List.cons_ne_nil _ _), ?_⟩
  rcases List.mem_cons.mp (List.getLast_mem (List.cons_ne_nil (Mark.opens .comment)
    (List.replicate n (.inside .comment)))) with hm | hm
  · rw [hm]
    rfl
  · rw [List.eq_of_mem_replicate hm]
    rfl

/-- Code that does not end in a comment is lexed as it is alone before an inert character, unless a
quote of character literals comes next. -/
theorem Lexed.append_inert (h : Lexed rust before r mr)
    (hlast : ∀ m ∈ mr.getLast?, m.isComment = false) (hx : rust.Inert x) (hescape : x ≠ '\\')
    (hs : s.head? = some '\'' → x = '\n') (hrest : Lexed rust (behind before r) (x :: s) ms) :
    Lexed rust before (r ++ x :: s) (mr ++ ms) := by
  induction h with
  | nil => exact hrest
  | @plain before c t mr htoken next ih =>
    have hquote : ∀ q ∈ s.head?, rust.charQuote = some q → x = '\n' := by
      intro q hq hchar
      obtain rfl := Option.some.inj hchar
      exact hs hq
    have hnone := Token.at?_none_append rfl (List.cons_ne_nil c t) hx hescape hquote htoken
    refine .plain hnone (ih (fun m hm => hlast m (mem_getLast?_cons hm)) ?_)
    exact behind_append before [c] t ▸ hrest
  | @token before kind c y t mr htoken next ih =>
    have hbehind : behind before (c :: (y ++ t)) = behind (c :: y).getLast? t := by
      rw [← List.cons_append, behind_append, behind_cons]
    rw [hbehind] at hrest
    have hmarks : ∀ m ∈ mr.getLast?, m.isComment = false := by
      intro m hm
      apply hlast m
      rw [← List.cons_append, List.getLast?_append, Option.mem_def.mp hm, Option.some_or]
      rfl
    have hnext := ih hmarks hrest
    have hkeep : Token.at? rust before (c :: (y ++ (t ++ x :: s))) =
        .ok (some ⟨kind, y.length + 1⟩) := by
      by_cases hkind : kind = .comment
      · -- The comment is not the last token, so that something stands behind it already.
        subst hkind
        refine Token.at?_comment_swap ?_ htoken
        cases t with
        | nil =>
          exfalso
          cases next
          obtain ⟨m, hm, hcomment⟩ := exists_comment_last y.length
          rw [List.append_nil] at hlast
          rw [hlast m hm] at hcomment
          exact absurd hcomment (by decide)
        | cons z t => rfl
      · refine Token.at?_literal_swap (r := c :: y) Dialect.rust_apart hkind htoken ?_
        intro q hq hquote
        cases t with
        | nil =>
          obtain rfl := Option.some.inj hq
          rw [hx.noQuote] at hquote
          exact absurd hquote (by decide)
        | cons z t => exact hq
    rw [List.cons_append, List.append_assoc, List.cons_append, List.append_assoc]
    exact .token hkeep hnext

/-! ### Text without tokens -/

/-- No token opens at the character `c` between `before` and `t`: it begins no comment and no
literal, and if it is a letter that stands before strings, then it is inside a word, or no string
stands behind it. -/
def still (before : Option Char) (c : Char) (t : Text) : Bool :=
  decide (c ∉ ['"', '\'', '/']) &&
    (before.any isWordChar ||
      decide (c ≠ 'r' ∧ Text.lower [c] ∉ [['b'], ['c']]) ||
      t.head?.any fun x => decide (x ∉ ['"', 'r', '#']))

/-- No token opens in the text `t` behind `before`, whatever comes after it. -/
def quiet : (before : Option Char) → (t : Text) → Bool
  | _, [] => true
  | before, c :: t => still before c t && quiet (some c) t

/-- A letter that stands before strings has no string behind it. -/
theorem lead_of_still (h : still before c t = true) (s : Text) :
    (Token.lead rust before (c :: (t ++ s))).length = 0 := by
  have hprefixes : rust.stringPrefixes = [.text ['b'], .text ['c']] := rfl
  simp only [still, Bool.and_eq_true, Bool.or_eq_true] at h
  unfold Token.lead
  split
  · rfl
  · next hword =>
    apply Classical.byContradiction
    intro hne
    obtain ⟨p, hp, hlen, hlower, hopen⟩ := Token.leadAmong_spec (Nat.pos_of_ne_zero hne)
    have hletter : p = ['b'] ∨ p = ['c'] := by simpa [hprefixes] using hp
    have hone : p.length = 1 := by rcases hletter with rfl | rfl <;> rfl
    rw [hone] at hlower hopen
    -- The letter stands in a word, is none that leads a string, or has no quote behind it.
    rcases h.2 with (hbefore | hother) | hnext
    · exact hword hbefore
    · rcases hletter with rfl | rfl <;> simp_all
    · cases t with
      | nil => simp at hnext
      | cons z t =>
        have hz : z ≠ '"' ∧ z ≠ 'r' := by simp_all
        have hquote : rust.isQuote z = false := by
          rw [← Bool.not_eq_true, Dialect.rust_isQuote_iff]
          exact hz.1
        simp [Token.opensString, hquote, hz.2] at hopen

theorem at?_of_still (h : still before c t = true) (s : Text) :
    Token.at? rust before (c :: (t ++ s)) = .ok none := by
  have hlead := lead_of_still h s
  simp only [still, Bool.and_eq_true, Bool.or_eq_true] at h
  obtain ⟨hc, hstring⟩ := h
  have hc : c ≠ '"' ∧ c ≠ '\'' ∧ c ≠ '/' := by simpa using hc
  have hopens : ¬ rust.OpensComment c := fun h => hc.2.2 (Dialect.rust_opensComment h)
  have hquote : ¬ rust.isQuote c = true := fun h => hc.1 (Dialect.rust_isQuote_iff.mp h)
  have hhashed : Token.hashedString rust before (c :: (t ++ s)) = .ok none := by
    unfold Token.hashedString
    simp only [hlead, List.drop_zero]
    split
    · next hopen =>
      -- A raw string would have its quote or its first hash next.
      have hraw : (rust.rawHashes = true ∧ c = 'r') ∧ before.any isWordChar = false := by
        simpa using hopen
      have hnone : Token.hashedEnd (t ++ s) = .ok none := by
        rcases hstring with (hbefore | hother) | hnext
        · rw [hraw.2] at hbefore
          exact absurd hbefore (by decide)
        · simp [hraw.1.2] at hother
        · cases t with
          | nil => simp at hnext
          | cons z t =>
            have hz : z ≠ '"' ∧ z ≠ 'r' ∧ z ≠ '#' := by simpa using hnext
            apply Token.hashedEnd_of_no_quote
            have hstop : Token.afterHashes (z :: t ++ s) = z :: (t ++ s) :=
              List.dropWhile_cons_of_neg (by simpa using hz.2.2)
            rw [hstop]
            simpa using hz.1
      rw [hnone]
      rfl
    · rfl
  have hquoted : Token.quotedString rust before (c :: (t ++ s)) = .ok none := by
    unfold Token.quotedString
    simp only [hlead, List.drop_zero]
    rw [if_neg hquote]
  have hliteral : Token.charLiteral rust (c :: (t ++ s)) = .ok none := by
    refine if_neg fun hchar => hc.2.1 ?_
    exact (Option.some.inj hchar).symm
  rw [Token.at?_ok_iff]
  exact .inr ⟨Token.lineComment_of_head Dialect.rust_regular hopens _,
    .inr ⟨Token.blockComment_of_head Dialect.rust_regular hopens _, .inr ⟨hhashed, .inr ⟨hquoted,
      .inr ⟨hliteral, rfl⟩⟩⟩⟩⟩

/-- A text without tokens, whatever is lexed behind it. -/
def Silent (before : Option Char) (t : Text) : Prop :=
  ∀ s ms, Lexed rust (behind before t) s ms →
    Lexed rust before (t ++ s) (List.replicate t.length .plain ++ ms)

theorem silent_of_quiet (h : quiet before t = true) : Silent before t := by
  intro s ms hrest
  induction t generalizing before with
  | nil => exact hrest
  | cons c t ih =>
    rw [quiet, Bool.and_eq_true] at h
    exact .plain (at?_of_still h.1 s) (ih h.2 (behind_append before [c] t ▸ hrest))

theorem silent_of_inert (h : ∀ c ∈ t, rust.Inert c) : Silent before t := by
  intro s ms hrest
  induction t generalizing before with
  | nil => exact hrest
  | cons c t ih =>
    rw [List.forall_mem_cons] at h
    have hnone : Token.at? rust before (c :: (t ++ s)) = .ok none :=
      Token.at?_of_inert Dialect.rust_regular h.1 (t ++ s)
    exact .plain hnone (ih h.2 (behind_append before [c] t ▸ hrest))

theorem Silent.append (hr : Silent before r) (ht : Silent (behind before r) t) :
    Silent before (r ++ t) := by
  intro s ms hrest
  rw [behind_append] at hrest
  have hall := hr _ _ (ht s ms hrest)
  rwa [← List.append_assoc, ← List.append_assoc, List.replicate_append_replicate,
    ← List.length_append] at hall

/-! ### String literals -/

namespace Routine.Rust

/-- A part of a quoted string that does not close it. -/
def Passed (u : Text) : Prop :=
  ∀ v n, Token.quotedEnd ['"'] true true v = .ok n →
    Token.quotedEnd ['"'] true true (u ++ v) = .ok (u.length + n)

theorem Passed.append {u v : Text} (hu : Passed u) (hv : Passed v) : Passed (u ++ v) := by
  intro w n hw
  rw [List.append_assoc, List.length_append, Nat.add_assoc]
  exact hu _ _ (hv w n hw)

theorem passed_single (hquote : c ≠ '"') (hescape : c ≠ '\\') : Passed [c] := by
  intro v n hv
  rw [List.singleton_append, Token.quotedEnd_cons, if_neg (by rwa [Token.quote_isPrefixOf_iff]),
    if_neg (by simp [hescape]), if_neg (by simp), hv]
  exact congrArg Except.ok (Nat.add_comm n 1)

theorem passed_all {u : Text} (h : ∀ c ∈ u, c ≠ '"' ∧ c ≠ '\\') : Passed u := by
  induction u with
  | nil =>
    intro v n hv
    rw [List.nil_append, List.length_nil, Nat.zero_add]
    exact hv
  | cons c u ih =>
    rw [List.forall_mem_cons] at h
    exact (passed_single h.1.1 h.1.2).append (ih h.2)

/-- A backslash takes the next character along. -/
theorem passed_escape (c : Char) : Passed ['\\', c] := by
  intro v n hv
  show Token.quotedEnd ['"'] true true ('\\' :: c :: v) = _
  rw [Token.quotedEnd_cons, if_neg (by rw [Token.quote_isPrefixOf_iff]; decide),
    if_pos (by simp), if_neg (List.cons_ne_nil _ _), List.drop_one, List.tail_cons, hv]
  exact congrArg Except.ok (Nat.add_comm n 2)

/-- No character closes a string as it stands in one. -/
theorem passed_escaped (c : Char) : Passed (escaped c) := by
  unfold escaped
  split
  · exact passed_escape '\\'
  split
  · exact passed_escape '"'
  split
  · exact passed_escape 'n'
  split
  · exact passed_escape 'r'
  split
  · exact passed_escape 't'
  split
  · exact passed_escape '0'
  split
  · next hcontrol =>
    -- There are but few control characters, so that their digits are evaluated.
    have hhex : ∀ n < 0x80, (Text.hex 0 n).all (fun x => x ≠ '"' ∧ x ≠ '\\') = true := by
      decide +kernel
    have hlt : c.toNat < 0x80 := by
      rw [Bool.or_eq_true, decide_eq_true_iff, decide_eq_true_iff] at hcontrol
      omega
    have hdigits : ∀ x ∈ Text.hex 0 c.toNat, x ≠ '"' ∧ x ≠ '\\' := fun x hx =>
      of_decide_eq_true (List.all_eq_true.mp (hhex _ hlt) x hx)
    have hbrace : Passed (['\x7b'] ++ (Text.hex 0 c.toNat ++ ['\x7d'])) :=
      (passed_single (by decide) (by decide)).append
        ((passed_all hdigits).append (passed_single (by decide) (by decide)))
    have hall := (passed_escape 'u').append hbrace
    simpa using hall
  · exact passed_single ‹_› ‹_›

theorem quotedEnd_escaped (t s : Text) :
    Token.quotedEnd ['"'] true true (t.flatMap escaped ++ '"' :: s) =
      .ok ((t.flatMap escaped).length + 1) := by
  have hpassed : Passed (t.flatMap escaped) := by
    induction t with
    | nil => exact passed_all fun c hc => absurd hc List.not_mem_nil
    | cons c t ih =>
      rw [List.flatMap_cons]
      exact (passed_escaped c).append ih
  have hclose : Token.quotedEnd ['"'] true true ('"' :: s) = .ok 1 := by
    rw [Token.quotedEnd_cons, if_pos (Token.quote_isPrefixOf_iff.mpr rfl)]
    rfl
  exact hpassed _ _ hclose

/-- Nothing stands before a quote that is part of a string. -/
theorem lead_quote (before : Option Char) (u : Text) :
    Token.lead rust before ('"' :: u) = ⟨0, false⟩ := by
  have hprefixes : rust.stringPrefixes = [.text ['b'], .text ['c']] := rfl
  have hlower : Text.lower ['"'] = ['"'] := by decide
  unfold Token.lead
  split
  · rfl
  · rw [hprefixes]
    simp [Token.leadAmong, hlower]

/-- The string literal of a text is one token, whatever stands around it. -/
theorem at?_stringLiteral (before : Option Char) (t s : Text) :
    Token.at? rust before (stringLiteral t ++ s) =
      .ok (some ⟨.string, (stringLiteral t).length⟩) := by
  have hsplit : stringLiteral t ++ s = '"' :: (t.flatMap escaped ++ '"' :: s) := by
    simp [stringLiteral]
  have hlen : (stringLiteral t).length = 1 + ((t.flatMap escaped).length + 1) := by
    simp [stringLiteral]
    omega
  rw [hsplit, hlen]
  apply Token.at?_of_quotedString
  · unfold Token.hashedString
    rw [lead_quote]
    rfl
  · unfold Token.quotedString
    rw [lead_quote]
    show (Token.quotedEnd ['"'] true true (t.flatMap escaped ++ '"' :: s)).map _ = _
    rw [quotedEnd_escaped]
    rfl

/-! ### Pieces -/

/-- A piece of a routine. -/
inductive Piece where
  /-- Text without tokens that the writer puts between the others. -/
  | scaffold (text : Text)
  /-- A remark, which is a line comment. -/
  | remark (text : Text)
  /-- The string literal of a text. -/
  | literal (content : Text)
  /-- Code of the template. -/
  | code (text : Text)

def Piece.text : Piece → Text
  | .scaffold text | .remark text | .code text => text
  | .literal content => stringLiteral content

/-- The tokens of a piece. A remark and a string literal are one token each, and code has those that
it has when it is lexed alone. -/
def Piece.tokens : Piece → Except Failure (List Token.Extent)
  | .scaffold _ => .ok []
  | .remark text => .ok [⟨.comment, 0, text.length⟩]
  | .literal content => .ok [⟨.string, 0, (stringLiteral content).length⟩]
  | .code text => (marks rust text).map (tokensFrom 0)

def textOf (ps : List Piece) : Text := ps.flatMap Piece.text

/-- The tokens of some pieces, each at its place in the whole text. -/
def tokensOf : List Piece → Except Failure (List Token.Extent)
  | [] => .ok []
  | p :: ps => do
    let here ← p.tokens
    let later ← tokensOf ps
    return here ++ later.map (Token.Extent.shift p.text.length)

theorem textOf_cons (p : Piece) (ps : List Piece) : textOf (p :: ps) = p.text ++ textOf ps :=
  List.flatMap_cons

theorem textOf_append (ps qs : List Piece) : textOf (ps ++ qs) = textOf ps ++ textOf qs :=
  List.flatMap_append

theorem shift_shift (m n : Nat) (e : Token.Extent) : (e.shift m).shift n = e.shift (m + n) := by
  simp [Token.Extent.shift, Nat.add_assoc]

theorem tokensOf_append {ps qs : List Piece} {es fs : List Token.Extent} (hp : tokensOf ps = .ok es)
    (hq : tokensOf qs = .ok fs) :
    tokensOf (ps ++ qs) = .ok (es ++ fs.map (Token.Extent.shift (textOf ps).length)) := by
  induction ps generalizing es with
  | nil =>
    obtain rfl := Except.ok.inj hp
    have hnone : fs.map (Token.Extent.shift 0) = fs := List.map_id _
    rw [List.nil_append, List.nil_append, hq]
    exact congrArg Except.ok hnone.symm
  | cons p ps ih =>
    obtain ⟨here, hhere, hp⟩ := Outcome.bind_ok_iff.mp hp
    obtain ⟨later, hlater, hp⟩ := Outcome.bind_ok_iff.mp hp
    obtain rfl := Except.ok.inj hp
    have hmove : Token.Extent.shift p.text.length ∘ Token.Extent.shift (textOf ps).length =
        Token.Extent.shift (textOf (p :: ps)).length := by
      funext e
      rw [Function.comp_apply, shift_shift, textOf_cons, List.length_append, Nat.add_comm]
    rw [List.cons_append, tokensOf, hhere, ih hlater, Outcome.ok_bind, Outcome.ok_bind,
      List.map_append, List.map_map, hmove, ← List.append_assoc]
    rfl

/-- A token of a piece lies within the piece. -/
theorem Piece.stop_le {p : Piece} {es : List Token.Extent} (h : p.tokens = .ok es)
    {e : Token.Extent} (he : e ∈ es) : e.stop ≤ p.text.length := by
  cases p with
  | scaffold text =>
    obtain rfl := Except.ok.inj h
    exact absurd he List.not_mem_nil
  | remark text =>
    obtain rfl := Except.ok.inj h
    obtain rfl := List.mem_singleton.mp he
    exact Nat.le_refl _
  | literal content =>
    obtain rfl := Except.ok.inj h
    obtain rfl := List.mem_singleton.mp he
    exact Nat.le_refl _
  | code text =>
    obtain ⟨ms, hms, rfl⟩ := Outcome.map_ok_iff.mp h
    have hstop := (stop_le_of_mem_tokensFrom he).2
    rw [Nat.zero_add, length_marksFrom hms] at hstop
    exact hstop

/-- The token `e` of some pieces is a token of one of them, and lies within that one. -/
inductive InPiece (ps : List Piece) (e : Token.Extent) : Prop
  | intro (front : List Piece) {p back es e'} (hps : ps = front ++ p :: back)
      (htokens : p.tokens = .ok es) (he' : e' ∈ es) (hstop : e'.stop ≤ p.text.length)
      (he : e = e'.shift (textOf front).length)

theorem inPiece_of_mem {ps : List Piece} {es : List Token.Extent} (h : tokensOf ps = .ok es)
    {e : Token.Extent} (he : e ∈ es) : InPiece ps e := by
  induction ps generalizing es e with
  | nil =>
    obtain rfl := Except.ok.inj h
    exact absurd he List.not_mem_nil
  | cons p ps ih =>
    obtain ⟨here, hhere, h⟩ := Outcome.bind_ok_iff.mp h
    obtain ⟨later, hlater, h⟩ := Outcome.bind_ok_iff.mp h
    obtain rfl := Except.ok.inj h
    rcases List.mem_append.mp he with he | he
    · exact .intro [] rfl hhere he (p.stop_le hhere he) rfl
    · obtain ⟨e₁, he₁, rfl⟩ := List.mem_map.mp he
      obtain ⟨front, hps, htokens, he', hstop, rfl⟩ := ih hlater he₁
      refine .intro (p :: front) (by rw [hps]; rfl) htokens he' hstop ?_
      rw [shift_shift, textOf_cons, List.length_append, Nat.add_comm]

/-! ### Pieces that do not run into each other -/

/-- The pieces `ps` have the marks `mp` between `before` and the text `s`, whatever marks that has:
they are those of the pieces alone, each at its place. -/
structure Written (before : Option Char) (ps : List Piece) (s : Text) (mp : List Mark) : Prop where
  length : mp.length = (textOf ps).length
  starts : ∀ kind, mp.head? ≠ some (.inside kind)
  tokens : tokensOf ps = .ok (tokensFrom 0 mp)
  lexed : ∀ ms, Lexed rust (behind before (textOf ps)) s ms →
    Lexed rust before (textOf ps ++ s) (mp ++ ms)

/-- The pieces `ps` do not run into each other between `before` and the text `s`. -/
def Writable (before : Option Char) (ps : List Piece) (s : Text) : Prop :=
  ∃ mp, Written before ps s mp

theorem Writable.nil : Writable before [] s :=
  ⟨[], rfl, fun _ => by simp, rfl, fun _ h => h⟩

theorem Writable.append {ps qs : List Piece} (hp : Writable before ps (textOf qs ++ s))
    (hq : Writable (behind before (textOf ps)) qs s) : Writable before (ps ++ qs) s := by
  obtain ⟨mp, hp⟩ := hp
  obtain ⟨mq, hq⟩ := hq
  refine ⟨mp ++ mq, ?_, fun kind => ?_, ?_, fun ms h => ?_⟩
  · rw [textOf_append, List.length_append, List.length_append, hp.length, hq.length]
  · cases mp with
    | nil => exact hq.starts kind
    | cons m mp => exact hp.starts kind
  · rw [tokensOf_append hp.tokens hq.tokens, tokensFrom_append 0 mp hq.starts, hp.length]
  · rw [textOf_append, behind_append] at h
    rw [textOf_append, List.append_assoc, List.append_assoc]
    exact hp.lexed _ (hq.lexed ms h)

/-- A piece with the marks `mp`. -/
theorem writable_single {p : Piece} (mp : List Mark) (hlen : mp.length = p.text.length)
    (hstart : ∀ kind, mp.head? ≠ some (.inside kind)) (htokens : p.tokens = .ok (tokensFrom 0 mp))
    (hlexed : ∀ ms, Lexed rust (behind before p.text) s ms →
      Lexed rust before (p.text ++ s) (mp ++ ms)) : Writable before [p] s := by
  have htext : textOf [p] = p.text := List.append_nil _
  refine ⟨mp, by rwa [htext], hstart, ?_, fun ms h => ?_⟩
  · rw [tokensOf, htokens, Outcome.ok_bind, tokensOf, Outcome.ok_bind]
    exact congrArg Except.ok (List.append_nil _)
  · rw [htext] at h ⊢
    exact hlexed ms h

theorem Writable.cons {p : Piece} {ps : List Piece} (hp : Writable before [p] (textOf ps ++ s))
    (hps : Writable (behind before p.text) ps s) : Writable before (p :: ps) s := by
  have htext : textOf [p] = p.text := List.append_nil _
  show Writable before ([p] ++ ps) s
  refine hp.append ?_
  rwa [htext]

theorem writable_scaffold (h : Silent before t) : Writable before [.scaffold t] s := by
  refine writable_single (List.replicate t.length .plain) List.length_replicate (fun kind => ?_) ?_
    fun ms hms => h s ms hms
  · cases t <;> simp [List.replicate_succ]
  · rw [tokensFrom_replicate (by simp)]
    rfl

/-- A piece that is a single token. -/
theorem writable_token {p : Piece} {kind : Token.Kind} {y : Text} (htext : p.text = c :: y)
    (htokens : p.tokens = .ok [⟨kind, 0, y.length + 1⟩])
    (hat : Token.at? rust before (c :: (y ++ s)) = .ok (some ⟨kind, y.length + 1⟩)) :
    Writable before [p] s := by
  refine writable_single (.opens kind :: List.replicate y.length (.inside kind)) ?_ (by simp) ?_
    fun ms hms => ?_
  · rw [htext]
    simp
  · rw [tokensFrom_single, htokens]
  · rw [htext] at hms ⊢
    rw [behind_cons] at hms
    exact .token hat hms

theorem writable_literal (t : Text) : Writable before [.literal t] s := by
  obtain ⟨y, hy⟩ : ∃ y, stringLiteral t = '"' :: y := ⟨_, rfl⟩
  have hlen : (stringLiteral t).length = y.length + 1 := by rw [hy, List.length_cons]
  have hat := at?_stringLiteral before t s
  rw [hlen, hy] at hat
  refine writable_token hy ?_ hat
  rw [← hlen]
  rfl

/-- A remark is a comment up to the end of the line. -/
theorem writable_remark {u : Text} (hu : '\n' ∉ u) :
    Writable before [.remark ('/' :: '/' :: u)] ('\n' :: s) := by
  have hline : '\n' ∉ '/' :: '/' :: u := by simp [hu]
  refine writable_token rfl rfl ?_
  rw [Token.at?_ok_iff]
  refine .inl ⟨_, ?_, rfl⟩
  rw [Token.lineComment_rust, if_pos (by simp [List.isPrefixOf]), ← List.cons_append,
    Text.takeWhile_line hline rfl]
  rfl

/-- Code that is lexed alone and does not end in a comment. -/
def Closed (code : Text) : Prop :=
  ∃ ms, marks rust code = .ok ms ∧ ∀ m ∈ ms.getLast?, m.isComment = false

theorem writable_code {code : Text} (hcode : Closed code) (hbefore : Token.Neutral before)
    (hx : rust.Inert x) (hescape : x ≠ '\\') (hs : s.head? = some '\'' → x = '\n') :
    Writable before [.code code] (x :: s) := by
  obtain ⟨mp, hmp, hlast⟩ := hcode
  have hlexed := (Lexed.neutral_iff hbefore).mpr (marks_ok_iff.mp hmp)
  refine writable_single mp (length_marksFrom hmp) hlexed.head_ne_inside ?_ fun ms hms =>
    hlexed.append_inert hlast hx hescape hs hms
  rw [Piece.tokens, hmp]
  rfl

/-! ### Lines -/

/-- The pieces of a line can be written between two line ends. -/
def Line (ps : List Piece) : Prop := ∀ s, Writable (some '\n') ps ('\n' :: s)

/-- The pieces of some lines, each with its end. -/
def unlinesOf (lines : List (List Piece)) : List Piece := lines.flatMap (· ++ [.scaffold ['\n']])

theorem textOf_unlinesOf (lines : List (List Piece)) :
    textOf (unlinesOf lines) = unlines (lines.map textOf) := by
  induction lines with
  | nil => rfl
  | cons ps lines ih =>
    show textOf ((ps ++ [.scaffold ['\n']]) ++ unlinesOf lines) =
      (textOf ps ++ ['\n']) ++ unlines (lines.map textOf)
    rw [textOf_append, textOf_append, ih]
    rfl

/-- Lines that can be written one by one can be written one after the other. -/
theorem writable_lines {lines : List (List Piece)} (h : ∀ ps ∈ lines, Line ps) (s : Text) :
    Writable (some '\n') (unlinesOf lines) s := by
  induction lines with
  | nil => exact .nil
  | cons ps lines ih =>
    rw [List.forall_mem_cons] at h
    have hfeed : Silent (behind (some '\n') (textOf ps)) ['\n'] := by
      refine silent_of_inert fun c hc => ?_
      obtain rfl := List.mem_singleton.mp hc
      exact Dialect.inert_of_isBlank (.inl rfl) (by decide)
    have hend : textOf (ps ++ [.scaffold ['\n']]) = textOf ps ++ ['\n'] := textOf_append ps _
    have hline : Writable (some '\n') (ps ++ [.scaffold ['\n']]) (textOf (unlinesOf lines) ++ s) :=
      (h.1 _).append (writable_scaffold hfeed)
    refine hline.append ?_
    rw [hend, behind_concat]
    exact ih h.2

/-- The text `t` is lexed piece by piece: its tokens are those of the pieces, each at its place and
within its piece. -/
structure LexedInPieces (t : Text) (ps : List Piece) : Prop where
  text : textOf ps = t
  tokens : ∃ ms, marks rust t = .ok ms ∧ tokensOf ps = .ok (tokensFrom 0 ms)
  within : ∀ ms, marks rust t = .ok ms → ∀ e ∈ tokensFrom 0 ms, InPiece ps e

theorem lexedInPieces_of_lines {lines : List (List Piece)} (h : ∀ ps ∈ lines, Line ps) :
    LexedInPieces (unlines (lines.map textOf)) (unlinesOf lines) := by
  obtain ⟨mp, hwritten⟩ := writable_lines h []
  have htext := textOf_unlinesOf lines
  have hlexed := hwritten.lexed [] .nil
  rw [List.append_nil, List.append_nil, htext] at hlexed
  have hfeed : Token.Neutral (some '\n') := Token.neutral_blank (by decide)
  have hms := marks_ok_iff.mpr (hlexed.of_neutral hfeed)
  refine ⟨htext, ⟨mp, hms, hwritten.tokens⟩, fun ms hms' e he => ?_⟩
  obtain rfl := Except.ok.inj (hms.symm.trans hms')
  exact inPiece_of_mem hwritten.tokens he

end Routine.Rust
end Stencil
