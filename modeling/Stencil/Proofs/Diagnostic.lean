import Stencil.Proofs.Block.Read
import Stencil.Proofs.FormatSpec
import Stencil.Proofs.Location
import Stencil.Proofs.Segment.Relexing
import Stencil.Proofs.Segment.Scan
import Stencil.Proofs.Token.Run
import Stencil.Template

/-! # Where a template is refused

  A template that is not read is refused with a diagnostic, and the diagnostic shows an offset of the
  template. What stands there depends on the fault (`PointsAt`): the end of the text behind a block
  that is not closed, the start of a token that does not end, the colon of a specifier without an
  expression, or a place in a specifier.

  There is one more case. The body of a block is lexed once more on its own, and a fault found then
  is reported at its offset in the body, as if the body were the template (`ShiftedAt`). Where the
  dialect lets a block be cut from the template, the body is lexed as it was scanned, and this case
  does not come up.
-/

namespace Stencil

open Outcome (FailsOnly)

variable {d : Dialect} {t : Text}

/-! ### Places of faults -/

/-- The specifier `spec` of a block, without the blanks around it, stands at offset `a` of the
template: the closed block from `i` to `e` shows it there. -/
structure SpecifierAt (d : Dialect) (t : Text) (i e : Nat) (spec : Text) (a : Nat) : Prop where
  closed : Closed d t i e
  behind : i < a
  before : a + spec.length ≤ e
  read : ∃ b tail, Block.read d (i + 1 : Nat) (t.slice (i + 1) e) = .ok b ∧ tail ∈ b.tail ∧
    tail.spec = some spec ∧ tail.specOffset = a
  shown : ∃ visible, maskComments d (t.slice (i + 1) e) = .ok visible ∧
    Block.ShownAt visible spec (a - (i + 1))

/-- What a fault at offset `o` of a template is about. -/
inductive PointsAt (d : Dialect) (t : Text) : TemplateFault → (o : Nat) → Prop
  /-- The scan of a block comes to the end of the text, and the block is never closed. -/
  | unbalanced {i depth} (hopen : Opened d t i) (hinside : Inside d t i depth t.length)
      (hnever : ∀ e, ¬ Closed d t i e) : PointsAt d t (.unbalanced i (depth + 1)) t.length
  /-- The scan of a block comes to a token that does not end. -/
  | unclosed {i depth o token} (hopen : Opened d t i) (hinside : Inside d t i depth o)
      (hfault : Token.atOffset? d t o = .error (.unclosed token)) : PointsAt d t (.unclosed token) o
  /-- A colon stands in a closed block. -/
  | missingExpression {i e o} (hclosed : Closed d t i e) (hbehind : i < o) (hbefore : o < e)
      (hcolon : t[o]? = some ':') : PointsAt d t .missingExpression o
  /-- A specifier covers the offset, or ends there. -/
  | spec {i e text a fault o} (hspec : SpecifierAt d t i e text a) (hfrom : a ≤ o)
      (hto : o ≤ a + text.length) : PointsAt d t (.spec fault) o

/-- A token without an end that is found where the body of a closed block is lexed on its own: `o` is
its offset in the body, not in the template. -/
inductive ShiftedAt (d : Dialect) (t : Text) : TemplateFault → (o : Nat) → Prop
  | intro {i e token} {o : Nat} (hclosed : Closed d t i e)
      (hmarks : marks d (t.slice (i + 1) e) = .error (.template ⟨.unclosed token, o⟩))
      (hfault : Token.atOffset? d (t.slice (i + 1) e) o = .error (.unclosed token))
      (hbefore : i + 1 + o < e) : ShiftedAt d t (.unclosed token) o

/-- A failure to read a template that is a fault at an offset of it. -/
def Failure.Placed (d : Dialect) (t : Text) : Failure → Prop
  | .template ⟨fault, offset⟩ => ∃ o : Nat, offset = o ∧ o ≤ t.length ∧
      (PointsAt d t fault o ∨ ShiftedAt d t fault o)
  | _ => True

/-! ### Faults of lexing -/

/-- A text is not lexed where a token at some offset cannot be told, or covers nothing. -/
def Failure.OfLexing (d : Dialect) (t : Text) (f : Failure) : Prop :=
  f = .emptyComment ∨
    ∃ o fault, o < t.length ∧ Token.atOffset? d t o = .error fault ∧ f = fault.at o

theorem marks_ofLexing : FailsOnly (Failure.OfLexing d t) (marks d t) := by
  intro f hf
  have hends := marks_ends (d := d) (t := t)
  rw [hf] at hends
  cases hends with
  | stuck _ ho hfault => exact .inr ⟨_, _, ho, hfault, rfl⟩
  | stays => exact .inl rfl

/-! ### Segments and their parts -/

/-- A template without segments has a fault where the scan does not go on. -/
theorem segments_placed : FailsOnly (Failure.Placed d t) (segments d t) := by
  intro f hf
  obtain ⟨i, hopen, hstuck⟩ := stuck_of_segments hf
  have hi := (List.getElem?_eq_some_iff.mp hopen.brace).1
  cases hstuck with
  | unbalanced hinside =>
    exact ⟨_, rfl, Nat.le_refl _, .inl (.unbalanced hopen hinside (hopen.not_closed hinside))⟩
  | @token depth o fault hinside hfault =>
    cases fault with
    | unclosed token => exact ⟨o, rfl, hinside.le hi, .inl (.unclosed hopen hinside hfault)⟩
    | marker value => exact trivial
    | emptyComment => exact trivial
  | nothing => exact trivial

/-- A closed block is not read where its body is not lexed alone, or a colon in it has no expression
before it. -/
theorem Block.read_placed {i e : Nat} (hclosed : Closed d t i e) :
    FailsOnly (Failure.Placed d t) (Block.read d (i + 1 : Nat) (t.slice (i + 1) e)) := by
  have hend := (List.getElem?_eq_some_iff.mp hclosed.brace).1
  have hlen : (t.slice (i + 1) e).length ≤ e - (i + 1) := Text.length_slice_le _ _ _
  intro f hf
  cases hmarks : marks d (t.slice (i + 1) e) with
  | error f' =>
    obtain rfl : f' = f := by
      unfold Block.read at hf
      rw [hmarks] at hf
      exact Except.error.inj hf
    rcases marks_ofLexing _ hmarks with rfl | ⟨o, fault, ho, hfault, rfl⟩
    · exact trivial
    · cases fault with
      | unclosed token =>
        -- The literal is not closed in the body alone, so that the place may be shifted.
        exact ⟨o, rfl, by omega, .inr (.intro hclosed hmarks hfault (by omega))⟩
      | marker value => exact trivial
      | emptyComment => exact trivial
  | ok ms =>
    rw [Block.read_of_marks hmarks] at hf
    obtain ⟨colon, hcolon, rfl⟩ := Block.ofMasks_error hf
    have hplain := (plainAt_of_masked hcolon (by decide)).1
    have hlt := (List.getElem?_eq_some_iff.mp hplain).1
    have hshown : t[i + 1 + colon]? = some ':' := by
      unfold Text.slice at hplain
      rw [List.getElem?_take, if_pos (by omega), List.getElem?_drop] at hplain
      exact hplain
    exact ⟨i + 1 + colon, by push_cast; rfl, by omega,
      .inl (.missingExpression hclosed (by omega) (by omega) hshown)⟩

/-- The specifier of a block that is read stands in the block. -/
theorem specifierAt_of_read {i e : Nat} (hclosed : Closed d t i e) {b : Block} {tail : Tail}
    {spec : Text} (h : Block.read d (i + 1 : Nat) (t.slice (i + 1) e) = .ok b)
    (htail : tail ∈ b.tail) (hspec : tail.spec = some spec) :
    ∃ a : Nat, tail.specOffset = a ∧ SpecifierAt d t i e spec a := by
  have hlen : (t.slice (i + 1) e).length ≤ e - (i + 1) := Text.length_slice_le _ _ _
  have hlt := hclosed.inside.lt
  obtain ⟨ms, hms, hlies⟩ := Block.liesIn_of_read h
  obtain ⟨k, hk, hshown⟩ := hlies.spec tail htail spec hspec
  have hfits := hshown.1
  rw [length_maskWith _ (length_marksFrom hms)] at hfits
  refine ⟨i + 1 + k, by rw [hk]; push_cast; rfl, hclosed, by omega, by omega,
    ⟨b, tail, h, htail, hspec, by rw [hk]; push_cast; rfl⟩, ?_⟩
  refine ⟨_, Outcome.map_ok_iff.mpr ⟨ms, hms, rfl⟩, ?_⟩
  rw [Nat.add_sub_cancel_left]
  exact hshown

/-- A fault in the specifier of a block lies at an offset of the template. -/
theorem SpecifierAt.placed {i e a : Nat} {spec : Text} (h : SpecifierAt d t i e spec a)
    {f : Failure} (hf : f.InSpec a spec) : f.Placed d t := by
  have hend := (List.getElem?_eq_some_iff.mp h.closed.brace).1
  have hbefore := h.before
  cases f with
  | template error =>
    obtain ⟨fault, offset⟩ := error
    cases fault with
    | spec fault =>
      obtain ⟨hfrom, hto⟩ : (a : Int) ≤ offset ∧ offset ≤ a + spec.length := hf
      exact ⟨offset.toNat, by omega, by omega, .inl (.spec h (by omega) (by omega))⟩
    | unbalanced opened depth => exact hf.elim
    | unclosed token => exact hf.elim
    | missingExpression => exact hf.elim
  | number fault => exact trivial
  | marker value => exact trivial
  | emptyComment => exact trivial
  | binding fault => exact trivial

theorem Template.readPart_placed {ss : List Segment} (hss : Stencil.segments d t = .ok ss) {s : Segment}
    (hs : s ∈ ss) : FailsOnly (Failure.Placed d t) (Template.readPart d s) := by
  unfold Template.readPart
  cases hkind : s.kind with
  | literal => exact .ok _
  | code =>
    obtain ⟨e, hclosed, htext⟩ := closed_of_segments hss hs hkind
    have hend := (List.getElem?_eq_some_iff.mp hclosed.brace).1
    have hstart : (s.bodyStart : Int) = (s.start + 1 : Nat) := rfl
    rw [htext, hstart]
    refine (Block.read_placed hclosed).bind fun b hb => ?_
    dsimp only
    split
    · next spec _ _ htail =>
      obtain ⟨a, ha, hspec⟩ := specifierAt_of_read hclosed hb htail rfl
      refine FailsOnly.bind (FailsOnly.map ?_ _) fun _ _ => .ok _
      refine (FormatSpec.read_inSpec d _ spec).imp fun f hf => ?_
      obtain rfl := ha
      exact hspec.placed hf
    · exact .ok _

/-- A template is refused for a fault at one of its offsets. -/
theorem Template.read_placed : FailsOnly (Failure.Placed d t) (Template.read d t) :=
  segments_placed.bind fun _ hss =>
    (FailsOnly.mapM fun _ hs => Template.readPart_placed hss hs).bind fun _ _ => .ok _

/-! ### Blocks that are cut from the template -/

/-- The body of a closed block of a dialect that lets it be cut is lexed as it was scanned. -/
theorem not_shiftedAt {record : Json} (hread : Dialect.Record.read record = .ok d)
    (hcut : Cuttable d) (fault : TemplateFault) (o : Nat) : ¬ ShiftedAt d t fault o := by
  intro h
  cases h with
  | @intro i e token o hclosed hmarks =>
    obtain ⟨body, rest, ms, hdrop, hlen, _, hscan⟩ :=
      bodyScan_of_bodyLength hclosed.bodyLength_eq
    have hbody : t.slice (i + 1) e = body := by
      unfold Text.slice
      rw [hdrop, ← hlen, List.take_left]
    -- The brace that opens the block is like no character to a token behind it.
    have halone : marks d body = .ok ms := by
      unfold marks
      rw [← marksFrom_after (c := '{') (by decide) (by decide)]
      exact hscan.marksFrom hcut (fun _ _ => Dialect.Record.closer_ne_nil hread) 0
    rw [hbody, halone] at hmarks
    cases hmarks

/-! ### Diagnostics -/

/-- The diagnostic that a source is refused with. -/
def Template.refusal? (d : Dialect) (source : Source) : Option Diagnostic :=
  match Template.compile d source with
  | .error (.located diagnostic) => some diagnostic
  | _ => none

theorem Template.compile_of_refusal? {source : Source} {diagnostic : Diagnostic}
    (h : Template.refusal? d source = some diagnostic) :
    Template.compile d source = .error (.located diagnostic) := by
  unfold Template.refusal? at h
  split at h
  · next hcompile =>
    rw [hcompile, Option.some.inj h]
  · cases h

/-- A diagnostic of a template that is not compiled shows the place of one of its offsets, which the
fault is about; or, in a dialect that does not let its blocks be cut, the offset is one in the body
of a block. -/
theorem compile_error_place {source : Source} {diagnostic : Diagnostic}
    (h : Template.compile d source = .error (.located diagnostic)) :
    ∃ fault, ∃ o : Nat, o ≤ source.text.length ∧
      diagnostic = source.diagnostic fault.code fault.message o Diagnostic.error ∧
      Location.Of source.text o diagnostic.location ∧
      (PointsAt d source.text fault o ∨ ShiftedAt d source.text fault o) ∧
      ∀ record, Dialect.Record.read record = .ok d → Cuttable d → PointsAt d source.text fault o := by
  unfold Template.compile at h
  cases hread : Template.read d source.text with
  | ok r =>
    -- A failure to find the free names is reported without a place.
    obtain ⟨found, parts⟩ := r
    rw [hread, Outcome.mapError_ok, Outcome.ok_bind] at h
    dsimp only at h
    cases hfree : freeNames d parts with
    | ok free =>
      rw [hfree] at h
      cases h
    | error f =>
      rw [hfree] at h
      cases h
  | error f =>
    rw [hread] at h
    have hplaced := Template.read_placed f hread
    cases f with
    | template error =>
      obtain ⟨fault, offset⟩ := error
      obtain ⟨o, rfl, ho, hplace⟩ := hplaced
      cases h
      refine ⟨fault, o, ho, rfl, source.locate_of ho, hplace, fun record hrecord hcut => ?_⟩
      exact hplace.resolve_right (not_shiftedAt hrecord hcut fault o)
    | number fault => cases h
    | marker value => cases h
    | emptyComment => cases h
    | binding fault => cases h

/-- A comment marker that goes on past a line feed may hold a quote before it. -/
def braceQuoteRecord : Json :=
  Dialect.Record.plainWith [] [("line", .arr [.str ['#', '"', '\n', '}']])]

def braceQuoteDialect : Dialect :=
  { Dialect.plain with lineComments := [.text ['#', '"', '\n', '}']] }

/-- The block `{#"` and a line feed before `}`. -/
def braceQuoteText : Text := ['{', '#', '"', '\n', '}']

/-- In the template a comment covers the quote. In the body of the block the marker has lost its
brace, so that the quote opens a string that does not end; this is reported at offset one, where the
template has the comment, and not at offset two, where the quote stands. -/
theorem compile_error_place_shifted :
    Dialect.Record.read braceQuoteRecord = .ok braceQuoteDialect ∧
      MarkersCover braceQuoteDialect ∧
      ∃ diagnostic, Template.compile braceQuoteDialect ⟨"t.tmpl", braceQuoteText⟩ =
          .error (.located diagnostic) ∧
        diagnostic.code = ("E_UNTERMINATED_LITERAL" : String) ∧
        diagnostic.location = ⟨1, 1, 2⟩ ∧
        Token.atOffset? braceQuoteDialect braceQuoteText 1 = .ok (some ⟨.comment, 2⟩) ∧
        ∃ token, ShiftedAt braceQuoteDialect braceQuoteText (.unclosed token) 1 := by
  have hcompile : Template.compile braceQuoteDialect ⟨"t.tmpl", braceQuoteText⟩ =
      .error (.located ⟨"E_UNTERMINATED_LITERAL", "error", "string literal is never closed",
        "t.tmpl", ⟨1, 1, 2⟩, "\x7b#\""⟩) :=
    Template.compile_of_refusal? (by decide +kernel)
  have hcomment : Token.atOffset? braceQuoteDialect braceQuoteText 1 = .ok (some ⟨.comment, 2⟩) :=
    Outcome.ok_of_toOption (by decide +kernel)
  have hcover : MarkersCover braceQuoteDialect := by
    intro m hm
    simp only [braceQuoteDialect, List.mem_singleton, Entry.text.injEq] at hm
    rw [hm]
    decide
  obtain ⟨fault, o, ho, hsame, hlocation, hplace, _⟩ := compile_error_place hcompile
  have hcode : ("E_UNTERMINATED_LITERAL" : Text) = fault.code := congrArg Diagnostic.code hsame
  -- The place in bytes tells the offset.
  obtain rfl : o = 1 := by
    have hbyte : 1 = Text.utf8Size (braceQuoteText.take o) := hlocation.byte
    have hone : ∀ k < 6, 1 = Text.utf8Size (braceQuoteText.take k) → k = 1 := by decide
    exact hone o (Nat.lt_succ_of_le ho) hbyte
  refine ⟨by cbv, hcover, _, hcompile, rfl, rfl, hcomment, ?_⟩
  rcases hplace with hpoints | hshifted
  · -- No fault of the template itself has this code at this offset.
    exfalso
    cases hpoints with
    | unclosed _ _ hfault =>
      rw [hcomment] at hfault
      cases hfault
    | missingExpression => exact absurd hcode (by decide)
    | spec =>
      have hspec : ("E_UNTERMINATED_LITERAL" : Text) ≠ "E_FORMAT_SPEC_INVALID" := by decide
      exact hspec hcode
  · cases hshifted with
    | intro hclosed hmarks hfault hbefore => exact ⟨_, .intro hclosed hmarks hfault hbefore⟩

end Stencil
