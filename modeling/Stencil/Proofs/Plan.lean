import Stencil.Proofs.Block.Read
import Stencil.Proofs.Segment.Tiling
import Stencil.Proofs.Template

/-! # The plan of a template

  The plan of a template is made from three sequences: the segments, the code blocks read from some
  of them, and the format specifiers of the blocks. Each segment contributes a group of operations
  of its own, and the plan is these groups one after the other:

  - a literal segment contributes its text;
  - a code segment contributes the statements of its block, unless they are blank, and behind them
    the expression with the specifier that is read for it.

  The operations of a segment stand inside its span (`FromSegment`), and the segments stand one
  behind the other, so that the offsets of a plan increase. `Plan.lower` makes the plan from the
  three sequences with a running index; the index is never out of range, and the plan is the same.
-/

namespace Stencil

variable {d : Dialect} {t : Text} {s : Segment} {ss : List Segment}

/-! ### Specifiers -/

/-- The specifier of the expression of a block, read where it stands. -/
def Block.readSpec (d : Dialect) (b : Block) : Except Failure (Option FormatSpec) :=
  match b.tail with
  | some { spec := some spec, specOffset, .. } => (FormatSpec.read d specOffset spec).map some
  | _ => .ok none

/-- What is read from a segment: its block and the specifier of that, if it holds code. -/
theorem Template.readPart_ok {part : Plan.Part} (h : Template.readPart d s = .ok part) :
    (s.kind = .literal ∧ part = .literal s) ∨
      (s.kind = .code ∧ ∃ b spec, Block.read d s.bodyStart s.text = .ok b ∧
        b.readSpec d = .ok spec ∧ part = .code s b spec) := by
  unfold Template.readPart at h
  cases hkind : s.kind with
  | literal =>
    rw [hkind] at h
    exact .inl ⟨rfl, (Except.ok.inj h).symm⟩
  | code =>
    rw [hkind] at h
    obtain ⟨b, hb, h⟩ := Outcome.bind_ok_iff.mp h
    refine .inr ⟨rfl, b, ?_⟩
    dsimp only at h
    split at h
    · next htail =>
      obtain ⟨spec, hspec, h⟩ := Outcome.bind_ok_iff.mp h
      refine ⟨spec, hb, ?_, (Except.ok.inj h).symm⟩
      unfold Block.readSpec
      rw [htail]
      exact hspec
    · next htail =>
      obtain ⟨spec, hspec, h⟩ := Outcome.bind_ok_iff.mp h
      obtain rfl : none = spec := Except.ok.inj hspec
      refine ⟨none, hb, ?_, (Except.ok.inj h).symm⟩
      unfold Block.readSpec
      split
      · next hsome => exact absurd hsome (htail _ _ _ _)
      · rfl

/-- The operations of a compiled template are literal texts and those of its code blocks. -/
theorem block_of_compile {source : Source} {template : Template}
    (h : Template.compile d source = .ok template) {op : Operation}
    (hop : op ∈ template.plan.operations) :
    (∃ text offset, op = .literal text offset) ∨
      ∃ s b spec, Block.read d s.bodyStart s.text = .ok b ∧ op ∈ Operation.ofBlock s b spec := by
  obtain ⟨⟨ss, parts⟩, hread, h⟩ := Outcome.bind_ok_iff.mp h
  obtain ⟨free, _, h⟩ := Outcome.bind_ok_iff.mp h
  obtain rfl := Except.ok.inj h
  obtain ⟨ss', _, hread⟩ := Outcome.bind_ok_iff.mp (Outcome.mapError_ok_iff.mp hread)
  obtain ⟨parts', hparts, hread⟩ := Outcome.bind_ok_iff.mp hread
  obtain ⟨rfl, rfl⟩ := Prod.mk.inj (Except.ok.inj hread)
  rcases Plan.mem_ofParts hop with hliteral | ⟨s, b, spec, hpart, hop⟩
  · exact .inl hliteral
  · obtain ⟨s', _, hs'⟩ := Outcome.of_mem_mapM hparts hpart
    rcases Template.readPart_ok hs' with ⟨_, hcode⟩ | ⟨_, b', spec', hb, _, hcode⟩
    · cases hcode
    · cases hcode
      exact .inr ⟨s, b, spec, hb, hop⟩

/-! ### The operations of a segment -/

/-- What a code block may contribute; `spec` is the specifier of its expression. -/
inductive OfCode (spec : Option FormatSpec) : List Operation → Prop
  | nothing : OfCode spec []
  | statements {code offset} : OfCode spec [.statements code offset]
  | formatted {expr offset} : OfCode spec [.formatted expr spec offset]
  | both {code expr offset offset'} :
      OfCode spec [.statements code offset, .formatted expr spec offset']

/-- The operations `ops` are those of a segment of the template `t`. -/
structure FromSegment (d : Dialect) (t : Text) (s : Segment) (ops : List Operation) : Prop where
  literal : s.kind = .literal → ops = [.literal s.text s.start]
  /-- A code segment contributes what its block holds, with the specifier of that block. -/
  code : s.kind = .code → ∃ b spec, Block.read d s.bodyStart s.text = .ok b ∧
    b.readSpec d = .ok spec ∧ ops = Operation.ofBlock s b spec ∧ OfCode spec ops
  increasing : (ops.map Operation.offset).Pairwise (· < ·)
  /-- Every operation stands in the span of its segment, which is empty only if the template is. -/
  place : ∀ op ∈ ops, s.start ≤ op.offset ∧
    (op.offset < s.stop ∨ t = [] ∧ op.offset = s.stop)
  /-- Statements are a slice of the template. -/
  slice : ∀ (code : Text) (offset : Int), .statements code offset ∈ ops →
    ∃ i : Nat, offset = i ∧ t.slice i (i + code.length) = code

/-- A segment stands in a template, and a code segment holds what stands between its braces. -/
structure Segment.StandsIn (t : Text) (s : Segment) : Prop where
  span : s.start < s.stop ∨ t = [] ∧ s.start = s.stop
  body : s.kind = .code → s.start + s.text.length + 2 = s.stop ∧
    t.slice (s.start + 1) (s.start + 1 + s.text.length) = s.text

theorem Segment.standsIn_of_mem (h : segments d t = .ok ss) (hs : s ∈ ss) : s.StandsIn t := by
  rcases tiling_of_segments h with ⟨_, htiling⟩ | ⟨rfl, rfl⟩
  · obtain ⟨pre, u, rest, rfl, hstart, hcover⟩ := htiling.covers_of_mem hs
    have hpos := List.length_pos_iff.mpr hcover.ne_nil
    have hstop := hcover.stop_eq
    refine ⟨.inl (by omega), fun hcode => ?_⟩
    cases hcover with
    | literal => simp at hcode
    | @code offset body =>
      obtain rfl : offset = pre.length := by simpa using hstart
      refine ⟨rfl, ?_⟩
      have hsplit : pre ++ ('{' :: (body ++ ['}']) ++ rest) =
          (pre ++ ['{']) ++ (body ++ '}' :: rest) := by simp
      have hlen : pre.length + 1 = (pre ++ ['{']).length := by simp
      dsimp only
      rw [hsplit, hlen]
      exact slice_append _ _ _
  · obtain rfl := List.mem_singleton.mp hs
    exact ⟨.inr ⟨rfl, rfl⟩, fun hcode => by simp at hcode⟩

/-- Of the operations of a block, the statements come before the expression, and both stand in the
body. -/
theorem Operation.ofBlock_spec {b : Block} {visible : Text} (spec : Option FormatSpec)
    (h : b.LiesIn s.bodyStart s.text visible) (hvisible : visible.length = s.text.length) :
    OfCode spec (ofBlock s b spec) ∧
      ((ofBlock s b spec).map offset).Pairwise (· < ·) ∧
      ∀ op ∈ ofBlock s b spec, s.start < op.offset ∧ op.offset < s.start + 1 + s.text.length := by
  have hstart : (s.bodyStart : Int) = s.start + 1 := by simp [Segment.bodyStart]
  have hstatements := h.statements.length_le
  -- Statements that are not blank have a character, which stands in the body.
  have hpos (hblank : ¬ b.statements.all isBlank = true) : 0 < b.statements.length := by
    rw [List.length_pos_iff]
    intro hnil
    rw [hnil] at hblank
    exact hblank rfl
  have hexpr (tail : Tail) (htail : b.tail = some tail) : ∃ i : Nat,
      tail.exprOffset = s.start + 1 + i ∧ b.statements.length ≤ i ∧ i < s.text.length := by
    obtain ⟨i, hi, hle, hne, hshown, _⟩ := h.expr tail htail
    have := List.length_pos_iff.mpr hne
    exact ⟨i, by rw [hi, hstart], hle, by omega⟩
  unfold ofBlock
  by_cases hblank : b.statements.all isBlank = true
  · rw [if_pos hblank]
    cases htail : b.tail with
    | none => exact ⟨.nothing, .nil, fun op hop => absurd hop List.not_mem_nil⟩
    | some tail =>
      obtain ⟨i, hi, _, hlt⟩ := hexpr tail htail
      refine ⟨.formatted, List.pairwise_singleton _ _, fun op hop => ?_⟩
      obtain rfl := List.mem_singleton.mp hop
      simp only [offset]
      omega
  · rw [if_neg hblank]
    have := hpos hblank
    cases htail : b.tail with
    | none =>
      refine ⟨.statements, List.pairwise_singleton _ _, fun op hop => ?_⟩
      obtain rfl := List.mem_singleton.mp hop
      simp only [offset]
      omega
    | some tail =>
      obtain ⟨i, hi, hle, hlt⟩ := hexpr tail htail
      refine ⟨.both, List.pairwise_pair.mpr ?_, fun op hop => ?_⟩
      · simp only [offset]
        omega
      · rcases List.mem_cons.mp hop with rfl | hop
        · simp only [offset]
          omega
        · obtain rfl := List.mem_singleton.mp hop
          simp only [offset]
          omega

/-- The statements among the operations of a block are those of the block. -/
theorem Operation.statements_mem_ofBlock {b : Block} {spec : Option FormatSpec} {code : Text}
    {o : Int} (h : .statements code o ∈ ofBlock s b spec) :
    code = b.statements ∧ o = s.bodyStart := by
  rcases mem_ofBlock h with ⟨_, hop⟩ | ⟨_, _, hop⟩
  · cases hop
    exact ⟨rfl, rfl⟩
  · cases hop

/-- What is read from a segment of a template contributes operations of that segment. -/
theorem fromSegment_of_readPart {part : Plan.Part} (hs : s.StandsIn t)
    (h : Template.readPart d s = .ok part) : FromSegment d t s part.operations := by
  rcases Template.readPart_ok h with ⟨hkind, rfl⟩ | ⟨hkind, b, spec, hb, hspec, rfl⟩
  · refine ⟨fun _ => rfl, fun hcode => ?_, List.pairwise_singleton _ _, fun op hop => ?_,
      fun code offset hop => ?_⟩
    · rw [hkind] at hcode
      cases hcode
    · obtain rfl := List.mem_singleton.mp hop
      simp only [Operation.offset]
      refine ⟨Int.le_refl _, ?_⟩
      rcases hs.span with hlt | ⟨hnil, hstop⟩
      · exact .inl (by omega)
      · exact .inr ⟨hnil, by omega⟩
    · cases List.mem_singleton.mp hop
  · obtain ⟨hspan, hbody⟩ := hs.body hkind
    obtain ⟨ms, hms, hlies⟩ := Block.liesIn_of_read hb
    obtain ⟨hcode, hincreasing, hplace⟩ := Operation.ofBlock_spec spec hlies
      (length_maskWith _ (length_marksFrom hms))
    refine ⟨fun hliteral => ?_, fun _ => ⟨b, spec, hb, hspec, rfl, hcode⟩, hincreasing,
      fun op hop => ?_, fun code offset hop => ?_⟩
    · rw [hkind] at hliteral
      cases hliteral
    · obtain ⟨hlow, hhigh⟩ := hplace op hop
      omega
    · obtain ⟨rfl, rfl⟩ := Operation.statements_mem_ofBlock hop
      refine ⟨s.start + 1, rfl, ?_⟩
      -- The statements are the first characters of the body, and so a slice of the template.
      have hle := hlies.statements.length_le
      have hslice := Text.slice_slice (t := t) (a := s.start + 1) (b := s.start + 1 + s.text.length)
        (i := 0) (j := b.statements.length) (by rw [hbody]; exact hle)
      rw [hbody, Nat.add_zero] at hslice
      rw [← hslice]
      exact (List.prefix_iff_eq_take.mp hlies.statements).symm

/-! ### Groups of operations -/

/-- Each segment contributes a group of operations. -/
theorem groups_of_read {parts : List Plan.Part} (hss : ∀ s ∈ ss, s.StandsIn t)
    (h : List.Forall₂ (fun s part => Template.readPart d s = .ok part) ss parts) :
    List.Forall₂ (FromSegment d t) ss (parts.map Plan.Part.operations) := by
  induction h with
  | nil => exact .nil
  | cons hpart _ ih =>
    rw [List.forall_mem_cons] at hss
    exact .cons (fromSegment_of_readPart hss.1 hpart) (ih hss.2)

/-- Segments that tile a text cover some of it. -/
theorem Tiling.ne_nil {offset : Nat} (h : Tiling d offset t ss) (hne : ss ≠ []) : t ≠ [] := by
  cases h with
  | nil => exact absurd rfl hne
  | cons hcover =>
    intro hnil
    exact hcover.ne_nil (List.append_eq_nil_iff.mp hnil).1

/-- The segments of a tiling stand one behind the other. -/
theorem Tiling.pairwise {offset : Nat} (h : Tiling d offset t ss) :
    (∀ s ∈ ss, offset ≤ s.start) ∧ ss.Pairwise fun a b => a.stop ≤ b.start := by
  induction h with
  | nil => exact ⟨fun _ h => absurd h List.not_mem_nil, .nil⟩
  | cons hcover hstart _ _ ih =>
    have hstop := hcover.stop_eq
    refine ⟨List.forall_mem_cons.mpr ⟨by omega, fun b hb => ?_⟩, .cons (fun b hb => ?_) ih.2⟩
    · have := ih.1 b hb
      omega
    · have := ih.1 b hb
      omega

/-- The segments of a template stand one behind the other. -/
theorem pairwise_of_segments (h : segments d t = .ok ss) :
    ss.Pairwise fun a b => a.stop ≤ b.start := by
  rcases tiling_of_segments h with ⟨_, htiling⟩ | ⟨_, rfl⟩
  · exact htiling.pairwise.2
  · exact List.pairwise_singleton _ _

/-- Every operation of the groups belongs to one of the segments. -/
theorem segment_of_mem {groups : List (List Operation)}
    (h : List.Forall₂ (FromSegment d t) ss groups) {op : Operation} (hop : op ∈ groups.flatten) :
    ∃ s ∈ ss, ∃ ops, op ∈ ops ∧ FromSegment d t s ops := by
  induction h with
  | nil => simp at hop
  | @cons s ops ss groups hs _ ih =>
    rw [List.flatten_cons, List.mem_append] at hop
    rcases hop with hop | hop
    · exact ⟨s, List.mem_cons_self, ops, hop, hs⟩
    · obtain ⟨s', hs', hops⟩ := ih hop
      exact ⟨s', List.mem_cons_of_mem s hs', hops⟩

/-- The offsets of a plan increase, where its segments stand one behind the other. -/
theorem increasing_flatten {groups : List (List Operation)} (hne : t ≠ [])
    (h : List.Forall₂ (FromSegment d t) ss groups)
    (hss : ss.Pairwise fun a b => a.stop ≤ b.start) :
    (groups.flatten.map Operation.offset).Pairwise (· < ·) := by
  induction h with
  | nil => exact .nil
  | @cons s ops ss groups hs hrest ih =>
    obtain ⟨hbehind, hss⟩ := List.pairwise_cons.mp hss
    rw [List.flatten_cons, List.map_append, List.pairwise_append]
    refine ⟨hs.increasing, ih hss, fun a ha b hb => ?_⟩
    obtain ⟨x, hx, rfl⟩ := List.mem_map.mp ha
    obtain ⟨y, hy, rfl⟩ := List.mem_map.mp hb
    -- The first operation ends in its segment, and the second stands in a later one.
    obtain ⟨s', hs', ops', hy, hfrom⟩ := segment_of_mem hrest hy
    have hafter := hbehind s' hs'
    have hlow := (hfrom.place y hy).1
    rcases (hs.place x hx).2 with hlt | ⟨hnil, _⟩
    · omega
    · exact absurd hnil hne

/-! ### Literal text -/

/-- The text and the offset of an operation that writes literal text. -/
def Operation.literal? : Operation → Option (Text × Int)
  | .literal text offset => some (text, offset)
  | _ => none

theorem OfCode.no_literal {spec : Option FormatSpec} {ops : List Operation} (h : OfCode spec ops) :
    ops.filterMap Operation.literal? = [] := by
  cases h <;> rfl

/-- The literal texts of a plan are those of the literal segments. -/
theorem literals_flatten {groups : List (List Operation)}
    (h : List.Forall₂ (FromSegment d t) ss groups) :
    groups.flatten.filterMap Operation.literal? =
      (ss.filter (·.kind = .literal)).map fun s => (s.text, (s.start : Int)) := by
  induction h with
  | nil => rfl
  | @cons s ops ss groups hs _ ih =>
    rw [List.flatten_cons, List.filterMap_append, ih]
    cases hkind : s.kind with
    | literal =>
      rw [hs.literal hkind, List.filter_cons_of_pos (by simp [hkind])]
      rfl
    | code =>
      obtain ⟨_, _, _, _, _, hcode⟩ := hs.code hkind
      rw [hcode.no_literal, List.filter_cons_of_neg (by simp [hkind])]
      rfl

/-! ### The running index -/

/-- The operations of segments, made with the blocks and the specifiers of the whole template. The
code segment that is reached next has number `index` in both lists; there is no result where that is
out of range. -/
def Plan.lower (blocks : List Block) (specs : List (Option FormatSpec)) :
    (index : Nat) → List Segment → Option (List Operation)
  | _, [] => some []
  | index, s :: ss =>
    match s.kind with
    | .literal => (lower blocks specs index ss).map (.literal s.text s.start :: ·)
    | .code => do
      let b ← blocks[index]?
      let spec ← specs[index]?
      let later ← lower blocks specs (index + 1) ss
      return Operation.ofBlock s b spec ++ later

/-- The specifiers that were read for the blocks of a template. -/
def Plan.Part.spec? : Plan.Part → Option (Option FormatSpec)
  | .literal _ => none
  | .code _ _ spec => some spec

/-- The running index finds the block and the specifier of every code segment: what has not been
passed of the two lists belongs to the segments that are left. -/
theorem Plan.lower_eq {parts : List Plan.Part}
    (h : List.Forall₂ (fun s part => Template.readPart d s = .ok part) ss parts)
    {blocks : List Block} {specs : List (Option FormatSpec)} {index : Nat}
    (hblocks : blocks.drop index = parts.filterMap Template.blockOf?)
    (hspecs : specs.drop index = parts.filterMap Part.spec?) :
    lower blocks specs index ss = some (parts.flatMap Part.operations) := by
  induction h generalizing index with
  | nil => rfl
  | @cons s part ss parts hpart _ ih =>
    rw [lower, List.flatMap_cons]
    rcases Template.readPart_ok hpart with ⟨hkind, rfl⟩ | ⟨hkind, b, spec, _, _, rfl⟩
    · rw [hkind, ih hblocks hspecs]
      rfl
    · have hb : blocks[index]? = some b := by rw [← List.head?_drop, hblocks]; rfl
      have hspec : specs[index]? = some spec := by rw [← List.head?_drop, hspecs]; rfl
      have hlater : lower blocks specs (index + 1) ss = some (parts.flatMap Part.operations) :=
        ih (by rw [← List.tail_drop, hblocks]; rfl) (by rw [← List.tail_drop, hspecs]; rfl)
      rw [hkind, hb, hspec, hlater]
      rfl

/-- The specifiers of a template are those of its blocks. -/
theorem mapM_readSpec {parts : List Plan.Part}
    (h : List.Forall₂ (fun s part => Template.readPart d s = .ok part) ss parts) :
    (parts.filterMap Template.blockOf?).mapM (Block.readSpec d) =
      .ok (parts.filterMap Plan.Part.spec?) := by
  induction h with
  | nil => rfl
  | @cons s part ss parts hpart _ ih =>
    rcases Template.readPart_ok hpart with ⟨_, rfl⟩ | ⟨_, b, spec, _, hspec, rfl⟩
    · exact ih
    · show (b :: parts.filterMap Template.blockOf?).mapM (Block.readSpec d) = _
      rw [List.mapM_cons, hspec, ih]
      rfl

/-! ### Faithful plans -/

/-- The operations of a plan are those that the segments and the blocks of a template stand for. -/
structure Plan.Faithful (d : Dialect) (t : Text) (ss : List Segment) (blocks : List Block)
    (ops : List Operation) : Prop where
  literals : ops.filterMap Operation.literal? =
    (ss.filter (·.kind = .literal)).map fun s => (s.text, (s.start : Int))
  /-- Each segment contributes a group, in the order of the segments. -/
  groups : ∃ groups, ops = groups.flatten ∧ List.Forall₂ (FromSegment d t) ss groups
  increasing : (ops.map Operation.offset).Pairwise (· < ·)
  /-- Every block has a specifier, and the running index finds each with its segment. -/
  lowered : ∃ specs, blocks.mapM (Block.readSpec d) = .ok specs ∧
    Plan.lower blocks specs 0 ss = some ops

/-- The plan of a compiled template is faithful to its source: it holds the literal segments and what
every code segment contributes, in the order of the source and each at its place. -/
theorem plan_faithful {source : Source} {template : Template}
    (h : Template.compile d source = .ok template) :
    Plan.Faithful d source.text template.segments template.blocks template.plan.operations := by
  obtain ⟨⟨ss, parts⟩, hread, h⟩ := Outcome.bind_ok_iff.mp h
  obtain ⟨free, _, h⟩ := Outcome.bind_ok_iff.mp h
  obtain rfl := Except.ok.inj h
  obtain ⟨ss', hss, hread⟩ := Outcome.bind_ok_iff.mp (Outcome.mapError_ok_iff.mp hread)
  obtain ⟨parts', hparts, hread⟩ := Outcome.bind_ok_iff.mp hread
  obtain ⟨rfl, rfl⟩ := Prod.mk.inj (Except.ok.inj hread)
  -- The parts belong to the segments one by one, and so do the groups of operations.
  have hall := Outcome.forall₂_of_mapM hparts
  have hgroups := groups_of_read (fun s hs => Segment.standsIn_of_mem hss hs) hall
  have hops : (Plan.ofParts source.path parts').operations =
      (parts'.map Plan.Part.operations).flatten := List.flatMap_def
  refine ⟨?_, ⟨_, hops, hgroups⟩, ?_, ⟨_, mapM_readSpec hall, ?_⟩⟩
  · rw [hops]
    exact literals_flatten hgroups
  · rw [hops]
    rcases tiling_of_segments hss with ⟨hne, htiling⟩ | ⟨_, rfl⟩
    · exact increasing_flatten (htiling.ne_nil hne) hgroups htiling.pairwise.2
    · -- An empty template has one segment, and so one group.
      generalize parts'.map Plan.Part.operations = groups at hgroups
      cases hgroups with
      | cons hs hrest =>
        cases hrest
        rw [List.flatten_singleton]
        exact hs.increasing
  · exact Plan.lower_eq hall rfl rfl

/-- The template `a{x; y:>3}b{/* */}{z}`: a block with statements and a specifier, one that
contributes nothing, and one without a specifier. -/
def planText : Text := "a{x; y:>3}b{/* */}{z}"

/-- The specifier stays with its own expression although a block without one stands in between. -/
theorem plan_faithful_blocks :
    ∃ template, Template.compile Dialect.rust ⟨"t.tmpl", planText⟩ = .ok template ∧
      template.plan.operations = [.literal "a" 0, .statements "x;" 2,
        .formatted "y" (some ⟨">3", none, some .right, none, false, false, some 3, none, []⟩) 5,
        .literal "b" 10, .formatted "z" none 19] ∧
      Plan.Faithful Dialect.rust planText template.segments template.blocks
        template.plan.operations := by
  have hplan : (Template.compile Dialect.rust ⟨"t.tmpl", planText⟩).toOption.map
      (fun template => template.plan.operations) =
        some [.literal "a" 0, .statements "x;" 2,
          .formatted "y" (some ⟨">3", none, some .right, none, false, false, some 3, none, []⟩) 5,
          .literal "b" 10, .formatted "z" none 19] := by decide +kernel
  obtain ⟨template, htemplate, hplan⟩ := Option.map_eq_some_iff.mp hplan
  have hcompile := Outcome.ok_of_toOption htemplate
  exact ⟨template, hcompile, hplan, plan_faithful hcompile⟩

end Stencil
