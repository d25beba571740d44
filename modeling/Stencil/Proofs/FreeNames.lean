import Stencil.Proofs.Block.Piece
import Stencil.Proofs.Faults
import Stencil.Proofs.Pattern.Groups
import Stencil.Proofs.Template

/-! # Free names are always found

  To find the free names of a template its code is lexed again in pieces: each statement on its own,
  and each expression without its comments and without the blanks around it. Then the patterns of the
  dialect are matched. Neither step fails in a built-in dialect:

  - a piece of a code block that was read is lexed without a fault, because it is cut from the block
    outside tokens (`Block.marks_of_span`, `Block.marks_of_expr`);
  - every match of a pattern records the names that it binds (`Use.exists_boundNames`).

  So a template that is read is compiled.
-/

namespace Stencil

open Dialect (rust python)

variable {d : Dialect} {s : Segment} {b : Block}

/-! ### Bound names -/

/-- Every match of a pattern of the dialect records the names that it binds. -/
def Dialect.RecordsNames (d : Dialect) : Prop :=
  ∀ p ∈ d.bindingPatterns, ∃ g, p.groupNamed? "names" = some g ∧ p.root.records g = true

/-- The patterns of the built-in dialects have the names in a group that no match leaves out. -/
theorem recordsNames_of_builtin (hd : d = rust ∨ d = python) : d.RecordsNames := by
  have hall : d.bindingPatterns.all
      (fun p => (p.groupNamed? "names").any fun g => p.root.records g) = true := by
    rcases hd with rfl | rfl <;> decide +kernel
  intro p hp
  have hany := List.all_eq_true.mp hall p hp
  rw [Option.any_eq_true] at hany
  exact hany

namespace Use

theorem exists_namesOfMatch {p : Pattern} {g : Nat} (hnamed : p.groupNamed? "names" = some g)
    {m : Pattern.Match} (hm : m.reached.Recorded g) (masked : Text) :
    ∃ names, namesOfMatch p masked m = .ok names := by
  obtain ⟨⟨start, stop⟩, hextent⟩ := Option.isSome_iff_exists.mp hm
  unfold namesOfMatch
  rw [hnamed]
  dsimp only
  rw [hextent]
  exact ⟨_, rfl⟩

/-- The names that a piece of code binds are always found. -/
theorem exists_boundNames (hd : d.RecordsNames) (masked : Text) :
    ∃ bound, boundNames d masked = .ok bound := by
  obtain ⟨found, hfound⟩ := Outcome.exists_mapM_ok_iff (f := fun p : Pattern =>
      (p.matchesIn masked).mapM (namesOfMatch p masked)).mpr fun p hp => by
    obtain ⟨g, hnamed, hrecords⟩ := hd p hp
    exact Outcome.exists_mapM_ok_iff.mpr fun m hm =>
      exists_namesOfMatch hnamed (Pattern.recorded_of_mem_matchesIn hrecords hm) masked
  unfold boundNames
  rw [hfound]
  exact ⟨_, rfl⟩

/-! ### Uses -/

/-- The uses in statements that are lexed one by one are found. -/
theorem exists_ofStatements (hd : d.RecordsNames) (t : Text) (base : Int) (bound : List Text)
    {spans : List (Nat × Nat)}
    (h : ∀ a b, (a, b) ∈ spans → ∃ masked, mask d (t.slice a b) = .ok masked) :
    ∃ r, ofStatements d t base bound spans = .ok r := by
  induction spans generalizing bound with
  | nil => exact ⟨_, rfl⟩
  | cons span spans ih =>
    obtain ⟨start, stop⟩ := span
    obtain ⟨masked, hmasked⟩ := h start stop List.mem_cons_self
    have later (bound : List Text) := ih bound fun a b hspan => h a b (List.mem_cons_of_mem _ hspan)
    rw [ofStatements, hmasked]
    simp only [bind, Except.bind]
    split
    · exact later bound
    · obtain ⟨names, hnames⟩ := exists_boundNames hd masked
      obtain ⟨r, hr⟩ := later (bound ++ names)
      rw [hnames]
      dsimp only [Outcome.mapError_ok]
      rw [hr]
      exact ⟨_, rfl⟩

end Use

/-! ### Pieces of code blocks -/

theorem mask_of_marks {t : Text} {ms : List Mark} (h : marks d t = .ok ms) :
    mask d t = .ok (maskWith Mark.isOpaque t ms) := by
  unfold mask
  rw [h]
  rfl

/-- The pieces of a code block in which names are looked for are lexed, each on its own. -/
structure Block.PiecesLexed (d : Dialect) (b : Block) : Prop where
  statements : ∃ spans, statementSpans d b.statements = .ok spans ∧
    ∀ start stop, (start, stop) ∈ spans →
      ∃ masked, mask d (b.statements.slice start stop) = .ok masked
  expr : ∀ tail ∈ b.tail, ∃ masked, mask d tail.expr = .ok masked

theorem Block.piecesLexed_of_read (hd : d = rust ∨ d = python) {base : Int} {t : Text}
    (h : Block.read d base t = .ok b) : b.PiecesLexed d where
  statements := by
    obtain ⟨ms, hms⟩ := Block.marks_of_statements hd h
    obtain ⟨spans, hspans, hlexed⟩ := Block.marks_of_span hd hms
    refine ⟨spans, hspans, fun start stop hspan => ?_⟩
    obtain ⟨ms', hms'⟩ := hlexed start stop hspan
    exact ⟨_, mask_of_marks hms'⟩
  expr tail htail := by
    obtain ⟨ms, hms, _⟩ := Block.marks_of_expr hd h htail
    exact ⟨_, mask_of_marks hms⟩

/-- The uses in a code block whose pieces are lexed are found. -/
theorem Use.exists_ofBlock (hd : d.RecordsNames) (s : Segment) (h : b.PiecesLexed d) :
    ∃ uses, ofBlock d s b = .ok uses := by
  unfold ofBlock
  extract_lets usesOf
  -- Whatever the statements are, their names and those of the expression are found.
  have huses {spans : List (Nat × Nat)} (hlexed : ∀ start stop, (start, stop) ∈ spans →
      ∃ masked, mask d (b.statements.slice start stop) = .ok masked) :
      ∃ uses, usesOf spans = .ok uses := by
    obtain ⟨⟨here, bound⟩, hhere⟩ := exists_ofStatements hd b.statements s.bodyStart [] hlexed
    unfold usesOf
    rw [hhere]
    simp only [bind, Except.bind]
    cases htail : b.tail with
    | none => exact ⟨_, rfl⟩
    | some tail =>
      obtain ⟨masked, hmasked⟩ := h.expr tail htail
      obtain ⟨names, hnames⟩ := exists_boundNames hd masked
      dsimp only
      rw [hmasked]
      dsimp only
      rw [hnames]
      exact ⟨_, rfl⟩
  split
  · exact huses fun _ _ hspan => absurd hspan List.not_mem_nil
  · obtain ⟨spans, hspans, hlexed⟩ := h.statements
    rw [hspans]
    exact huses hlexed

/-! ### Templates -/

/-- The code of a part of a template is a block that was read. -/
theorem Template.block_of_readPart {b : Block} {spec : Option FormatSpec} {s' : Segment}
    (h : readPart d s = .ok (.code s' b spec)) : Block.read d s.bodyStart s.text = .ok b := by
  unfold readPart at h
  cases hkind : s.kind with
  | literal =>
    rw [hkind] at h
    cases h
  | code =>
    rw [hkind] at h
    obtain ⟨b', hb, h⟩ := Outcome.bind_ok_iff.mp h
    dsimp only at h
    split at h
    · obtain ⟨_, _, h⟩ := Outcome.bind_ok_iff.mp h
      cases h
      exact hb
    · cases h
      exact hb

/-- The pieces of every code block of a template that was read are lexed. -/
theorem Template.piecesLexed_of_read (hd : d = rust ∨ d = python) {t : Text}
    {found : List Segment} {parts : List Plan.Part} (h : read d t = .ok (found, parts))
    {b : Block} {spec : Option FormatSpec} (hb : .code s b spec ∈ parts) : b.PiecesLexed d := by
  obtain ⟨found, _, h⟩ := Outcome.bind_ok_iff.mp h
  obtain ⟨parts, hparts, h⟩ := Outcome.bind_ok_iff.mp h
  cases h
  obtain ⟨s', _, hread⟩ := Outcome.of_mem_mapM hparts hb
  exact Block.piecesLexed_of_read hd (block_of_readPart hread)

/-- The free names of a template that was read are found. -/
theorem exists_freeNames (hd : d = rust ∨ d = python) {t : Text} {found : List Segment}
    {parts : List Plan.Part} (h : Template.read d t = .ok (found, parts)) :
    ∃ free, freeNames d parts = .ok free := by
  have hnames := recordsNames_of_builtin hd
  refine Outcome.exists_bind_ok (Outcome.exists_mapM_ok_iff.mpr fun part hpart => ?_)
    fun uses => ⟨_, rfl⟩
  cases part with
  | literal s => exact ⟨[], rfl⟩
  | code s b spec => exact Use.exists_ofBlock hnames s (Template.piecesLexed_of_read hd h hpart)

/-- A template that is read is compiled. -/
theorem exists_compile (hd : d = rust ∨ d = python) (source : Source) {found : List Segment}
    {parts : List Plan.Part} (h : Template.read d source.text = .ok (found, parts)) :
    ∃ free, freeNames d parts = .ok free ∧
      Template.compile d source = .ok ⟨source, found, parts.filterMap Template.blockOf?,
        Plan.ofParts source.path parts, free⟩ := by
  obtain ⟨free, hfree⟩ := exists_freeNames hd h
  exact ⟨free, hfree, Outcome.bind_ok_iff.mpr ⟨_, Outcome.mapError_ok_iff.mpr h,
    Outcome.bind_ok_iff.mpr ⟨free, Outcome.mapError_ok_iff.mpr hfree, rfl⟩⟩⟩

/-- A template whose fault is not reported at a place holds digits that spell no number. -/
theorem number_of_bare (hd : d = rust ∨ d = python) {source : Source} {f : Failure}
    (h : Template.compile d source = .error (.bare f)) :
    ∃ n, f = .number n ∧ Template.read d source.text = .error (.number n) := by
  cases hread : Template.read d source.text with
  | ok r =>
    obtain ⟨found, parts⟩ := r
    obtain ⟨free, _, hok⟩ := exists_compile hd source hread
    rw [hok] at h
    cases h
  | error f' =>
    have hin := Template.read_failsOnly (Dialect.apart_of_builtin hd).toRegular.advancing source.text
      f' hread
    unfold Template.compile at h
    rw [hread] at h
    cases f' with
    | template e => cases h
    | number n =>
      cases h
      exact ⟨n, rfl, rfl⟩
    | marker value => exact hin.elim
    | emptyComment => exact hin.elim
    | binding fault => exact hin.elim

/-- A template that is read is compiled: the code of its blocks is lexed again in pieces without a
fault, so that its free names are found. A fault of the template is always reported at its place. -/
theorem compile_of_read (hd : d = rust ∨ d = python) (source : Source) :
    (∀ found parts, Template.read d source.text = .ok (found, parts) →
      (∀ b ∈ parts.filterMap Template.blockOf?, b.PiecesLexed d) ∧
        ∃ free, freeNames d parts = .ok free ∧
          Template.compile d source = .ok ⟨source, found, parts.filterMap Template.blockOf?,
            Plan.ofParts source.path parts, free⟩) ∧
      ∀ e, Template.compile d source ≠ .error (.bare (.template e)) := by
  refine ⟨fun found parts hread => ⟨fun b hb => ?_, exists_compile hd source hread⟩,
    fun e he => ?_⟩
  · obtain ⟨part, hpart, hblock⟩ := List.mem_filterMap.mp hb
    cases part with
    | literal s => cases hblock
    | code s b' spec =>
      obtain rfl := Option.some.inj hblock
      exact Template.piecesLexed_of_read hd hread hpart
  · obtain ⟨n, hn, _⟩ := number_of_bare hd he
    cases hn

/-- Statements with a terminator in a string, and an expression with comments around it. -/
def piecesText : Text := "\x7ba = ';'; # b;\n a # c:\n:#>3\x7d"

/-- A terminator in a string ends no statement, a comment before the expression and one behind it are
no part of it, and the mark behind the colon opens none. -/
theorem compile_of_read_comment :
    ∃ found parts, Template.read python piecesText = .ok (found, parts) ∧
      (parts.filterMap Template.blockOf?).map (fun b => (b.statements, b.tail.map Tail.expr)) =
        [(("a = ';';" : String).toList, some ['a'])] ∧
      (∀ b ∈ parts.filterMap Template.blockOf?, b.PiecesLexed python) ∧
      ∃ t, Template.compile python ⟨['t'], piecesText⟩ = .ok t := by
  have hpieces : ((Template.read python piecesText).toOption.map fun r =>
      (r.2.filterMap Template.blockOf?).map fun b => (b.statements, b.tail.map Tail.expr)) =
        some [(("a = ';';" : String).toList, some ['a'])] := by decide +kernel
  obtain ⟨⟨found, parts⟩, hread, hblocks⟩ := Option.map_eq_some_iff.mp hpieces
  have hread := Outcome.ok_of_toOption hread
  obtain ⟨hlexed, free, _, hcompile⟩ :=
    (compile_of_read (.inr rfl) ⟨['t'], piecesText⟩).1 found parts hread
  exact ⟨found, parts, hread, hblocks, hlexed, _, hcompile⟩

end Stencil
