import Mathlib.Data.List.Forall2
import Stencil.Proofs.Script.Token
import Stencil.Proofs.Source
import Stencil.Routine.Python
import Stencil.Script.Syntax

/-! # Routines as scripts

  The routine for a plan without statements is a script, and what the script says is what the plan
  says (`read_inline`): it imports the three helpers, and its one function guards the sink and then
  calls a helper for each operation, with the literal text, or with the expression and its format.

  - `Spells` relates a line of the function to the statement that it is read as, in any place of the
    script and whatever comes behind it. There is one lemma for each kind of line.
  - The lines of the function are read one after the other, by induction on the list of them
    (`run_lines`).
-/

namespace Stencil.Script

open Routine (indentUnit unlines)

/-! ### One line -/

namespace Scan

/-- The scan at the start of line `n`, where `t` is ahead. -/
def atLine (n : Nat) (lines : List Line) (t : Text) : Scan := ⟨0, 0, n, ⟨n, indentOf t, []⟩, lines⟩

theorem run_feed (n m i : Nat) (tokens : List Token) (lines : List Line) (rest : Text) :
    (⟨0, 0, m, ⟨n, i, tokens⟩, lines⟩ : Scan).run ('\n' :: rest) =
      (atLine (m + 1) (⟨n, i, tokens.reverse⟩ :: lines) rest).run rest := rfl

end Scan

/-- The line `w` of a function spells a statement. -/
structure Spells (w : Text) (statement : Statement Part) : Prop where
  begins : ∃ c u, w = c :: u ∧ c ≠ ' '
  reads : ∃ tokens, statement? tokens = some statement ∧ ∀ (n : Nat) (lines : List Line) (rest : Text),
    ∃ m, (Scan.atLine n lines (indentUnit ++ (w ++ '\n' :: rest))).run
        (indentUnit ++ (w ++ '\n' :: rest)) =
      (Scan.atLine m (⟨n, 4, tokens⟩ :: lines) rest).run rest

def guardStatement : Statement Part :=
  .assign "sink" none (.call "_bw_guard_sink" [⟨.word "sink", false⟩])

def literalStatement (t : Text) : Statement Part :=
  .call "_bw_write_literal" [⟨.word "sink", false⟩, ⟨.text t.quoted, false⟩]

def formattedStatement (expr format mode : Text) : Statement Part :=
  .call "_bw_write_formatted" [⟨.word "sink", false⟩, ⟨atomOf expr, true⟩,
    ⟨.text format.quoted, false⟩, ⟨.text mode.quoted, false⟩]

theorem spells_guard : Spells "sink = _bw_guard_sink(sink)" guardStatement where
  begins := ⟨'s', _, rfl, by decide⟩
  reads := ⟨[.atom (.word "sink"), .equals, .atom (.word "_bw_guard_sink"), .opening,
    .atom (.word "sink"), .closing], rfl, fun n _ _ => ⟨n + 1, rfl⟩⟩

theorem run_quoted {s : Scan} (hskip : s.skip = 0) (t : Text) {x : Char} (hx : isQuote x = false)
    (rest : Text) :
    s.run (t.quoted ++ x :: rest) =
      (s.took (.atom (.text t.quoted)) t.quoted).run (x :: rest) := by
  have hquote : isQuote t.quoteFor = true := by
    rcases quoteFor_eq t with h | h <;> rw [h] <;> rfl
  refine Scan.run_text hskip hquote (textLength?_quoted t fun hhead => ?_)
  obtain rfl := Option.some.inj hhead
  rw [hx] at hquote
  cases hquote

theorem spells_literal (t : Text) :
    Spells ("_bw_write_literal(sink, " ++ t.quoted ++ ")") (literalStatement t) where
  begins := ⟨'_', _, rfl, by decide⟩
  reads := by
    refine ⟨[.atom (.word "_bw_write_literal"), .opening, .atom (.word "sink"), .comma,
      .atom (.text t.quoted), .closing], rfl, fun n lines rest =>
        ⟨n + t.quoted.count '\n' + 1, ?_⟩⟩
    -- Up to the literal the line is fixed, and is read by evaluation whatever comes behind it.
    have hhead : ∀ more : Text, (Scan.atLine n lines
        (("    _bw_write_literal(sink, " : Text) ++ more)).run
          (("    _bw_write_literal(sink, " : Text) ++ more) =
        (⟨0, 1, n, ⟨n, 4, [.comma, .atom (.word "sink"), .opening,
          .atom (.word "_bw_write_literal")]⟩, lines⟩ : Scan).run more := fun _ => rfl
    have hsplit : indentUnit ++ ("_bw_write_literal(sink, " ++ t.quoted ++ ")" ++ '\n' :: rest) =
        ("    _bw_write_literal(sink, " : Text) ++ (t.quoted ++ ')' :: '\n' :: rest) := by
      simp [indentUnit]
    rw [hsplit, hhead, run_quoted rfl t rfl]
    rfl

theorem spells_formatted {expr : Text} (hexpr : IsAtom expr) (format mode : Text) :
    Spells ("_bw_write_formatted(sink, (" ++ expr ++ "), " ++ format.quoted ++ ", "
      ++ mode.quoted ++ ")") (formattedStatement expr format mode) where
  begins := ⟨'_', _, rfl, by decide⟩
  reads := by
    refine ⟨[.atom (.word "_bw_write_formatted"), .opening, .atom (.word "sink"), .comma, .opening,
      .atom (atomOf expr), .closing, .comma, .atom (.text format.quoted), .comma,
      .atom (.text mode.quoted), .closing], rfl, fun n lines rest =>
        ⟨n + expr.count '\n' + format.quoted.count '\n' + mode.quoted.count '\n' + 1, ?_⟩⟩
    have hhead : ∀ more : Text, (Scan.atLine n lines
        (("    _bw_write_formatted(sink, (" : Text) ++ more)).run
          (("    _bw_write_formatted(sink, (" : Text) ++ more) =
        (⟨0, 2, n, ⟨n, 4, [.opening, .comma, .atom (.word "sink"), .opening,
          .atom (.word "_bw_write_formatted")]⟩, lines⟩ : Scan).run more := fun _ => rfl
    have hsplit : indentUnit ++ ("_bw_write_formatted(sink, (" ++ expr ++ "), " ++ format.quoted
          ++ ", " ++ mode.quoted ++ ")" ++ '\n' :: rest) =
        ("    _bw_write_formatted(sink, (" : Text) ++ (expr ++ ')' :: ',' :: ' ' ::
          (format.quoted ++ ',' :: ' ' :: (mode.quoted ++ ')' :: '\n' :: rest))) := by
      simp [indentUnit]
    -- Behind the expression and behind the format come marks alone.
    have hafter : ∀ (m i : Nat) (tokens : List Token) (more : Text),
        (⟨0, 2, m, ⟨n, i, tokens⟩, lines⟩ : Scan).run (')' :: ',' :: ' ' :: more) =
          (⟨0, 1, m, ⟨n, i, .comma :: .closing :: tokens⟩, lines⟩ : Scan).run more :=
      fun _ _ _ _ => rfl
    have hcomma : ∀ (m i : Nat) (tokens : List Token) (more : Text),
        (⟨0, 1, m, ⟨n, i, tokens⟩, lines⟩ : Scan).run (',' :: ' ' :: more) =
          (⟨0, 1, m, ⟨n, i, .comma :: tokens⟩, lines⟩ : Scan).run more :=
      fun _ _ _ _ => rfl
    have hends : ∀ more : Text, Scan.Ends (')' :: more) := fun _ x hx => by
      obtain rfl := Option.some.inj hx
      decide
    rw [hsplit, hhead, run_atom hexpr rfl (hends _), Scan.took, hafter,
      run_quoted rfl format rfl, Scan.took, hcomma, run_quoted rfl mode rfl]
    rfl

/-! ### The lines of the function -/

/-- Lines of a function, each with its indentation and its end. -/
def bodyText (ws : List Text) : Text := ws.flatMap fun w => indentUnit ++ (w ++ ['\n'])

/-- A line that has been read as a statement of the function. -/
def Line.Holds (l : Line) (statement : Statement Part) : Prop :=
  l.indent = 4 ∧ statement? l.tokens = some statement

variable {ws : List Text} {statements : List (Statement Part)} {lines : List Line}

theorem run_lines (h : List.Forall₂ Spells ws statements) (n : Nat) (before : List Line) :
    ∃ m body, (Scan.atLine n before (bodyText ws)).run (bodyText ws) =
        .ok (Scan.atLine m (body.reverse ++ before) []) ∧
      List.Forall₂ Line.Holds body statements := by
  induction h generalizing n before with
  | nil => exact ⟨n, [], rfl, .nil⟩
  | @cons w statement ws statements hw _ ih =>
    -- The first line is read with the others behind it, and they with it behind the scan.
    obtain ⟨tokens, hstatement, hreads⟩ := hw.reads
    obtain ⟨m, hm⟩ := hreads n before (bodyText ws)
    obtain ⟨m', body, hrun, hbody⟩ := ih m (⟨n, 4, tokens⟩ :: before)
    have hsplit : bodyText (w :: ws) = indentUnit ++ (w ++ '\n' :: bodyText ws) := by
      simp [bodyText]
    refine ⟨m', ⟨n, 4, tokens⟩ :: body, ?_, .cons ⟨rfl, hstatement⟩ hbody⟩
    rw [hsplit, hm, hrun, List.reverse_cons, List.append_assoc, List.singleton_append]

theorem tokens_ne_nil_of_holds {l : Line} {statement : Statement Part} (h : l.Holds statement) :
    l.tokens.isEmpty = false := by
  cases htokens : l.tokens with
  | nil =>
    have hholds := h.2
    rw [htokens] at hholds
    cases hholds
  | cons => rfl

theorem filter_holds (h : List.Forall₂ Line.Holds lines statements) :
    lines.filter (!·.tokens.isEmpty) = lines := by
  rw [List.filter_eq_self]
  induction h with
  | nil => exact fun _ hl => absurd hl List.not_mem_nil
  | cons hl _ ih =>
    rw [List.forall_mem_cons]
    exact ⟨by rw [tokens_ne_nil_of_holds hl]; rfl, ih⟩

/-- Lines that say statements are the body of a function. -/
theorem body?_holds (hne : lines ≠ []) (h : List.Forall₂ Line.Holds lines statements) :
    ∃ body, body? lines = some body ∧ body.map (·.2) = statements := by
  have hmapM : ∀ {lines statements}, List.Forall₂ Line.Holds lines statements →
      ∃ body, (lines.mapM fun l => if l.indent = 4 then (statement? l.tokens).map (l.number, ·)
        else none) = some body ∧ body.map (·.2) = statements := by
    intro lines statements h
    induction h with
    | nil => exact ⟨[], rfl, rfl⟩
    | @cons l statement _ _ hl _ ih =>
      obtain ⟨body, hbody, hmap⟩ := ih
      refine ⟨(l.number, statement) :: body, ?_, by rw [List.map_cons, hmap]⟩
      rw [List.mapM_cons, if_pos hl.1, hl.2, hbody]
      rfl
  cases h with
  | nil => exact absurd rfl hne
  | @cons l statement lines statements hl hlines =>
    obtain ⟨body, hbody, hmap⟩ := hmapM (.cons hl hlines)
    refine ⟨body, ?_, hmap⟩
    rw [body?, hl.1, if_neg (by decide)]
    exact hbody

/-! ### The head of a routine -/

theorem run_remark {r : Text} (h : '\n' ∉ r) (t : Text) :
    (Scan.start ('#' :: r ++ '\n' :: t)).run ('#' :: r ++ '\n' :: t) =
      (Scan.atLine 2 [⟨1, 0, []⟩] t).run t := by
  have hline : (r ++ '\n' :: t).takeWhile (· ≠ '\n') = r := by
    refine Text.takeWhile_run_append (fun c hc => ?_) (fun c hc => ?_)
    · rw [decide_eq_true_eq]
      rintro rfl
      exact h hc
    · obtain rfl := Option.some.inj hc
      decide
  have hnext : (Scan.start ('#' :: (r ++ '\n' :: t))).next '#' (r ++ '\n' :: t) =
      .ok ⟨((r ++ '\n' :: t).takeWhile (· ≠ '\n')).length, 0, 1, ⟨1, 0, []⟩, []⟩ := rfl
  rw [List.cons_append, Scan.run_cons, hnext, hline, Outcome.ok_bind, Scan.run_skip _ rfl]
  dsimp only
  rw [List.count_eq_zero_of_not_mem h, Scan.run_feed]
  rfl

theorem not_mem_header {p : Plan} (h : '\n' ∉ p.path) : '\n' ∉ Routine.header p := by
  have hstart : '\n' ∉ ("Generated by braceweave from " : Text) := by decide
  have hend : '\n' ∉ ("; do not edit." : Text) := by decide
  unfold Routine.header
  simp only [List.mem_append, not_or]
  exact ⟨⟨hstart, h⟩, hend⟩

def importLine (n : Nat) (name given : Text) : Line :=
  ⟨n, 0, [.atom (.word "from"), .atom (.word "braceweave"), .dot, .atom (.word "runtime"),
    .atom (.word "import"), .atom (.word name), .atom (.word "as"), .atom (.word given)]⟩

def functionLine : Line :=
  ⟨7, 0, [.atom (.word "def"), .atom (.word "_braceweave_inline"), .opening, .atom (.word "sink"),
    .closing, .colon]⟩

def headLines : List Line :=
  [importLine 2 "guard_sink" "_bw_guard_sink", importLine 3 "write_formatted" "_bw_write_formatted",
    importLine 4 "write_literal" "_bw_write_literal", functionLine]

set_option maxRecDepth 4096 in
theorem run_imports (t : Text) :
    (Scan.atLine 2 [⟨1, 0, []⟩] (unlines Routine.Python.imports ++ t)).run
        (unlines Routine.Python.imports ++ t) =
      (Scan.atLine 5 [importLine 4 "write_literal" "_bw_write_literal",
        importLine 3 "write_formatted" "_bw_write_formatted",
        importLine 2 "guard_sink" "_bw_guard_sink", ⟨1, 0, []⟩] t).run t := by
  rfl

theorem run_function (before : List Line) (t : Text) :
    (Scan.atLine 5 before ("\n\ndef _braceweave_inline(sink):\n" ++ t)).run
        (("\n\ndef _braceweave_inline(sink):\n" : Text) ++ t) =
      (Scan.atLine 8 (functionLine :: ⟨6, 0, []⟩ :: ⟨5, 0, []⟩ :: before) t).run t := by
  rfl

/-! ### The script of a plan -/

/-- An operation that writes a literal text, or the value of an atom. -/
def IsPlain : Operation → Prop
  | .literal .. => True
  | .statements .. => False
  | .formatted expr _ _ => IsAtom expr

instance : DecidablePred IsPlain
  | .literal .. => .isTrue trivial
  | .statements .. => .isFalse id
  | .formatted expr _ _ => inferInstanceAs (Decidable (IsAtom expr))

def statementsOf : Operation → List (Statement Part)
  | .literal [] _ => []
  | .literal text _ => [literalStatement text]
  | .statements .. => []
  | .formatted expr spec _ =>
    [formattedStatement expr (spec.elim [] FormatSpec.toPython)
      (spec.elim Mode.display FormatSpec.mode).name]

def helperImports : List Import :=
  [⟨2, "guard_sink", "_bw_guard_sink"⟩, ⟨3, "write_formatted", "_bw_write_formatted"⟩,
    ⟨4, "write_literal", "_bw_write_literal"⟩]

/-- A script that says what the operations of a plan say. -/
structure Module.Follows (m : Module) (ops : List Operation) : Prop where
  imports : m.imports = helperImports
  routine : m.routine = "_braceweave_inline"
  parameters : m.parameters = ["sink".toList]
  body : m.body.map (·.2) = guardStatement :: ops.flatMap statementsOf

/-- The routine of a plan is read line by line as it was generated: the path does not break the
remark at its head, and no character in it has a meaning of its own for the language. -/
structure IsLegible (p : Plan) (text : Text) : Prop where
  path : '\n' ∉ p.path
  returns : '\r' ∉ text
  nulls : '\x00' ∉ text

theorem module?_headLines (lines : List Line) :
    module? (headLines ++ lines) =
      (body? lines).map (⟨helperImports, 7, "_braceweave_inline", ["sink"], ·⟩) := by
  cases h : body? lines with
  | none => simp [module?, headLines, importLine, functionLine, import?, function?, parameters?, h]
  | some body =>
    simp [module?, headLines, importLine, functionLine, import?, function?, parameters?, h,
      helperImports]

theorem exists_operationLines (d : Dialect) {op : Operation} (h : IsPlain op) :
    ∃ ws, Routine.Python.operationLines d op = .ok ws ∧
      List.Forall₂ Spells ws (statementsOf op) := by
  cases op with
  | literal text offset =>
    cases text with
    | nil => exact ⟨[], rfl, .nil⟩
    | cons c t => exact ⟨_, rfl, .cons (spells_literal (c :: t)) .nil⟩
  | statements code offset => exact absurd h id
  | formatted expr spec offset => exact ⟨_, rfl, .cons (spells_formatted h _ _) .nil⟩

theorem exists_mapM_operationLines (d : Dialect) {ops : List Operation}
    (h : ∀ op ∈ ops, IsPlain op) :
    ∃ wss, ops.mapM (Routine.Python.operationLines d) = .ok wss ∧
      List.Forall₂ Spells wss.flatten (ops.flatMap statementsOf) := by
  induction ops with
  | nil => exact ⟨[], rfl, .nil⟩
  | cons op ops ih =>
    rw [List.forall_mem_cons] at h
    obtain ⟨ws, hws, hspells⟩ := exists_operationLines d h.1
    obtain ⟨wss, hwss, hrest⟩ := ih h.2
    refine ⟨ws :: wss, ?_, ?_⟩
    · rw [List.mapM_cons, hws, Outcome.ok_bind, hwss]
      rfl
    · rw [List.flatten_cons, List.flatMap_cons]
      exact List.rel_append hspells hrest

/-- The lines of a function are indented as they stand in the routine. -/
theorem unlines_body (h : List.Forall₂ Spells ws statements) :
    unlines (ws.map fun line => if line.isEmpty then line else indentUnit ++ line) =
      bodyText ws := by
  induction h with
  | nil => rfl
  | cons hw _ ih =>
    obtain ⟨c, u, rfl, _⟩ := hw.begins
    rw [List.map_cons, unlines, List.flatMap_cons, ← unlines, ih]
    simp [bodyText]

/-- The routine for a plan without statements, by its lines. -/
theorem exists_inline (d : Dialect) {p : Plan} (h : ∀ op ∈ p.operations, IsPlain op) :
    ∃ ws, Routine.Python.inline d p = .ok
        ('#' :: (' ' :: Routine.header p) ++ '\n' :: (unlines Routine.Python.imports ++
          ("\n\ndef _braceweave_inline(sink):\n" ++ bodyText ws))) ∧
      List.Forall₂ Spells ws (guardStatement :: p.operations.flatMap statementsOf) := by
  obtain ⟨wss, hwss, hspells⟩ := exists_mapM_operationLines d h
  refine ⟨"sink = _bw_guard_sink(sink)" :: wss.flatten, ?_, .cons spells_guard hspells⟩
  rw [Routine.Python.inline, Routine.Python.module, hwss, Outcome.ok_bind]
  have hlines := unlines_body (.cons spells_guard hspells)
  rw [← hlines]
  simp [unlines, pure, Except.pure]

/-- The routine for a plan without statements is the script that guards the sink and has the
statements for the operations, one after the other. -/
theorem read_inline (d : Dialect) {p : Plan} {text : Text} (h : ∀ op ∈ p.operations, IsPlain op)
    (htext : Routine.Python.inline d p = .ok text) (hlegible : IsLegible p text) :
    ∃ m, read text = .ok m ∧ m.Follows p.operations := by
  obtain ⟨ws, hinline, hspells⟩ := exists_inline d h
  obtain rfl := Except.ok.inj (htext.symm.trans hinline)
  have hheader : '\n' ∉ (' ' :: Routine.header p : Text) :=
    List.not_mem_cons_of_ne_of_not_mem (by decide) (not_mem_header hlegible.path)
  -- The body begins on the eighth line; those before it without tokens are left out at the end.
  obtain ⟨m, lines, hrun, hholds⟩ := run_lines hspells 8
    (functionLine :: ⟨6, 0, []⟩ :: ⟨5, 0, []⟩ :: [importLine 4 "write_literal" "_bw_write_literal",
      importLine 3 "write_formatted" "_bw_write_formatted",
      importLine 2 "guard_sink" "_bw_guard_sink", ⟨1, 0, []⟩])
  have hlines : linesOf ('#' :: (' ' :: Routine.header p) ++ '\n' ::
      (unlines Routine.Python.imports ++
        ("\n\ndef _braceweave_inline(sink):\n" ++ bodyText ws))) = .ok (headLines ++ lines) := by
    rw [linesOf, run_remark hheader, run_imports, run_function, hrun, Outcome.ok_bind]
    have hfilter := filter_holds hholds
    simp [Scan.atLine, Scan.finished, hfilter, headLines, importLine, functionLine, pure, Except.pure]
  have hne : lines ≠ [] := by
    rintro rfl
    cases hholds
  obtain ⟨body, hbody, hmap⟩ := body?_holds hne hholds
  refine ⟨⟨helperImports, 7, "_braceweave_inline", ["sink"], body⟩, ?_, ⟨rfl, rfl, rfl, hmap⟩⟩
  have hcontains : ¬ (List.contains _ '\x00' = true) :=
    fun hmem => hlegible.nulls (List.contains_iff_mem.mp hmem)
  rw [read, if_neg hcontains, Text.unifyNewlines_of_not_mem hlegible.returns, hlines, Outcome.ok_bind,
    module?_headLines, hbody]
  rfl

end Stencil.Script
