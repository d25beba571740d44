import Stencil.Generation
import Stencil.Proofs.Template
import Stencil.Proofs.Text.Layout
import Stencil.Proofs.Token.LineCut

/-! # When a routine is generated

  A template that is compiled has statements that are lexed without a fault. The routine in Rust
  takes them as they are. The routine in Python lexes their first line once more, alone, to see
  whether it ends in a colon and owns the lines after it; and code that is lexed as a whole may not
  be lexed up to a line end. So a routine may fail although its template was compiled.

  `FirstLineBreaks` says of statements that this happens, and `routine_ok_iff` that nothing else
  keeps a routine from being generated.
-/

namespace Stencil

open Dialect (python)

/-! ### Statements with a first line that is not lexed -/

/-- Python code, lexed without a fault, whose first line is not lexed alone, with more code after
it. -/
inductive FirstLineBreaks (code : Text) : Prop
  /-- The line feed at the end of the first line is inside a string. -/
  | string {line rest ms} (hcode : code = line ++ '\n' :: rest) (hline : '\n' ∉ line)
      (hrest : rest.all isBlank = false) (hms : marks python code = .ok ms)
      (hinside : ms[line.length]? = some (.inside .string))
  /-- Right after a colon a comment takes the rest of the first line, which has neither blanks nor
  braces but blanks at its end, and is not lexed when it is no comment. -/
  | comment {q u w rest ms} (hcode : code = q ++ '#' :: (u ++ (w ++ '\n' :: rest)))
      (hline : '\n' ∉ q) (hblank : w.all isBlank = true) (hlineEnd : '\n' ∉ w)
      (hrest : rest.all isBlank = false) (hms : marks python code = .ok ms)
      (hcolon : q.getLast? = some ':') (hopens : ms[q.length]? = some (.opens .comment))
      (hrun : u.all Token.runsOn = true) (hfault : ¬ ∃ ms', marks python u = .ok ms')

/-- The first line breaks if and only if the line, but for the blanks after it, breaks the marks of
the code. -/
theorem firstLineBreaks_iff {r w rest : Text} {ms : List Mark} (hline : '\n' ∉ r ++ w)
    (hw : w.all isBlank = true) (hlast : ∀ c ∈ r.getLast?, isBlank c = false)
    (hrest : rest.all isBlank = false) (hms : marks python (r ++ w ++ '\n' :: rest) = .ok ms) :
    FirstLineBreaks (r ++ w ++ '\n' :: rest) ↔ BreaksAt none r w ms := by
  -- The first line and its marks are those that a break speaks of.
  have same {line rest' : Text} (hcode : r ++ w ++ '\n' :: rest = line ++ '\n' :: rest')
      (hline' : '\n' ∉ line) : line = r ++ w :=
    (Text.eq_of_append_sep hline hline' hcode).1.symm
  constructor
  · intro h
    cases h with
    | string hcode hline' _ hms' hinside =>
      obtain rfl := same hcode hline'
      obtain rfl := Except.ok.inj (hms.symm.trans hms')
      exact .string hinside
    | @comment q u v rest' ms' hcode hline' hblank hlineEnd _ hms' hcolon hopens hrun hfault =>
      obtain rfl := Except.ok.inj (hms.symm.trans hms')
      have hrun' : '\n' ∉ u := Token.not_mem_of_runsOn hrun
      have hwhole : r ++ w ++ '\n' :: rest = q ++ '#' :: u ++ v ++ '\n' :: rest' := by
        rw [hcode]
        simp
      have hnew : q ++ '#' :: u ++ v = r ++ w :=
        same hwhole (by simp [hline', hlineEnd, hrun'])
      -- The line without the blanks after it ends in the number sign or in the run behind it.
      have hlast' : ∀ c ∈ (q ++ '#' :: u).getLast?, isBlank c = false := by
        intro c hc
        have hmem : c ∈ '#' :: u := by
          rw [List.getLast?_append, List.getLast?_cons] at hc
          obtain rfl := Option.some.inj hc
          cases hu : u.getLast? with
          | none => exact List.mem_cons_self
          | some x => exact List.mem_cons_of_mem _ (List.mem_of_getLast? hu)
        rcases List.mem_cons.mp hmem with rfl | hmem
        · decide
        · exact Token.isBlank_of_runsOn (List.all_eq_true.mp hrun c hmem)
      obtain ⟨hr, _⟩ := Text.append_blanks_inj hblank hw hlast' hlast hnew
      exact .comment hr.symm hcolon hopens hrun hfault
  · intro h
    cases h with
    | string hinside => exact .string rfl hline hrest hms hinside
    | @comment q u hr hcolon hopens hrun hfault =>
      rw [List.mem_append, not_or] at hline
      have hcode : r ++ w ++ '\n' :: rest = q ++ '#' :: (u ++ (w ++ '\n' :: rest)) := by
        rw [hr]
        simp
      have hq : '\n' ∉ q := by
        intro hmem
        rw [hr] at hline
        exact hline.1 (List.mem_append_left _ hmem)
      exact .comment hcode hq hw hline.2 hrest hms hcolon hopens hrun hfault

/-- Behind a first line that breaks there is more code. -/
theorem FirstLineBreaks.cut_snd {code : Text} (h : FirstLineBreaks code) :
    ((code.cut '\n').2.getD []).all isBlank = false := by
  cases h with
  | @string line rest _ hcode hline hrest =>
    rw [hcode, Text.cut_append hline]
    exact hrest
  | @comment q u w rest _ hcode hline hblank hlineEnd hrest _ _ _ hrun =>
    have hrun' : '\n' ∉ u := Token.not_mem_of_runsOn hrun
    have hwhole : code = (q ++ '#' :: (u ++ w)) ++ '\n' :: rest := by
      rw [hcode]
      simp
    rw [hwhole, Text.cut_append (by simp [hline, hlineEnd, hrun'])]
    exact hrest

/-- The first line, without the blanks at either end, is lexed alone if and only if it does not
break. -/
theorem firstLine_lexes_iff {line rest : Text} {ms : List Mark} (hline : '\n' ∉ line)
    (hrest : rest.all isBlank = false) (hms : marks python (line ++ '\n' :: rest) = .ok ms) :
    (∃ ms', marks python line.trim = .ok ms') ↔ ¬ FirstLineBreaks (line ++ '\n' :: rest) := by
  by_cases hempty : line.trim = []
  · -- A blank line is all blanks after an empty one.
    obtain ⟨b, w, hsplit, hb, hw, _⟩ := Text.trim_spec line
    have hall : line.all isBlank = true := by
      rw [hsplit, hempty, List.nil_append, List.all_append, hb, hw]
      rfl
    have hiff := firstLineBreaks_iff (r := []) hline hall (by simp) hrest hms
    have hlexes := lexes_iff_not_breaksAt (r := []) List.not_mem_nil hline hall (by simp)
      (Nat.le_refl 0) hms
    rw [List.nil_append] at hiff
    rw [hiff, ← hlexes, hempty]
    exact ⟨fun _ => ⟨[], rfl⟩, fun _ => ⟨[], rfl⟩⟩
  · -- The blanks after the line are cut off, and those before it do not matter.
    obtain ⟨b, w, hr, hb, hw, hlast'⟩ := Text.trim_last hempty
    rw [hr] at hline
    have hline' := hline
    rw [List.mem_append, not_or] at hline'
    have hiff := firstLineBreaks_iff hline hw hlast' hrest (hr ▸ hms)
    have hlexes := lexes_iff_not_breaksAt hline'.1 hline'.2 hw hlast' (Nat.zero_le _)
      (show marksFrom python .comment 0 0 none _ = .ok ms by
        rw [← List.append_assoc, ← hr]; exact hms)
    rw [← hr] at hiff
    rw [hiff, ← hlexes]
    exact (marks_blanks_append hb).symm

/-! ### Laying out statements -/

namespace Routine.Python

/-- Statements are laid out if there is but one line of code, or if the first line is lexed
alone. -/
theorem exists_statementLines_iff {d : Dialect} {code : Text} :
    (∃ lines, statementLines d code = .ok lines) ↔
      (((code.cut '\n').2.getD []).all isBlank = true ∨ (code.cut '\n').1.trim = [] ∨
        ∃ ms, marks d (code.cut '\n').1.trim = .ok ms) := by
  unfold statementLines
  dsimp only
  rw [Text.all_blank_dedent_stripNewlines]
  split
  · next hblank => exact ⟨fun _ => .inl hblank, fun _ => ⟨_, rfl⟩⟩
  · next hblank =>
    split
    · next hempty => exact ⟨fun _ => .inr (.inl (List.isEmpty_iff.mp hempty)), fun _ => ⟨_, rfl⟩⟩
    · next hempty =>
      rw [List.isEmpty_iff] at hempty
      constructor
      · -- Whether the first line opens a suite is read off its mask.
        rintro ⟨_, h⟩
        obtain ⟨_, hsuite, _⟩ := Outcome.bind_ok_iff.mp h
        obtain ⟨_, hmask, _⟩ := Outcome.bind_ok_iff.mp hsuite
        obtain ⟨ms, hms, _⟩ := Outcome.map_ok_iff.mp hmask
        exact .inr (.inr ⟨ms, hms⟩)
      · intro h
        obtain ⟨ms, hms⟩ := (h.resolve_left hblank).resolve_left hempty
        unfold opensSuite mask
        rw [hms]
        exact ⟨_, rfl⟩

/-- Statements that are lexed are laid out if and only if their first line does not break. -/
theorem exists_statementLines_iff_not_firstLineBreaks {code : Text} {ms : List Mark}
    (hms : marks python code = .ok ms) :
    (∃ lines, statementLines python code = .ok lines) ↔ ¬ FirstLineBreaks code := by
  rw [exists_statementLines_iff]
  by_cases hmore : ((code.cut '\n').2.getD []).all isBlank = true
  · -- One line of code is not lexed again.
    refine ⟨fun _ hbreaks => ?_, fun _ => .inl hmore⟩
    rw [hbreaks.cut_snd] at hmore
    exact absurd hmore (by decide)
  · -- There is more than one line, so that the first one is lexed by itself.
    have hcode := Text.cut_fst_append '\n' code
    have hline := Text.not_mem_cut_fst '\n' code
    cases hcut : (code.cut '\n').2 with
    | none =>
      rw [hcut] at hmore
      exact absurd rfl hmore
    | some rest =>
      rw [hcut] at hcode hmore
      rw [Option.getD_some] at hmore ⊢
      rw [Bool.not_eq_true] at hmore
      generalize (code.cut '\n').1 = line at hcode hline
      obtain rfl : line ++ '\n' :: rest = code := hcode
      rw [← firstLine_lexes_iff hline hmore hms]
      constructor
      · rintro (hblank | hempty | hlexed)
        · rw [hmore] at hblank
          exact absurd hblank (by decide)
        · rw [hempty]
          exact ⟨[], rfl⟩
        · exact hlexed
      · intro hlexed
        exact .inr (.inr hlexed)

/-- A routine is generated if all statements of its plan are laid out. -/
theorem exists_module_iff {d : Dialect} {p : Plan} {signature : Text} {prologue : List Text} :
    (∃ text, module d p signature prologue = .ok text) ↔
      ∀ code offset, .statements code offset ∈ p.operations →
        ∃ lines, statementLines d code = .ok lines := by
  have hmodule : (∃ text, module d p signature prologue = .ok text) ↔
      ∃ lines, p.operations.mapM (operationLines d) = .ok lines := by
    unfold module
    constructor
    · rintro ⟨_, h⟩
      obtain ⟨lines, hlines, _⟩ := Outcome.bind_ok_iff.mp h
      exact ⟨lines, hlines⟩
    · rintro ⟨lines, hlines⟩
      rw [hlines]
      exact ⟨_, rfl⟩
  rw [hmodule, Outcome.exists_mapM_ok_iff]
  constructor
  · intro h code offset hop
    exact h _ hop
  · intro h op hop
    cases op with
    | literal text offset => cases text <;> exact ⟨_, rfl⟩
    | statements code offset => exact h code offset hop
    | formatted expr spec offset => exact ⟨_, rfl⟩

end Routine.Python

/-- The routine for a compiled template, of either language and for every place and record, is
generated unless the template has statements in Python whose first line breaks. -/
theorem routine_ok_iff {d : Dialect} (hd : d = Dialect.rust ∨ d = Dialect.python)
    {source : Source} {t : Template} (h : Template.compile d source = .ok t)
    (path : Option Text) (shape : Shape) :
    (∃ text, shape.routine d t.plan path = .ok text) ↔
      ∀ code offset, .statements code offset ∈ t.plan.operations →
        d.target = .python → ¬ FirstLineBreaks code := by
  rcases hd with rfl | rfl
  · refine ⟨fun _ _ _ _ hpython => absurd hpython (by decide), fun _ => ?_⟩
    cases shape <;> exact ⟨_, rfl⟩
  · have hroutine : (∃ text, shape.routine python t.plan path = .ok text) ↔
        ∀ code offset, .statements code offset ∈ t.plan.operations →
          ∃ lines, Routine.Python.statementLines python code = .ok lines := by
      cases shape <;> exact Routine.Python.exists_module_iff
    rw [hroutine]
    constructor
    · intro hlines code offset hop _
      obtain ⟨ms, hms⟩ := marks_of_compile h hop
      exact (Routine.Python.exists_statementLines_iff_not_firstLineBreaks hms).mp
        (hlines code offset hop)
    · intro hbreaks code offset hop
      obtain ⟨ms, hms⟩ := marks_of_compile h hop
      exact (Routine.Python.exists_statementLines_iff_not_firstLineBreaks hms).mpr
        (hbreaks code offset hop rfl)

/-- A template with a string over two lines is compiled, but no routine in Python is generated for
it. -/
theorem routine_fails_in_string :
    ∃ t, Template.compile python ⟨"t.tmpl", "\x7bx = \"\"\"a\nb\"\"\"; y\x7d"⟩ = .ok t ∧
      ¬ ∃ text, (Shape.inline none).routine python t.plan none = .ok text := by
  have hplan : (Template.compile python ⟨"t.tmpl", "\x7bx = \"\"\"a\nb\"\"\"; y\x7d"⟩).toOption.map
      Template.plan = some ⟨"t.tmpl", [.statements "x = \"\"\"a\nb\"\"\";" 1,
        .formatted ['y'] none 16]⟩ := by decide +kernel
  obtain ⟨t, htemplate, hplan⟩ := Option.map_eq_some_iff.mp hplan
  have hcompile := Outcome.ok_of_toOption htemplate
  have hbreaks : FirstLineBreaks ("x = \"\"\"a\nb\"\"\";" : String) := by
    have hms : ((marks python ("x = \"\"\"a\nb\"\"\";" : String)).toOption.bind (·[8]?)) =
        some (.inside .string) := by decide +kernel
    obtain ⟨ms, hmarks, hinside⟩ := Option.bind_eq_some_iff.mp hms
    have hcode : ("x = \"\"\"a\nb\"\"\";" : String).toList =
        ['x', ' ', '=', ' ', '"', '"', '"', 'a'] ++ '\n' :: ['b', '"', '"', '"', ';'] := by
      decide +kernel
    exact .string hcode (by decide) (by decide) (Outcome.ok_of_toOption hmarks) hinside
  refine ⟨t, hcompile, fun hroutine => ?_⟩
  have hnot := (routine_ok_iff (.inr rfl) hcompile none (.inline none)).mp hroutine
  refine hnot _ 1 ?_ rfl hbreaks
  rw [hplan]
  exact List.mem_cons_self

end Stencil
