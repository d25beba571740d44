import Stencil.Generation
import Stencil.Proofs.Template
import Stencil.Proofs.Text.Layout
import Stencil.Proofs.Token.Gap

/-! # Strings of statements in a Python routine

  A routine in Python lays out statements anew. The first line is trimmed, the others are moved to
  their common margin and cut at every line end, each line loses the blanks at its end, and all of
  them are put at the margin of the function.

  Each of these steps only changes blanks at a line end. So the strings stay what they are if no
  string and no comment has a line end in it (`strings_kept`). A string over two lines is changed
  like the code around it (`strings_altered`).
-/

namespace Stencil

open Dialect (python)

namespace Routine

variable {margin t t' u w : Text}

/-! ### Lines at a margin -/

def atMargin (margin line : Text) : Text := if line.isEmpty then line else margin ++ line

/-- A line at a margin has only blanks in front of it. -/
theorem atMargin_spec (hm : margin.all isBlank = true) (line : Text) :
    ∃ b, b.all isBlank = true ∧ atMargin margin line = b ++ line := by
  unfold atMargin
  split
  · exact ⟨[], rfl, rfl⟩
  · exact ⟨margin, hm, rfl⟩

/-- A line that is moved twice is at both margins. -/
theorem atMargin_atMargin (margin margin' line : Text) :
    atMargin margin (atMargin margin' line) = atMargin (margin ++ margin') line := by
  unfold atMargin
  by_cases hline : line.isEmpty = true
  · simp [hline]
  · have hne : line ≠ [] := by rwa [ne_eq, ← List.isEmpty_iff]
    simp [hne]

theorem unlines_cons (line : Text) (lines : List Text) :
    unlines (line :: lines) = line ++ '\n' :: unlines lines := by
  simp [unlines]

theorem unlines_append (lines lines' : List Text) :
    unlines (lines ++ lines') = unlines lines ++ unlines lines' := List.flatMap_append

theorem unlines_flatten (parts : List (List Text)) :
    unlines parts.flatten = (parts.map unlines).flatten := by
  induction parts with
  | nil => rfl
  | cons lines parts ih =>
    rw [List.flatten_cons, unlines_append, ih]
    rfl

theorem all_blank_indentUnit : indentUnit.all isBlank = true := by decide

/-! ### Steps of the layout -/

/-- A line is trimmed and put at a margin, and a gap behind it is laid out anew. -/
theorem relaid_atMargin (hm : margin.all isBlank = true) (hu : u.all isBlank = true)
    (hw : w.all isBlank = true) (h : Gap t t') (r : Text) :
    Relaid ('\n' :: (u ++ (r ++ (w ++ t)))) ('\n' :: (atMargin margin r ++ t')) := by
  obtain ⟨b, hb, hat⟩ := atMargin_spec hm r
  rw [hat, List.append_assoc]
  exact Relaid.line hu hb (h.blanks_append hw) r

/-- A text is cut into lines, which lose the blanks at their ends and are put at a margin. The
induction is along the search for line ends, with the line that has begun in `current`. -/
theorem relaid_linesFrom (hm : margin.all isBlank = true) (current t : Text) :
    Relaid ('\n' :: (current.reverse ++ t)) ('\n' :: unlines
      ((Text.linesFrom current t).map fun line => atMargin margin line.trimRight)) := by
  -- A line that is over, with the lines after it.
  have line {current t u : Text} {lines : List Text} (hgap : Gap t ('\n' :: u))
      (hlines : Relaid ('\n' :: u) ('\n' :: unlines lines)) :
      Relaid ('\n' :: (current.reverse ++ t)) ('\n' :: unlines
        (atMargin margin (Text.trimRight current.reverse) :: lines)) := by
    obtain ⟨w, hline, hw, _⟩ := Text.trimRight_spec current.reverse
    have hfirst := relaid_atMargin hm (u := []) rfl hw hgap (Text.trimRight current.reverse)
    rw [List.nil_append, ← List.append_assoc, ← hline] at hfirst
    have hrest := hlines.prepend ('\n' :: atMargin margin (Text.trimRight current.reverse))
    rw [unlines_cons]
    exact hfirst.trans hrest
  induction current, t using Text.linesFrom.induct with
  | case1 current hempty =>
    rw [Text.linesFrom, if_pos hempty, List.isEmpty_iff.mp hempty]
    exact Relaid.refl _
  | case2 current hempty =>
    have hend : Gap [] ['\n'] := (Gap.stop (w := []) rfl).1
    have hnone : Relaid ['\n'] ('\n' :: unlines []) := Relaid.refl ['\n']
    rw [Text.linesFrom, if_neg hempty]
    exact line hend hnone
  | case3 current t ih =>
    exact line ((Gap.feed t).blanks_append (w := ['\r']) (by decide)) ih
  | case4 current c t hnot hend ih =>
    rw [Text.linesFrom.eq_3 current c t hnot, if_pos hend]
    exact line (Gap.lineEnd hend t) ih
  | case5 current c t hnot hend ih =>
    rw [Text.linesFrom.eq_3 current c t hnot, if_neg hend]
    rw [List.reverse_cons, List.append_assoc] at ih
    exact ih

theorem relaid_lines (hm : margin.all isBlank = true) (t : Text) :
    Relaid ('\n' :: t) ('\n' :: unlines
      (t.lines.map fun line => atMargin margin line.trimRight)) := relaid_linesFrom hm [] t

/-- Lines lose blanks in front. -/
theorem relaid_join {f : Text → Text} {lines : List Text}
    (h : ∀ line ∈ lines, ∃ b, b.all isBlank = true ∧ line = b ++ f line) :
    Relaid ('\n' :: Text.join ['\n'] lines) ('\n' :: Text.join ['\n'] (lines.map f)) := by
  induction lines with
  | nil => exact Relaid.refl _
  | cons line lines ih =>
    rw [List.forall_mem_cons] at h
    obtain ⟨⟨b, hb, hline⟩, hrest⟩ := h
    cases lines with
    | nil =>
      have hmove := Relaid.of_gap (Gap.margin hb (w := []) rfl (f line))
      rw [← hline] at hmove
      exact hmove
    | cons next lines =>
      have hmove := Relaid.of_gap (Gap.margin hb (w := []) rfl
        (f line ++ '\n' :: Text.join ['\n'] (next :: lines)))
      rw [← List.append_assoc, ← hline, List.nil_append] at hmove
      rw [List.map_cons, List.map_cons, Text.join_cons_cons, Text.join_cons_cons, ← List.map_cons,
        List.append_assoc, List.append_assoc]
      exact hmove.trans ((ih hrest).prepend ('\n' :: f line))

theorem relaid_dedent (t : Text) : Relaid ('\n' :: t) ('\n' :: Text.dedent t) := by
  obtain ⟨f, hdedent, hlines⟩ := Text.dedent_spec t
  have hjoin := relaid_join hlines
  rwa [Text.join_splitAt, ← hdedent] at hjoin

theorem relaid_stripNewlines (t : Text) : Relaid ('\n' :: t) ('\n' :: Text.stripNewlines t) := by
  obtain ⟨u, w, ht, hu, hw⟩ := Text.stripNewlines_spec t
  have hline := Relaid.line (w := []) hu rfl (Gap.stop hw).2 t.stripNewlines
  rw [← ht, List.append_nil] at hline
  exact hline

end Routine

/-! ### Statements -/

namespace Routine.Python

/-- The lines after the first one, at their margin. -/
def bodyOf (code : Text) : Text := ((code.cut '\n').2.getD []).dedent.stripNewlines

/-- The three forms of statements that are laid out: one line of code or none, lines after a blank
one, and lines after a line of code, which may own them. -/
theorem statementLines_cases {d : Dialect} {code : Text} {lines : List Text}
    (h : statementLines d code = .ok lines) :
    ((bodyOf code).all isBlank = true ∧
      lines = if (code.cut '\n').1.trim.isEmpty then [] else [(code.cut '\n').1.trim]) ∨
    (bodyOf code).all isBlank = false ∧
      ((code.cut '\n').1.trim = [] ∧ lines = (bodyOf code).lines.map Text.trimRight ∨
        ∃ indent : Text, indent.all isBlank = true ∧
          lines = (code.cut '\n').1.trim ::
            (bodyOf code).lines.map fun line => atMargin indent line.trimRight) := by
  unfold statementLines at h
  dsimp only at h
  split at h
  · next hblank => exact .inl ⟨hblank, (Except.ok.inj h).symm⟩
  · next hblank =>
    rw [Bool.not_eq_true] at hblank
    refine .inr ⟨hblank, ?_⟩
    split at h
    · next hempty => exact .inl ⟨List.isEmpty_iff.mp hempty, (Except.ok.inj h).symm⟩
    · next hempty =>
      obtain ⟨suite, _, h⟩ := Outcome.bind_ok_iff.mp h
      obtain rfl := Except.ok.inj h
      refine .inr ⟨if suite then indentUnit else [], ?_, ?_⟩
      · cases suite <;> decide
      · rw [List.map_map]
        rfl

/-- Statements on a line of their own are laid out anew. -/
theorem relaid_body {margin : Text} (hm : margin.all isBlank = true) (rest : Text) :
    Relaid ('\n' :: rest) ('\n' :: unlines
      (rest.dedent.stripNewlines.lines.map fun line => atMargin margin line.trimRight)) :=
  ((relaid_dedent rest).trans (relaid_stripNewlines _)).trans (relaid_lines hm _)

/-- Statements are laid out anew at the margin of the function. -/
theorem relaid_statementLines {d : Dialect} {code : Text} {lines : List Text}
    (h : statementLines d code = .ok lines) :
    Relaid ('\n' :: code) ('\n' :: unlines (lines.map (atMargin indentUnit))) := by
  have hunit := all_blank_indentUnit
  obtain ⟨u, w, hfirst, hu, hw, _⟩ := Text.trim_spec (code.cut '\n').1
  have hcode := Text.cut_fst_append '\n' code
  have hcases := statementLines_cases h
  generalize (code.cut '\n').1.trim = head at hfirst hcases
  rw [hfirst, List.append_assoc, List.append_assoc] at hcode
  have hbody : (bodyOf code).all isBlank = ((code.cut '\n').2.getD []).all isBlank :=
    Text.all_blank_dedent_stripNewlines _
  rcases hcases with ⟨hblank, rfl⟩ | ⟨hblank, hcases⟩
  · -- Behind the line there are blanks alone.
    rw [hbody] at hblank
    have htail : ((code.cut '\n').2.elim [] ('\n' :: ·)).all isBlank = true := by
      cases hcut : (code.cut '\n').2 with
      | none => rfl
      | some rest =>
        rw [hcut] at hblank
        exact hblank
    rw [← hcode]
    by_cases hempty : head = []
    · subst hempty
      exact relaid_atMargin hunit hu hw (Gap.stop htail).2 []
    · have hline := relaid_atMargin hunit hu hw (Gap.stop htail).1 head
      rw [if_neg (by rwa [List.isEmpty_iff]), List.map_singleton, unlines_cons]
      exact hline
  · obtain ⟨rest, hcut⟩ : ∃ rest, (code.cut '\n').2 = some rest := by
      cases hcut : (code.cut '\n').2 with
      | none =>
        rw [hbody, hcut] at hblank
        exact absurd hblank (by decide)
      | some rest => exact ⟨rest, rfl⟩
    rw [bodyOf, hcut, Option.getD_some] at hcases
    rw [hcut] at hcode
    have hcode : u ++ (head ++ (w ++ '\n' :: rest)) = code := hcode
    rw [← hcode]
    rcases hcases with ⟨rfl, rfl⟩ | ⟨indent, hindent, rfl⟩
    · -- A blank first line is all blanks in front of the next one.
      have hall : (u ++ (w ++ ['\n'])).all isBlank = true := by
        rw [List.all_append, List.all_append, hu, hw]
        rfl
      have hfirst := Relaid.of_gap (Gap.margin hall (w := []) rfl rest)
      rw [List.append_assoc, List.append_assoc, List.nil_append] at hfirst
      rw [List.map_map]
      exact hfirst.trans (relaid_body hunit rest)
    · have hline := relaid_atMargin hunit hu hw (Gap.feed rest) head
      have hmargin : (indentUnit ++ indent).all isBlank = true := by
        rw [List.all_append, hunit, hindent]
        rfl
      have hmove : (atMargin indentUnit ∘ fun line => atMargin indent (Text.trimRight line)) =
          fun line => atMargin (indentUnit ++ indent) (Text.trimRight line) :=
        funext fun line => atMargin_atMargin indentUnit indent (Text.trimRight line)
      rw [List.map_cons, unlines_cons, List.map_map, hmove]
      exact hline.trans ((relaid_body hmargin rest).prepend ('\n' :: atMargin indentUnit head))

/-- The text that a module holds for an operation. -/
def operationText (d : Dialect) (op : Operation) : Except Failure Text :=
  (operationLines d op).map fun lines => unlines (lines.map (atMargin indentUnit))

/-- The strings of statements are those of their lines, if no token has a line end in it. -/
theorem strings_operationText {code : Text} {offset : Int} {ms : List Mark} {part : Text}
    (hms : marks python code = .ok ms) (hends : LineEndsOutside code ms)
    (hpart : operationText python (.statements code offset) = .ok part) :
    strings python part = strings python code := by
  obtain ⟨lines, hlines, rfl⟩ := Outcome.map_ok_iff.mp hpart
  have hcode := (marks_ok_iff.mp hms).linewise hends
  rw [((relaid_statementLines hlines).linewise hcode).strings_eq, hcode.strings_eq]

/-- A module is a beginning, and the texts of the operations in their order. -/
theorem module_parts {d : Dialect} {p : Plan} {signature text : Text} {prologue : List Text}
    (h : module d p signature prologue = .ok text) :
    ∃ front parts, text = front ++ parts.flatten ∧
      p.operations.mapM (operationText d) = .ok parts := by
  obtain ⟨operations, hops, h⟩ := Outcome.bind_ok_iff.mp h
  obtain rfl := Except.ok.inj h
  have hsplit (front lead : List Text) :
      unlines (front ++ (lead ++ operations.flatten).map (atMargin indentUnit)) =
        unlines (front ++ lead.map (atMargin indentUnit)) ++
          (operations.map fun lines => unlines (lines.map (atMargin indentUnit))).flatten := by
    rw [List.map_append, ← List.append_assoc, unlines_append, List.map_flatten, unlines_flatten,
      List.map_map]
    rfl
  exact ⟨_, _, hsplit _ (_ :: prologue), Outcome.mapM_map hops⟩

end Routine.Python

open Routine.Python (operationText)

/-- A routine in Python keeps the strings of statements in which no token has a line end in it. For
every compiled template, place and record, the module holds the texts of the operations one after
the other, and such a text has the strings of the code, in order and character for character. -/
theorem strings_kept {source : Source} {t : Template}
    (h : Template.compile python source = .ok t) {path : Option Text} {shape : Shape} {text : Text}
    (hroutine : shape.routine python t.plan path = .ok text) :
    ∃ front parts, text = front ++ parts.flatten ∧
      t.plan.operations.mapM (operationText python) = .ok parts ∧
      ∀ code offset, .statements code offset ∈ t.plan.operations →
        ∃ ms part, marks python code = .ok ms ∧
          operationText python (.statements code offset) = .ok part ∧
          (LineEndsOutside code ms → strings python part = strings python code) := by
  obtain ⟨front, parts, htext, hparts⟩ : ∃ front parts, text = front ++ parts.flatten ∧
      t.plan.operations.mapM (operationText python) = .ok parts := by
    cases shape <;> exact Routine.Python.module_parts hroutine
  refine ⟨front, parts, htext, hparts, fun code offset hop => ?_⟩
  obtain ⟨ms, hms⟩ := marks_of_compile h hop
  obtain ⟨part, hpart⟩ := Outcome.exists_mapM_ok_iff.mp ⟨parts, hparts⟩ _ hop
  exact ⟨ms, part, hms, hpart, fun hends =>
    Routine.Python.strings_operationText hms hends hpart⟩

/-- The strings of two lines are kept, although the lines are moved and lose blanks. -/
theorem strings_kept_in_lines :
    ∃ t text part, Template.compile python
        ⟨"t.tmpl", "\x7b\n  x = 'a  b' # c \n   y = \"d\";\x7d"⟩ = .ok t ∧
      (Shape.inline none).routine python t.plan none = .ok text ∧
      operationText python (.statements "\n  x = 'a  b' # c \n   y = \"d\";" 1) = .ok part ∧
      strings python part = strings python ("\n  x = 'a  b' # c \n   y = \"d\";" : String) := by
  have hplan : (Template.compile python
      ⟨"t.tmpl", "\x7b\n  x = 'a  b' # c \n   y = \"d\";\x7d"⟩).toOption.map Template.plan =
        some ⟨"t.tmpl", [.statements "\n  x = 'a  b' # c \n   y = \"d\";" 1]⟩ := by
    decide +kernel
  obtain ⟨t, htemplate, hplan⟩ := Option.map_eq_some_iff.mp hplan
  have hcompile := Outcome.ok_of_toOption htemplate
  have hroutine : ((Shape.inline none).routine python t.plan none).toOption.isSome = true := by
    rw [hplan]
    decide +kernel
  obtain ⟨text, htext⟩ := Option.isSome_iff_exists.mp hroutine
  have htext := Outcome.ok_of_toOption htext
  obtain ⟨_, _, _, _, hall⟩ := strings_kept hcompile htext
  obtain ⟨ms, part, hms, hpart, hkept⟩ := hall _ 1 (by rw [hplan]; exact List.mem_cons_self)
  -- No line ends in a string or a comment.
  have hends : ((marks python ("\n  x = 'a  b' # c \n   y = \"d\";" : String)).toOption.all
      fun ms => LineEndsOutside ("\n  x = 'a  b' # c \n   y = \"d\";" : String) ms) = true := by
    decide +kernel
  rw [hms] at hends
  exact ⟨t, text, part, hcompile, htext, hpart, hkept (of_decide_eq_true hends)⟩

/-- A string over two lines is not kept: its second line is moved with the code. -/
theorem strings_altered :
    ∃ t text part, Template.compile python
        ⟨"t.tmpl", "\x7b\nx = \"\"\"a\n  b\"\"\";\x7d"⟩ = .ok t ∧
      (Shape.inline none).routine python t.plan none = .ok text ∧
      .statements "\nx = \"\"\"a\n  b\"\"\";" 1 ∈ t.plan.operations ∧
      operationText python (.statements "\nx = \"\"\"a\n  b\"\"\";" 1) = .ok part ∧
      strings python ("\nx = \"\"\"a\n  b\"\"\";" : String) = .ok ["\"\"\"a\n  b\"\"\""] ∧
      strings python part = .ok ["\"\"\"a\n      b\"\"\""] := by
  have hplan : (Template.compile python
      ⟨"t.tmpl", "\x7b\nx = \"\"\"a\n  b\"\"\";\x7d"⟩).toOption.map Template.plan =
        some ⟨"t.tmpl", [.statements "\nx = \"\"\"a\n  b\"\"\";" 1]⟩ := by
    decide +kernel
  obtain ⟨t, htemplate, hplan⟩ := Option.map_eq_some_iff.mp hplan
  have hroutine : ((Shape.inline none).routine python t.plan none).toOption.isSome = true := by
    rw [hplan]
    decide +kernel
  obtain ⟨text, htext⟩ := Option.isSome_iff_exists.mp hroutine
  have hpart : (operationText python (.statements "\nx = \"\"\"a\n  b\"\"\";" 1)).toOption =
      some "    x = \"\"\"a\n      b\"\"\";\n" := by decide +kernel
  refine ⟨t, text, _, Outcome.ok_of_toOption htemplate, Outcome.ok_of_toOption htext, ?_,
    Outcome.ok_of_toOption hpart, Outcome.ok_of_toOption ?_, Outcome.ok_of_toOption ?_⟩
  · rw [hplan]
    exact List.mem_cons_self
  · decide +kernel
  · decide +kernel

end Stencil
