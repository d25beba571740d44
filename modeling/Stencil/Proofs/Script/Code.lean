import Stencil.Proofs.Script.Module
import Stencil.Proofs.Script.Run

/-! # The code of a routine

  What the statements for the operations of a plan are compiled to: each literal text is a constant
  again, and only the expression of a template may be refused.
-/

namespace Stencil.Script

variable {V F T : Type} [Host V F T] {file : Text} {line : Nat}

/-! ### Names -/

/-- The names that a routine has for itself and for its helpers. -/
def ownNames : List Text :=
  ["sink", "_braceweave_inline", "_bw_guard_sink", "_bw_write_literal", "_bw_write_formatted"]

/-- The names of a routine are plain identifiers and no keywords. -/
theorem plain_of_own {word : Text} (h : word ∈ ownNames) :
    Dialect.pythonKeywords.contains word = false ∧ word.isIdentifier = true ∧
      word.all (·.toNat < 0x80) = true := by
  have hplain : ∀ word ∈ ownNames, Dialect.pythonKeywords.contains word = false ∧
      word.isIdentifier = true ∧ word.all (·.toNat < 0x80) = true := by
    decide +kernel
  exact hplain word h

/-- The names of a routine are in normal form. -/
theorem nameOf_own {word : Text} (h : word ∈ ownNames) : nameOf V file line word = .ok word := by
  obtain ⟨hkeyword, hidentifier, hascii⟩ := plain_of_own h
  rw [nameOf, hkeyword, hidentifier, Bool.not_true, Bool.or_false, if_neg Bool.false_ne_true,
    if_pos hascii]

theorem calledName_own {word : Text} (h : word ∈ ownNames) :
    calledName V file line word = .ok word := by
  rw [calledName, (plain_of_own h).1, if_neg Bool.false_ne_true, nameOf_own h]

theorem operand_sink :
    operand V file line ⟨.word "sink", false⟩ = .ok (.name "sink") := by
  have hname : nameOf V file line "sink" = .ok "sink" := nameOf_own (by decide)
  simp only [operand, hname]
  rfl

theorem operand_quoted (t : Text) :
    operand V file line ⟨.text t.quoted, false⟩ = .ok (.constant (.text t)) := by
  have hvalid : (codesOf t).all (fun n => decide n.isValidChar) = true := by
    rw [codesOf, List.all_map, List.all_eq_true]
    exact fun c _ => decide_eq_true c.valid
  have hchars : (codesOf t).map Char.ofNat = t := by
    rw [codesOf, List.map_map]
    exact List.map_id'' (fun c => Char.ofNat_toNat c) t
  simp only [operand, codesOfLiteral_quoted, hvalid, if_true, hchars]

/-! ### Statements -/

def guardStep : Statement Operand := .assign "sink" none (.call "_bw_guard_sink" [.name "sink"])

def literalStep (t : Text) : Statement Operand :=
  .call "_bw_write_literal" [.name "sink", .constant (.text t)]

def formattedStep (a : Operand) (format mode : Text) : Statement Operand :=
  .call "_bw_write_formatted" [.name "sink", a, .constant (.text format), .constant (.text mode)]

theorem statement_guard : statement V file (line, guardStatement) = .ok guardStep := by
  have htarget : targetName V file line "sink" = .ok "sink" := by
    rw [targetName, nameOf_own (by decide), Outcome.ok_bind]
    rfl
  have hcalled : calledName V file line "_bw_guard_sink" = .ok "_bw_guard_sink" :=
    calledName_own (by decide)
  simp only [statement, guardStatement, expression, htarget, hcalled, List.mapM_cons, List.mapM_nil,
    operand_sink, Outcome.ok_bind]
  rfl

theorem statement_literal (t : Text) :
    statement V file (line, literalStatement t) = .ok (literalStep t) := by
  have hcalled : calledName V file line "_bw_write_literal" = .ok "_bw_write_literal" :=
    calledName_own (by decide)
  simp only [statement, literalStatement, hcalled, List.mapM_cons, List.mapM_nil, operand_sink,
    operand_quoted, Outcome.ok_bind]
  rfl

theorem statement_formatted (expr format mode : Text) :
    statement V file (line, formattedStatement expr format mode) =
      (operand V file line ⟨atomOf expr, true⟩).map (formattedStep · format mode) := by
  have hcalled : calledName V file line "_bw_write_formatted" = .ok "_bw_write_formatted" :=
    calledName_own (by decide)
  simp only [statement, formattedStatement, hcalled, List.mapM_cons, List.mapM_nil, operand_sink,
    operand_quoted, Outcome.ok_bind]
  cases operand V file line ⟨atomOf expr, true⟩ <;> rfl

/-- The helpers of a routine under the names that it gives them. -/
def ownHelpers : List (Text × Helper) :=
  [("_bw_guard_sink".toList, .guardSink), ("_bw_write_formatted".toList, .writeFormatted),
    ("_bw_write_literal".toList, .writeLiteral)]

/-- The code of a routine: it imports the helpers, guards the sink and goes on with steps for the
operations. -/
structure IsRoutine (V : Type) [Host V F T] (file : Text) (ops : List Operation) (c : Code) : Prop where
  imports : c.imports = ownHelpers
  routine : c.routine = "_braceweave_inline"
  parameters : c.parameters = ["sink".toList]
  body : ∃ steps, c.body = guardStep :: steps ∧
    List.Forall₂ (fun s step => ∃ line, statement V file (line, s) = .ok step)
      (ops.flatMap statementsOf) steps

theorem isRoutine_of_compile {m : Module} {c : Code} {ops : List Operation} (hfollows : m.Follows ops)
    (h : m.compile V file = .ok c) : IsRoutine V file ops c := by
  -- Each part of the code comes of one step of the compilation, in this order.
  obtain ⟨imports, himports', h⟩ := Outcome.bind_ok_iff.mp h
  obtain ⟨routine, hroutine', h⟩ := Outcome.bind_ok_iff.mp h
  obtain ⟨parameters, hparameters', h⟩ := Outcome.bind_ok_iff.mp h
  obtain ⟨body, hbody', h⟩ := Outcome.bind_ok_iff.mp h
  obtain rfl := Except.ok.inj h
  have hsteps := Outcome.forall₂_of_mapM hbody'
  refine ⟨?_, ?_, ?_, ?_⟩
  · have hown : helperImports.mapM (imported V file) = .ok ownHelpers := by
      have hname : ∀ word ∈ ownNames, ∀ line, nameOf V file line word = .ok word :=
        fun word hword line => nameOf_own hword
      simp only [helperImports, List.mapM_cons, List.mapM_nil, imported]
      rw [hname _ (by decide), hname _ (by decide), hname _ (by decide)]
      rfl
    rw [hfollows.imports, hown] at himports'
    exact (Except.ok.inj himports').symm
  · rw [hfollows.routine, nameOf_own (by decide)] at hroutine'
    exact (Except.ok.inj hroutine').symm
  · rw [hfollows.parameters, List.mapM_cons, nameOf_own (by decide), Outcome.ok_bind] at hparameters'
    exact (Except.ok.inj hparameters').symm
  · obtain ⟨⟨line, first⟩, rest, hcons, hfirst, hrest⟩ := List.map_eq_cons_iff.mp hfollows.body
    obtain rfl : first = guardStatement := hfirst
    rw [hcons] at hsteps
    cases hsteps with
    | @cons _ step _ steps hstep hsteps =>
      rw [statement_guard] at hstep
      refine ⟨steps, ?_, ?_⟩
      · rw [← Except.ok.inj hstep]
      · rw [← hrest, List.forall₂_map_left_iff]
        exact hsteps.imp fun s step hs => ⟨s.1, hs⟩

end Stencil.Script
