import Stencil.Template
import Stencil.Proofs.Outcome

/-! # What is known of a compiled template

  The statements of a compiled template have been lexed once more, each block on its own, to find
  the names in them. So they are lexed without a fault wherever they are used again.
-/

namespace Stencil

theorem source_of_compile {d : Dialect} {s : Source} {t : Template}
    (h : Template.compile d s = .ok t) : t.source = s := by
  obtain ⟨_, _, h⟩ := Outcome.bind_ok_iff.mp h
  obtain ⟨_, _, h⟩ := Outcome.bind_ok_iff.mp h
  obtain rfl := Except.ok.inj h
  rfl

theorem path_of_compile {d : Dialect} {s : Source} {t : Template}
    (h : Template.compile d s = .ok t) : t.plan.path = s.path := by
  obtain ⟨_, _, h⟩ := Outcome.bind_ok_iff.mp h
  obtain ⟨_, _, h⟩ := Outcome.bind_ok_iff.mp h
  obtain rfl := Except.ok.inj h
  rfl

/-- Statements in which names were found have been lexed. -/
theorem marks_of_ofBlock {d : Dialect} {s : Segment} {b : Block} {uses : List Use}
    (h : Use.ofBlock d s b = .ok uses) (hne : b.statements ≠ []) :
    ∃ ms, marks d b.statements = .ok ms := by
  unfold Use.ofBlock at h
  rw [if_neg (by rwa [List.isEmpty_iff])] at h
  obtain ⟨_, hspans, _⟩ := Outcome.bind_ok_iff.mp h
  obtain ⟨_, hmask, _⟩ := Outcome.bind_ok_iff.mp hspans
  obtain ⟨ms, hms, _⟩ := Outcome.map_ok_iff.mp hmask
  exact ⟨ms, hms⟩

/-- The operations of a code block are its statements, unless they are blank, and its expression. -/
theorem Operation.mem_ofBlock {s : Segment} {b : Block} {spec : Option FormatSpec} {op : Operation}
    (h : op ∈ ofBlock s b spec) :
    (¬ b.statements.all isBlank = true ∧ op = .statements b.statements s.bodyStart) ∨
      ∃ tail ∈ b.tail, op = .formatted tail.expr spec tail.exprOffset := by
  rcases List.mem_append.mp h with h | h
  · left
    split at h
    · exact absurd h List.not_mem_nil
    · next hblank => exact ⟨hblank, List.mem_singleton.mp h⟩
  · right
    cases htail : b.tail with
    | none =>
      rw [htail] at h
      exact absurd h List.not_mem_nil
    | some tail =>
      rw [htail] at h
      exact ⟨tail, rfl, List.mem_singleton.mp h⟩

/-- The operations of a plan are literal texts and those of its code blocks. -/
theorem Plan.mem_ofParts {path : Text} {parts : List Plan.Part} {op : Operation}
    (h : op ∈ (ofParts path parts).operations) :
    (∃ text offset, op = .literal text offset) ∨
      ∃ s b spec, .code s b spec ∈ parts ∧ op ∈ Operation.ofBlock s b spec := by
  obtain ⟨part, hpart, hop⟩ := List.mem_flatMap.mp h
  cases part with
  | literal s => exact .inl ⟨_, _, List.mem_singleton.mp hop⟩
  | code s b spec => exact .inr ⟨s, b, spec, hpart, hop⟩

/-- The statements of a plan are those of one of its blocks, and are not blank. -/
theorem block_of_statements {path : Text} {parts : List Plan.Part} {code : Text} {offset : Int}
    (h : .statements code offset ∈ (Plan.ofParts path parts).operations) :
    ∃ s b spec, .code s b spec ∈ parts ∧ code = b.statements ∧ ¬ b.statements.all isBlank := by
  rcases Plan.mem_ofParts h with ⟨_, _, hop⟩ | ⟨s, b, spec, hpart, hop⟩
  · cases hop
  · rcases Operation.mem_ofBlock hop with ⟨hblank, hop⟩ | ⟨_, _, hop⟩
    · cases hop
      exact ⟨s, b, spec, hpart, rfl, hblank⟩
    · cases hop

/-- The statements of a compiled template are lexed without a fault. -/
theorem marks_of_compile {d : Dialect} {source : Source} {t : Template}
    (h : Template.compile d source = .ok t) {code : Text} {offset : Int}
    (hop : .statements code offset ∈ t.plan.operations) : ∃ ms, marks d code = .ok ms := by
  obtain ⟨⟨found, parts⟩, _, h⟩ := Outcome.bind_ok_iff.mp h
  obtain ⟨free, hfree, h⟩ := Outcome.bind_ok_iff.mp h
  obtain rfl := Except.ok.inj h
  obtain ⟨s, b, spec, hpart, rfl, hblank⟩ := block_of_statements hop
  -- The names of every part were found, so those of this one were.
  obtain ⟨uses, huses, _⟩ := Outcome.bind_ok_iff.mp (Outcome.mapError_ok_iff.mp hfree)
  obtain ⟨here, hhere⟩ := Outcome.exists_mapM_ok_iff.mp ⟨uses, huses⟩ _ hpart
  apply marks_of_ofBlock hhere
  intro hnil
  rw [hnil] at hblank
  exact hblank rfl

end Stencil
