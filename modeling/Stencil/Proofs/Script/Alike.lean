import Stencil.Proofs.Script.Code

/-! # Runs that differ in their own objects

  A run of a routine makes two objects for itself, its sink behind a guard and its function. They are
  seen only by a template that asks for them by name: otherwise the frames of two runs are alike
  (`Alike`), and a run writes the same texts as any other (`texts_eq`).
-/

namespace Stencil.Script

variable {V F T : Type} {f g : Frame V F}

/-- The names of the objects that a run makes for itself. -/
def runNames : List Text := ["sink", "_braceweave_inline"]

/-- Two frames of a routine that differ at most in the objects of their runs. -/
structure Alike (f g : Frame V F) : Prop where
  locals : f.locals = g.locals
  own : ∀ name, f.locals.contains name = decide (name = "sink".toList)
  sink : ∃ o o' i i', f.assigned.object? "sink" = some (.sink o i) ∧
    g.assigned.object? "sink" = some (.sink o' i')
  globals : ∀ name, name ≠ "_braceweave_inline".toList →
    f.globals.object? name = g.globals.object? name
  builtins : f.builtins = g.builtins

namespace Alike

theorem object (h : Alike f g) {name : Text} (hname : name ∉ runNames) :
    f.object name = g.object name := by
  simp only [runNames, List.mem_cons, List.not_mem_nil, or_false, not_or] at hname
  have hown : g.locals.contains name = false := by
    rw [← h.locals, h.own, decide_eq_false hname.1]
  rw [Frame.object, Frame.object, h.locals, hown, h.globals name hname.2, h.builtins]
  rfl

theorem object_sink (h : Alike f g) :
    ∃ o o' i i', f.object "sink" = .ok (.sink o i) ∧ g.object "sink" = .ok (.sink o' i') := by
  obtain ⟨o, o', i, i', hf, hg⟩ := h.sink
  have hown : f.locals.contains "sink".toList = true := by
    rw [h.own, decide_eq_true rfl]
  refine ⟨o, o', i, i', ?_, ?_⟩
  · rw [Frame.object, hown, if_pos rfl, hf]
  · rw [Frame.object, ← h.locals, hown, if_pos rfl, hg]

/-- An operand that is none of the objects of the run. -/
theorem operand (h : Alike f g) {a : Operand} (ha : ∀ name ∈ runNames, a ≠ .name name) :
    f.operand a = g.operand a := by
  cases a with
  | constant v => rfl
  | surrogates codes => rfl
  | name t => exact h.object fun hmem => ha t hmem rfl
  | pause => rfl

theorem operands (h : Alike f g) {arguments : List Operand}
    (hall : ∀ a ∈ arguments, ∀ name ∈ runNames, a ≠ .name name) :
    arguments.mapM f.operand = arguments.mapM g.operand := by
  induction arguments with
  | nil => rfl
  | cons a arguments ih =>
    rw [List.forall_mem_cons] at hall
    rw [List.mapM_cons, List.mapM_cons, h.operand hall.1, ih hall.2]

end Alike

variable [Host V F T]

/-- A step that writes something other than the objects of the run. -/
def IsShared (step : Statement Operand) : Prop :=
  ∃ function arguments, step = .call function (.name "sink" :: arguments) ∧
    function ∉ runNames ∧ ∀ a ∈ arguments, ∀ name ∈ runNames, a ≠ .name name

theorem effect_call {function : Text} {arguments : List Operand} {o : Outlet} {i : Nat}
    (h : f.object "sink" = .ok (.sink o i)) :
    f.effect (.call function (.name "sink" :: arguments)) =
      (do
        let function ← f.object function
        message function (← arguments.mapM f.operand)).map (.write o ·) := by
  rw [Frame.effect, List.mapM_cons]
  have hsink : f.operand (.name "sink") = .ok (.sink o i) := h
  rw [hsink, Outcome.ok_bind]
  cases f.object function with
  | error fault => rfl
  | ok function =>
    rw [Outcome.ok_bind, Outcome.ok_bind]
    cases arguments.mapM f.operand with
    | error fault => rfl
    | ok objects =>
      rw [Outcome.ok_bind, Outcome.ok_bind]
      show (written function (.sink o i :: objects) >>= _) = _
      rw [written]
      cases message function objects <;> rfl

namespace Alike

/-- The texts of a run do not depend on its objects, unless they are asked for. -/
theorem texts (h : Alike f g) {steps : List (Statement Operand)}
    (hsteps : ∀ step ∈ steps, IsShared step) : f.texts steps = g.texts steps := by
  obtain ⟨o, o', i, i', hf, hg⟩ := h.object_sink
  induction steps with
  | nil => rfl
  | cons step steps ih =>
    rw [List.forall_mem_cons] at hsteps
    obtain ⟨function, arguments, rfl, hfunction, hall⟩ := hsteps.1
    -- The way to the sink is part of the effect, but not of the text.
    rw [Frame.texts, Frame.texts, effect_call hf, effect_call hg, h.object hfunction,
      h.operands hall, ih hsteps.2]
    cases (do
      let function ← g.object function
      message function (← arguments.mapM g.operand) : Except (RenderFault F) T) <;> rfl

end Alike

/-! ### The frames of a routine -/

/-- Whether an expression asks for the object of the given name. -/
def AsksFor (V : Type) {F T : Type} [Host V F T] (expr name : Text) : Prop :=
  ∃ file line, operand V file line ⟨atomOf expr, true⟩ = .ok (.name name)

/-- No expression in the operations of a plan asks for an object of the run. -/
def AsksNothingOfRun (V : Type) {F T : Type} [Host V F T] (ops : List Operation) : Prop :=
  ∀ expr spec offset, .formatted expr spec offset ∈ ops → ∀ name ∈ runNames, ¬ AsksFor V expr name

variable {ops : List Operation} {file : Text} {steps : List (Statement Operand)}

theorem isShared_of_statement {op : Operation} {s : Statement Part} {line : Nat}
    {step : Statement Operand} (hasks : AsksNothingOfRun V ops) (hop : op ∈ ops)
    (hs : s ∈ statementsOf op) (h : statement V file (line, s) = .ok step) : IsShared step := by
  cases op with
  | literal text offset =>
    cases text with
    | nil => cases hs
    | cons c t =>
      obtain rfl := List.mem_singleton.mp hs
      rw [statement_literal] at h
      obtain rfl := Except.ok.inj h
      exact ⟨_, _, rfl, by decide, by simp⟩
  | statements code offset => cases hs
  | formatted expr spec offset =>
    obtain rfl := List.mem_singleton.mp hs
    rw [statement_formatted] at h
    obtain ⟨a, ha, rfl⟩ := Outcome.map_ok_iff.mp h
    refine ⟨_, _, rfl, by decide, ?_⟩
    simp only [List.mem_cons, List.not_mem_nil, or_false]
    rintro b (rfl | rfl | rfl) name hname heq
    · exact hasks expr spec offset hop name hname ⟨file, line, by rw [ha, heq]⟩
    · cases heq
    · cases heq

theorem isShared_of_steps (hasks : AsksNothingOfRun V ops)
    (h : List.Forall₂ (fun s step => ∃ line, statement V file (line, s) = .ok step)
      (ops.flatMap statementsOf) steps) :
    ∀ step ∈ steps, IsShared step := by
  have hall := (List.forall₂_and_left _ _).mpr ⟨fun s (hs : s ∈ ops.flatMap statementsOf) => hs, h⟩
  have hshared : List.Forall₂ (fun _ step => IsShared step) (ops.flatMap statementsOf) steps := by
    refine hall.imp fun s step hs => ?_
    obtain ⟨hmem, line, hstatement⟩ := hs
    obtain ⟨op, hop, hs⟩ := List.mem_flatMap.mp hmem
    exact isShared_of_statement hasks hop hs hstatement
  -- What the steps come from does not matter any more.
  generalize ops.flatMap statementsOf = statements at hshared
  clear h hall
  induction hshared with
  | nil => exact fun _ hstep => absurd hstep List.not_mem_nil
  | cons hstep _ ih => exact List.forall_mem_cons.mpr ⟨hstep, ih⟩

variable {names : Names V} {builtins : Text → Except F (Option (Object V))} {c : Code}

/-- The frame of a routine once its sink is guarded. -/
def guardedFrame (c : Code) (names : Names V) (builtins : Text → Except F (Option (Object V)))
    (outlet : Outlet) (identity : Nat) : Frame V F :=
  let f := c.frame names builtins identity [.sink outlet identity]
  { f with assigned := ("sink".toList, .sink outlet.guard identity) :: f.assigned }

section

variable (hroutine : IsRoutine V file ops c) (hbody : c.body = guardStep :: steps)
  (hsteps : ∀ step ∈ steps, IsShared step)

include hroutine hbody hsteps

/-- Only the sink is a name of the function itself. -/
theorem contains_locals (name : Text) :
    c.locals.contains name = decide (name = "sink".toList) := by
  -- The steps behind the guard are calls, so that no other name is given a value.
  have hnone : steps.filterMap Code.target? = [] := by
    rw [List.filterMap_eq_nil_iff]
    intro step hstep
    obtain ⟨function, arguments, rfl, _⟩ := hsteps step hstep
    rfl
  have hlocals : c.locals = ["sink".toList, "sink".toList] := by
    rw [Code.locals, hroutine.parameters, hbody, List.filterMap_cons, hnone]
    rfl
  rw [hlocals, List.contains_eq_mem]
  simp

/-- The function guards its sink before it does anything else. -/
theorem texts_body (outlet : Outlet) (identity : Nat) :
    (c.frame names builtins identity [.sink outlet identity]).texts c.body =
      (guardedFrame c names builtins outlet identity).texts steps := by
  have hown := contains_locals hroutine hbody hsteps
  -- The guard is found among the globals, and the sink among the names of the function itself.
  have hglobal : (c.globals names identity).object? "_bw_guard_sink" =
      some (.helper .guardSink) := by
    rw [Code.globals, hroutine.imports, hroutine.routine]
    rfl
  have hguard : (c.frame names builtins identity [.sink outlet identity]).object "_bw_guard_sink" =
      .ok (.helper .guardSink) := by
    have hother : c.locals.contains ("_bw_guard_sink" : Text) = false := by
      rw [hown]
      rfl
    rw [Frame.object, Code.frame, hother, if_neg Bool.false_ne_true, hglobal]
  have hsink : (c.frame names builtins identity [.sink outlet identity]).operand (.name "sink") =
      .ok (.sink outlet identity) := by
    have hsame : c.locals.contains ("sink" : Text) = true := by
      rw [hown]
      rfl
    rw [Frame.operand, Frame.object, Code.frame, hsame, if_pos rfl, hroutine.parameters]
    rfl
  have heffect : (c.frame names builtins identity [.sink outlet identity]).effect guardStep =
      .ok (.assign "sink" (.sink outlet.guard identity)) := by
    rw [guardStep, Frame.effect, Frame.value, hguard, List.mapM_cons, hsink]
    rfl
  rw [hbody, Frame.texts, heffect]
  rfl

theorem alike_guardedFrame (outlet outlet' : Outlet) (identity identity' : Nat) :
    Alike (guardedFrame c names builtins outlet identity)
      (guardedFrame c names builtins outlet' identity') where
  locals := rfl
  own := contains_locals hroutine hbody hsteps
  sink := ⟨_, _, _, _, rfl, rfl⟩
  globals name hname := by
    have hother : decide (c.routine = name) = false := by
      rw [hroutine.routine]
      exact decide_eq_false fun heq => hname heq.symm
    show (c.globals names identity).object? name = (c.globals names identity').object? name
    rw [Names.object?, Names.object?, Code.globals, Code.globals]
    simp only [List.cons_append, List.find?_cons, hother]
  builtins := rfl

end

/-- A routine of which no expression asks for an object of the run writes the same texts in every
run. -/
theorem texts_eq (hroutine : IsRoutine V file ops c) (hasks : AsksNothingOfRun V ops)
    (outlet outlet' : Outlet) (identity identity' : Nat) :
    (c.frame names builtins identity [.sink outlet identity]).texts c.body =
      (c.frame names builtins identity' [.sink outlet' identity']).texts c.body := by
  obtain ⟨steps, hbody, hstatements⟩ := hroutine.body
  have hsteps := isShared_of_steps hasks hstatements
  rw [texts_body hroutine hbody hsteps, texts_body hroutine hbody hsteps]
  exact (alike_guardedFrame hroutine hbody hsteps outlet outlet' identity identity').texts hsteps

end Stencil.Script
