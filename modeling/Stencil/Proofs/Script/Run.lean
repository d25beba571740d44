import Stencil.Proofs.Outcome
import Stencil.Script.Run

/-! # Runs on a sink that fails

  The run of a routine is a list of texts, which it writes one after the other up to its end or to
  the first statement that fails (`Frame.texts`). A sink takes no part in that list: it only decides
  how much of it is recorded.

  - An attempt to write in a routine has one of two outcomes, whatever guards stand before the sink
    (`Outlet.emit_of_spared`, `Outlet.emit_of_struck`).
  - A run that is spared by its sink records the whole list, and a run that is struck records the
    texts before the attempt that fails (`Frame.run_of_spared`, `Frame.run_of_struck`).
  - `Writes` says both of anything that is done to a sink, so that it holds of a whole script too
    (`execute_writes`).
-/

namespace Stencil

/-! ### One attempt to write -/

namespace Outlet

variable {T : Type} {s : Sink T}

/-- A guard passes on what its sink does, so that a write that succeeds does so on every way. -/
theorem write_of_spared (h : s.failAt ≠ some s.attempts) (text : T) (outlet : Outlet) :
    outlet.write s text =
      (.ok (), { s with parts := s.parts ++ [text], attempts := s.attempts + 1 }) := by
  induction outlet with
  | bare => exact if_neg h
  | guarded inner ih =>
    rw [write, ih]
    rfl

/-- A write that fails is told by its sink's own message: guards report it once. -/
theorem write_of_struck (h : s.failAt = some s.attempts) (text : T) (outlet : Outlet) :
    ∃ fault, outlet.write s text = (.error fault, { s with attempts := s.attempts + 1 }) ∧
      fault.guard = .guarded s.failText := by
  induction outlet with
  | bare => exact ⟨.sink s.failText, if_pos h, rfl⟩
  | guarded inner ih =>
    obtain ⟨fault, hwrite, hguard⟩ := ih
    refine ⟨fault.guard, ?_, ?_⟩
    · rw [write, hwrite]
      rfl
    · rw [hguard]
      rfl

theorem emit_of_spared (h : s.failAt ≠ some s.attempts) (text : T) (outlet : Outlet) :
    outlet.emit s text =
      (.ok (), { s with parts := s.parts ++ [text], attempts := s.attempts + 1 }) := by
  rw [emit, write_of_spared h text outlet]
  rfl

theorem emit_of_struck (h : s.failAt = some s.attempts) (text : T) (outlet : Outlet) :
    outlet.emit s text =
      (.error (.guarded s.failText), { s with attempts := s.attempts + 1 }) := by
  obtain ⟨fault, hwrite, hguard⟩ := write_of_struck h text outlet
  rw [emit, hwrite, ← hguard]
  rfl

end Outlet

namespace Script

variable {V F T : Type}

/-! ### Failures that are not to write -/

/-- A failure that is not one to write. -/
def RenderFault.IsEarly : RenderFault F → Prop
  | .write _ => False
  | _ => True

open Outcome (FailsOnly)

namespace Frame

theorem object_fails (f : Frame V F) (name : Text) :
    FailsOnly RenderFault.IsEarly (f.object name) := by
  unfold object
  split
  · split
    · exact .ok _
    · exact .error trivial
  · split
    · exact .ok _
    · split
      · exact .ok _
      · exact .error trivial
      · exact .error trivial

theorem operand_fails (f : Frame V F) (a : Operand) :
    FailsOnly RenderFault.IsEarly (f.operand a) := by
  cases a with
  | constant v => exact .ok _
  | surrogates codes => exact .ok _
  | name t => exact f.object_fails t
  | pause => exact .error trivial

end Frame

theorem fieldOf_fails (name : Text) (o : Object V) :
    FailsOnly RenderFault.IsEarly (fieldOf name o : Except (RenderFault F) (Object V)) := by
  unfold fieldOf
  split
  · split
    · exact .error trivial
    · split
      · exact .ok _
      · exact .error trivial
  · exact .error trivial

theorem applied_fails (o : Object V) (arguments : List (Object V)) :
    FailsOnly RenderFault.IsEarly (applied o arguments : Except (RenderFault F) (Object V)) := by
  unfold applied
  split
  · exact .ok _
  · exact .error trivial

theorem host_fails {α : Type} (x : Except F α) :
    FailsOnly RenderFault.IsEarly (x.mapError RenderFault.host) := by
  cases x with
  | ok a => exact .ok a
  | error fault => exact .error trivial

variable [Host V F T]

theorem message_fails (o : Object V) (arguments : List (Object V)) :
    FailsOnly RenderFault.IsEarly (message o arguments : Except (RenderFault F) T) := by
  unfold message
  split
  · exact .ok _
  · exact host_fails _
  · exact .error trivial

theorem written_fails (o : Object V) (arguments : List (Object V)) :
    FailsOnly RenderFault.IsEarly (written o arguments : Except (RenderFault F) _) := by
  unfold written
  split
  · exact (message_fails o _).map _
  · exact .error trivial

namespace Frame

/-- Only the sink makes a write fail: the text of a statement is told before it. -/
theorem effect_fails (f : Frame V F) (statement : Statement Operand) :
    FailsOnly RenderFault.IsEarly (f.effect statement) := by
  cases statement with
  | assign target type value =>
    refine FailsOnly.map ?_ _
    cases value with
    | item a => exact f.operand_fails a
    | field object name => exact (f.operand_fails object).bind fun o _ => fieldOf_fails name o
    | call function arguments =>
      exact (f.object_fails function).bind fun o _ =>
        (FailsOnly.mapM fun a _ => f.operand_fails a).bind fun _ _ => applied_fails o _
  | call function arguments =>
    exact (f.object_fails function).bind fun o _ =>
      (FailsOnly.mapM fun a _ => f.operand_fails a).bind fun _ _ =>
        (written_fails o _).bind fun _ _ => .ok _

end Frame

/-! ### A run -/

variable {f : Frame V F} {statements : List (Statement Operand)} {s : Sink T}

namespace Frame

/-- The texts that statements write, up to the first one that fails, and whether there is such a
one. -/
def texts (f : Frame V F) :
    List (Statement Operand) → List T × Except (RenderFault F) Unit
  | [] => ([], .ok ())
  | statement :: rest =>
    match f.effect statement with
    | .error fault => ([], .error fault)
    | .ok (.assign name object) =>
      texts { f with assigned := (name, object) :: f.assigned } rest
    | .ok (.write _ text) => ((texts f rest).1.cons text, (texts f rest).2)

/-- A sink that fails at none of the attempts records all the texts. The induction is on the
statements; each write moves the attempts that are still to come by one. -/
theorem run_of_spared (h : ∀ k < (f.texts statements).1.length, s.failAt ≠ some (s.attempts + k)) :
    f.run statements s = ((f.texts statements).2,
      { s with
        parts := s.parts ++ (f.texts statements).1
        attempts := s.attempts + (f.texts statements).1.length }) := by
  induction statements generalizing f s with
  | nil =>
    rw [run, texts, List.append_nil]
    rfl
  | cons statement rest ih =>
    rw [run]
    rw [texts] at h ⊢
    cases heffect : f.effect statement with
    | error fault =>
      rw [heffect] at h
      dsimp only
      rw [List.append_nil]
      rfl
    | ok effect =>
      rw [heffect] at h
      cases effect with
      | assign name object => exact ih h
      | write outlet text =>
        have hnow : s.failAt ≠ some s.attempts := h 0 (Nat.zero_lt_succ _)
        have hlater : ∀ k < (f.texts rest).1.length, s.failAt ≠ some (s.attempts + 1 + k) := by
          intro k hk
          have := h (k + 1) (Nat.succ_lt_succ hk)
          rwa [Nat.add_assoc, Nat.add_comm 1 k]
        dsimp only
        rw [Outlet.emit_of_spared hnow text outlet]
        dsimp only
        rw [ih hlater]
        dsimp only
        rw [List.append_assoc, List.singleton_append, List.length_cons, Nat.add_assoc,
          Nat.add_comm 1]

/-- A sink that fails at one of the attempts has recorded the texts before it, and is left alone
from then on. -/
theorem run_of_struck {k : Nat} (hk : k < (f.texts statements).1.length)
    (h : s.failAt = some (s.attempts + k)) :
    f.run statements s = (.error (.write (.guarded s.failText)),
      { s with
        parts := s.parts ++ (f.texts statements).1.take k
        attempts := s.attempts + k + 1 }) := by
  induction statements generalizing f s k with
  | nil => exact absurd hk (Nat.not_lt_zero k)
  | cons statement rest ih =>
    rw [run]
    rw [texts] at hk ⊢
    cases heffect : f.effect statement with
    | error fault =>
      rw [heffect] at hk
      exact absurd hk (Nat.not_lt_zero k)
    | ok effect =>
      rw [heffect] at hk
      cases effect with
      | assign name object => exact ih hk h
      | write outlet text =>
        dsimp only
        cases k with
        | zero =>
          -- The attempt at hand is the one that fails: the rest is not run.
          rw [Outlet.emit_of_struck h text outlet]
          dsimp only
          rw [List.take_zero, List.append_nil, Nat.add_zero]
        | succ k =>
          -- This attempt is spared, and one fewer is to come before the one that fails.
          have hnow : s.failAt ≠ some s.attempts := by
            rw [h]
            simp
          have hlater : s.failAt = some (s.attempts + 1 + k) := by
            rw [h, Nat.add_assoc, Nat.add_comm 1 k]
          rw [Outlet.emit_of_spared hnow text outlet]
          dsimp only
          rw [ih (Nat.lt_of_succ_lt_succ hk) hlater]
          dsimp only
          rw [List.append_assoc, List.singleton_append, List.take_succ_cons,
            Nat.add_assoc s.attempts 1 k, Nat.add_comm 1 k]

theorem texts_fails (f : Frame V F) (statements : List (Statement Operand)) :
    FailsOnly RenderFault.IsEarly (f.texts statements).2 := by
  induction statements generalizing f with
  | nil => exact .ok ()
  | cons statement rest ih =>
    rw [texts]
    split
    · next fault heffect => exact .error (f.effect_fails statement fault heffect)
    · exact ih _
    · exact ih f

end Frame

/-! ### What a run has to write -/

/-- What is done to a sink, which has some texts to write and then ends in some way: how much is
written depends on the sink alone, and so does the end if the sink fails. -/
structure Writes (run : Sink T → Except (RenderFault F) Unit × Sink T) (texts : List T)
    (result : Except (RenderFault F) Unit) : Prop where
  early : FailsOnly RenderFault.IsEarly result
  spared : ∀ s : Sink T, (∀ k < texts.length, s.failAt ≠ some (s.attempts + k)) →
    run s = (result,
      { s with parts := s.parts ++ texts, attempts := s.attempts + texts.length })
  struck : ∀ (s : Sink T) (k : Nat), k < texts.length → s.failAt = some (s.attempts + k) →
    run s = (.error (.write (.guarded s.failText)),
      { s with parts := s.parts ++ texts.take k, attempts := s.attempts + k + 1 })

namespace Writes

variable {run : Sink T → Except (RenderFault F) Unit × Sink T} {texts : List T}
  {result : Except (RenderFault F) Unit}

theorem nothing (h : FailsOnly RenderFault.IsEarly result) :
    Writes (fun s : Sink T => (result, s)) [] result where
  early := h
  spared s _ := by
    rw [List.append_nil]
    rfl
  struck s k hk := absurd hk (Nat.not_lt_zero k)

theorem frame (f : Frame V F) (statements : List (Statement Operand)) :
    Writes (f.run statements) (f.texts statements).1 (f.texts statements).2 where
  early := f.texts_fails statements
  spared _ h := Frame.run_of_spared h
  struck _ _ hk h := Frame.run_of_struck hk h

/-- A sink that never fails records all the texts. -/
theorem reliable (h : Writes run texts result) :
    run .reliable = (result, ⟨texts, texts.length, none, []⟩) := by
  rw [h.spared .reliable fun _ _ hfail => by cases hfail]
  simp [Sink.reliable, Sink.failing]

/-- A sink that fails at attempt `k` records the first `k` texts of those that a sink records that
never fails. -/
theorem failing (h : Writes run texts result) (k : Nat) (failText : Text) :
    run (.failing (some k) failText) =
      if k < texts.length then
        (.error (.write (.guarded failText)), ⟨texts.take k, k + 1, some k, failText⟩)
      else (result, ⟨texts, texts.length, some k, failText⟩) := by
  by_cases hk : k < texts.length
  · have hfail : (Sink.failing (some k) failText : Sink T).failAt =
        some ((Sink.failing (some k) failText : Sink T).attempts + k) := by
      rw [Sink.failing, Nat.zero_add]
    rw [if_pos hk, h.struck _ k hk hfail]
    simp [Sink.failing]
  · have hspared : ∀ j < texts.length, (Sink.failing (some k) failText : Sink T).failAt ≠
        some ((Sink.failing (some k) failText : Sink T).attempts + j) := by
      intro j hj hfail
      rw [Sink.failing, Nat.zero_add] at hfail
      exact hk (Option.some.inj hfail ▸ hj)
    rw [if_neg hk, h.spared _ hspared]
    simp [Sink.failing]

end Writes

/-! ### Scripts -/

theorem nameOf_fails (file : Text) (line : Nat) (word : Text) :
    FailsOnly RenderFault.IsEarly (nameOf V file line word) := by
  unfold nameOf
  split
  · exact .error trivial
  · split
    · exact .ok _
    · exact host_fails _

theorem operand_fails (file : Text) (line : Nat) (p : Part) :
    FailsOnly RenderFault.IsEarly (operand V file line p) := by
  unfold operand
  split
  · split
    · exact .ok _
    · split
      · exact .ok _
      · split
        · exact .ok _
        · split
          · exact .ok _
          · exact (nameOf_fails file line _).bind fun _ _ => .ok _
  · split
    · split
      · exact .error trivial
      · exact .ok _
    · split <;> exact .error trivial
  · split
    · split
      · exact .ok _
      · exact .ok _
    · exact .error trivial
    · exact .error trivial

theorem calledName_fails (file : Text) (line : Nat) (word : Text) :
    FailsOnly RenderFault.IsEarly (calledName V file line word) := by
  unfold calledName
  split
  · exact .error trivial
  · exact nameOf_fails file line word

theorem expression_fails (file : Text) (line : Nat) (value : Expression Part) :
    FailsOnly RenderFault.IsEarly (expression V file line value) := by
  cases value with
  | item p => exact (operand_fails file line p).map _
  | field object name =>
    exact (operand_fails file line object).bind fun _ _ =>
      (nameOf_fails file line name).bind fun _ _ => .ok _
  | call function arguments =>
    exact (calledName_fails file line function).bind fun _ _ =>
      (FailsOnly.mapM fun p _ => operand_fails file line p).bind fun _ _ => .ok _

theorem statement_fails (file : Text) (s : Nat × Statement Part) :
    FailsOnly RenderFault.IsEarly (statement V file s) := by
  obtain ⟨line, s⟩ := s
  cases s with
  | assign target type value =>
    have htarget : FailsOnly RenderFault.IsEarly (targetName V file line target) :=
      (nameOf_fails file line target).bind fun _ _ => by
        split
        · exact .error trivial
        · exact .ok _
    have htype : FailsOnly RenderFault.IsEarly (type.mapM (operand V file line)) := by
      cases type with
      | none => exact .ok none
      | some p => exact (operand_fails file line p).map some
    exact htarget.bind fun _ _ => htype.bind fun _ _ =>
      (expression_fails file line value).bind fun _ _ => .ok _
  | call function arguments =>
    exact (calledName_fails file line function).bind fun _ _ =>
      (FailsOnly.mapM fun p _ => operand_fails file line p).bind fun _ _ => .ok _

theorem imported_fails (file : Text) (i : Import) :
    FailsOnly RenderFault.IsEarly (imported V file i) := by
  unfold imported
  split
  · exact (nameOf_fails file i.line i.given).map _
  · exact .error trivial

theorem compile_fails (m : Module) (file : Text) :
    FailsOnly RenderFault.IsEarly (m.compile V file) :=
  (FailsOnly.mapM fun i _ => imported_fails file i).bind fun _ _ =>
    (nameOf_fails file m.line m.routine).bind fun _ _ =>
      (FailsOnly.mapM fun t _ => nameOf_fails file m.line t).bind fun _ _ =>
        (FailsOnly.mapM fun s _ => statement_fails file s).bind fun _ _ => .ok _

theorem load_fails (names : Names V) (file text function : Text) (arity : Nat) :
    FailsOnly RenderFault.IsEarly (load names file text function arity) := by
  have hread : FailsOnly RenderFault.IsEarly
      ((read text).mapError (.script file) : Except (RenderFault F) Module) :=
    FailsOnly.mapError (P := fun _ => True) (fun _ _ => trivial) fun _ _ => trivial
  refine hread.bind fun m _ => (compile_fails m file).bind fun c _ => (host_fails _).bind fun _ _ => ?_
  split
  · exact .ok _
  · exact .error trivial

/-- What comes of a script is told by the texts that it has to write. -/
theorem execute_writes (names : Names V) (identity : Nat) (file text function : Text)
    (arguments : List (Object V)) :
    ∃ texts result, Writes (execute names identity file text function arguments) texts result := by
  unfold execute
  cases hload : load names file text function arguments.length with
  | error fault => exact ⟨_, _, .nothing (.error (load_fails _ _ _ _ _ fault hload))⟩
  | ok loaded =>
    obtain ⟨c, builtins⟩ := loaded
    by_cases hpauses : c.pauses = true
    · simp only [hpauses, if_true]
      exact ⟨_, _, .nothing (.ok ())⟩
    · simp only [hpauses]
      exact ⟨_, _, .frame _ c.body⟩

end Script
end Stencil
