import Stencil.Proofs.Script.Alike
import Stencil.Render

/-! # Rendering to a sink that fails

  A sink that fails is left with a prefix of what is written to a sink that never fails
  (`failure_leaves_prefix`). It follows from what any script does to a sink (`Writes`); that a
  template is such a script is told line by line (`Script.read_inline`).
-/

namespace Stencil.Render

open Script

variable {V F T : Type} [Host V F T]

/-- What is done to a sink that fails is the beginning of what is done to one that never fails. -/
structure LeavesPrefix (run : Sink T → Except (RenderFault F) Unit × Sink T) : Prop where
  /-- A sink that never fails is not what a run fails of. -/
  early : ∀ fault, (run .reliable).1 ≠ .error (.write fault)
  /-- The first `k` texts stay, attempt `k` is the last one, and the sink's own failure is told by
  one report. -/
  struck : ∀ k failText, k < (run .reliable).2.parts.length →
    run (.failing (some k) failText) = (.error (.write (.guarded failText)),
      ⟨(run .reliable).2.parts.take k, k + 1, some k, failText⟩)
  /-- A failure that is not reached changes nothing. -/
  spared : ∀ k failText, (run .reliable).2.parts.length ≤ k →
    run (.failing (some k) failText) = ((run .reliable).1,
      ⟨(run .reliable).2.parts, (run .reliable).2.attempts, some k, failText⟩)

theorem leavesPrefix_of_writes {run : Sink T → Except (RenderFault F) Unit × Sink T}
    {texts : List T} {result : Except (RenderFault F) Unit}
    (h : Writes run texts result) : LeavesPrefix run where
  early fault hfault := by
    rw [h.reliable] at hfault
    exact h.early _ hfault
  struck k failText hk := by
    rw [h.reliable] at hk ⊢
    rw [h.failing, if_pos hk]
  spared k failText hk := by
    rw [h.reliable] at hk ⊢
    rw [h.failing, if_neg (Nat.not_lt_of_le hk)]

/-- A run on a sink that never fails is the same with every guard before the sink, unless the
template asks for an object of the run. -/
theorem inline_reliable_eq {d : Dialect} {p : Plan} {text : Text}
    (hplain : ∀ op ∈ p.operations, IsPlain op) (htext : Routine.Python.inline d p = .ok text)
    (hlegible : IsLegible p text) (hasks : AsksNothingOfRun V p.operations)
    (scope : Scope V) (path : Text) (outlet outlet' : Outlet) (identity identity' : Nat) :
    inline scope outlet identity path text .reliable =
      inline scope outlet' identity' path text .reliable := by
  obtain ⟨m, hread, hfollows⟩ := read_inline d hplain htext hlegible
  unfold inline execute
  dsimp only [List.length_singleton]
  cases hload : load (names scope) (origin path) text "_braceweave_inline" 1 with
  | error fault => rfl
  | ok loaded =>
    obtain ⟨c, builtins⟩ := loaded
    -- What was loaded is the code of the script that the plan says.
    have hcompile : m.compile V (origin path) = .ok c := by
      obtain ⟨m', hm', hload⟩ := Outcome.bind_ok_iff.mp hload
      rw [hread] at hm'
      obtain rfl := Except.ok.inj hm'
      obtain ⟨c', hcompile, hload⟩ := Outcome.bind_ok_iff.mp hload
      obtain ⟨builtins', _, hload⟩ := Outcome.bind_ok_iff.mp hload
      split at hload
      · cases hload
        exact hcompile
      · cases hload
    have hroutine := isRoutine_of_compile hfollows hcompile
    dsimp only
    split
    · rfl
    · -- Both runs write the texts of the code and end alike.
      rw [(Writes.frame _ c.body).reliable, (Writes.frame _ c.body).reliable,
        texts_eq hroutine hasks outlet outlet' identity identity']

/-- A failing sink is left with a prefix of the output.  The routine for a plan of literal texts,
names, integers and plain texts is generated, and it is the script that says what the plan says; it
is run as a whole or, where one of its lines breaks the rules of the language, not at all.  Whatever
guards are before the sink, its failure leaves the texts before it and is told once.  The runs that
are compared meet the same objects; those that a run makes for itself matter only where a template
asks for them by name. -/
theorem failure_leaves_prefix (d : Dialect) {p : Plan} (hplain : ∀ op ∈ p.operations, IsPlain op) :
    ∃ text, Routine.Python.inline d p = .ok text ∧
      (IsLegible p text → ∃ m, read text = .ok m ∧ m.Follows p.operations) ∧
      ∀ {V F T : Type} [Host V F T] (scope : Scope V) (path : Text),
        (∀ outlet identity,
          LeavesPrefix (F := F) (inline scope outlet identity path text)) ∧
        (∀ identity, Render.text scope identity path text =
          (inline scope .bare identity path text .reliable).1.map fun _ =>
            Host.concat V (inline scope .bare identity path text .reliable).2.parts) ∧
        (IsLegible p text → AsksNothingOfRun V p.operations →
          ∀ outlet outlet' identity identity',
            inline (F := F) scope outlet identity path text .reliable =
              inline scope outlet' identity' path text .reliable) := by
  obtain ⟨ws, htext, _⟩ := exists_inline d hplain
  refine ⟨_, htext, read_inline d hplain htext, fun scope path => ⟨?_, ?_, ?_⟩⟩
  · intro outlet identity
    obtain ⟨texts, result, hwrites⟩ := execute_writes (names scope) identity (origin path) _
      "_braceweave_inline" [.sink outlet identity]
    exact leavesPrefix_of_writes hwrites
  · exact fun identity => rfl
  · exact fun hlegible hasks => inline_reliable_eq hplain htext hlegible hasks scope path

/-- The plan of `Hello, {name}!`. -/
def greeting : Plan where
  path := "greeting.txt"
  operations := [.literal "Hello, " 0, .formatted "name" none 7, .literal "!" 13]

/-- The greeting of Ada on a sink that fails at its second write. -/
theorem failure_leaves_prefix_greeting :
    (∀ op ∈ greeting.operations, IsPlain op) ∧
      ∃ text, Routine.Python.inline .python greeting = .ok text ∧
        inline [("name", Value.text "Ada")] (.guarded .bare) 0 "greeting.txt" text
            (.failing (some 1) "disk full") =
          (.error (.write (.guarded "disk full")), ⟨["Hello, "], 2, some 1, "disk full"⟩) := by
  have hplain : ∀ op ∈ greeting.operations, IsPlain op := by decide +kernel
  obtain ⟨text, htext, _, hruns⟩ := failure_leaves_prefix .python hplain
  have hwhole : (Routine.Python.inline .python greeting).toOption.map (fun text =>
      (inline [("name", Value.text "Ada")] (.guarded .bare) 0 "greeting.txt" text .reliable).2.parts) =
        some [("Hello, " : Text), "Ada", "!"] := by
    decide +kernel
  rw [htext] at hwhole
  have hparts : (inline [("name", Value.text "Ada")] (.guarded .bare) 0 "greeting.txt" text
      .reliable).2.parts = ["Hello, ", "Ada", "!"] := Option.some.inj hwhole
  have hstruck := ((hruns [("name", Value.text "Ada")] "greeting.txt").1 (.guarded .bare) 0).struck 1
    "disk full"
  rw [hparts] at hstruck
  exact ⟨hplain, text, htext, hstruck (by decide)⟩

end Stencil.Render
