import Stencil.Text.Basic

/-!
# Sinks

Where rendered text goes.  A sink records each text that is written to it and may be set to fail
once; a guard around a sink turns every failure into the one kind that the caller of a routine has
to expect.
-/

namespace Stencil

/-- A sink that records what is written, and at which write it fails.  The texts are those of the
program that writes them. -/
structure Sink (T : Type := Text) where
  /-- The texts that were written. -/
  parts : List T
  /-- The number of attempts to write, failed ones included. -/
  attempts : Nat
  /-- The number of the attempt that fails, counted from zero. -/
  failAt : Option Nat
  /-- What the failure says. -/
  failText : Text
deriving DecidableEq, Repr

/-- Why a text is not written. -/
inductive WriteFault where
  /-- The sink itself fails. -/
  | sink (text : Text)
  /-- A guard reports that its sink fails. -/
  | guarded (cause : Text)
deriving DecidableEq, Repr

def WriteFault.message : WriteFault → Text
  | .sink text => text
  | .guarded cause => "output sink failed: " ++ cause

/-- A failure as a guard reports it; the report of another guard is passed on. -/
def WriteFault.guard : WriteFault → WriteFault
  | .sink text => .guarded text
  | .guarded cause => .guarded cause

namespace Sink

variable {T : Type}

def failing (failAt : Option Nat) (failText : Text) : Sink T := ⟨[], 0, failAt, failText⟩

def reliable : Sink T := failing none []

/-- What comes of an attempt to write, and the sink afterwards. -/
def write (s : Sink T) (t : T) : Except WriteFault Unit × Sink T :=
  let attempts := s.attempts + 1
  if s.failAt = some s.attempts then (.error (.sink s.failText), { s with attempts })
  else (.ok (), { s with parts := s.parts ++ [t], attempts })

end Sink

/-- The way to a sink. -/
inductive Outlet where
  | bare
  | guarded (inner : Outlet)
deriving DecidableEq, Repr

namespace Outlet

variable {T : Type}

/-- The way with a guard; one that has a guard already will do. -/
def guard : Outlet → Outlet
  | .bare => .guarded .bare
  | .guarded inner => .guarded inner

def write (s : Sink T) (t : T) : Outlet → Except WriteFault Unit × Sink T
  | .bare => s.write t
  | .guarded inner =>
    let (result, s) := write s t inner
    (result.mapError WriteFault.guard, s)

/-- What comes of writing in a routine, which guards every write itself. -/
def emit (o : Outlet) (s : Sink T) (t : T) : Except WriteFault Unit × Sink T :=
  let (result, s) := o.write s t
  (result.mapError WriteFault.guard, s)

end Outlet
end Stencil
