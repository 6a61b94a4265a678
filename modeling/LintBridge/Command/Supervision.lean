/-!
Watching over a child until it is gone.

The supervisor reads the output of its child. It ends with the child's code once the output is
closed and the child has exited. When the time is up or the run is cancelled it stops reading, kills
the child unless it has exited, and waits for its exit; being cancelled while it waits ends the run
at once. `feed` is one event, `run` a list of them. A run that has ended takes no event, and a run
only ends with a code if no kill was issued (`code_of_run`).
-/
set_option autoImplicit false

namespace LintBridge.Command

inductive Event where
  | exited (code : Nat)
  | outputClosed
  | timeUp
  | cancelled
  /-- The reader of the output has stopped as it was told to. -/
  | readerStopped
  deriving DecidableEq, Repr

inductive GivenUp where
  | timeUp
  | cancelled
  deriving DecidableEq, Repr

inductive Ending where
  | code (n : Nat)
  | givenUp (why : GivenUp)
  deriving DecidableEq, Repr

inductive Phase where
  | reading
  /-- The reader has been told to stop. -/
  | stopping (why : GivenUp)
  /-- The child is waited for. -/
  | reaping (why : GivenUp)
  | ended (ending : Ending)
  deriving DecidableEq, Repr

/-- A supervisor and what it knows of its child. -/
structure Supervisor where
  phase : Phase := .reading
  /-- The code of the child, once it has exited. -/
  code : Option Nat := none
  outputClosed : Bool := false
  /-- Whether the child was told to die. -/
  killed : Bool := false
  deriving DecidableEq, Repr

namespace Supervisor

/-- The child is killed unless it has exited, and waited for. -/
def terminate (s : Supervisor) (why : GivenUp) : Supervisor :=
  match s.code with
  | some _ => { s with phase := .ended (.givenUp why) }
  | none => { s with phase := .reaping why, killed := true }

/-- A reader that has nothing more to wait for ends the run. -/
def settle (s : Supervisor) : Supervisor :=
  match s.phase, s.code with
  | .reading, some n => if s.outputClosed then { s with phase := .ended (.code n) } else s
  | .reaping why, some _ => { s with phase := .ended (.givenUp why) }
  | _, _ => s

def feed (s : Supervisor) (event : Event) : Supervisor :=
  match s.phase, event with
  | .ended _, _ => s
  | _, .exited n => settle { s with code := s.code.or (some n) }
  | _, .outputClosed => settle { s with outputClosed := true }
  | .reading, .timeUp => { s with phase := .stopping .timeUp }
  | .reading, .cancelled => { s with phase := .stopping .cancelled }
  | .stopping why, .readerStopped => s.terminate why
  | .stopping _, .cancelled => s.terminate .cancelled
  | .reaping _, .cancelled => { s with phase := .ended (.givenUp .cancelled) }
  | _, _ => s

def run (s : Supervisor) (events : List Event) : Supervisor := events.foldl feed s

def ending? (s : Supervisor) : Option Ending :=
  match s.phase with
  | .ended ending => some ending
  | _ => none

theorem feed_of_ended {s : Supervisor} {ending : Ending} (h : s.phase = .ended ending)
    (event : Event) : s.feed event = s := by
  simp [feed, h]

/-- A child that is read from was not killed. -/
def Sound (s : Supervisor) : Prop :=
  match s.phase with
  | .reading => s.killed = false
  | .stopping _ => s.killed = false
  | .ended (.code _) => s.killed = false
  | _ => True

theorem Sound.feed {s : Supervisor} (h : s.Sound) (event : Event) : (s.feed event).Sound := by
  obtain ⟨phase, code, outputClosed, killed⟩ := s
  cases phase <;> cases event <;> cases code <;> cases outputClosed <;>
    simp_all [Sound, Supervisor.feed, settle, terminate]

theorem Sound.run {s : Supervisor} (h : s.Sound) (events : List Event) : (s.run events).Sound := by
  induction events generalizing s with
  | nil => exact h
  | cons event more ih => exact ih (h.feed event)

theorem code_of_run {events : List Event} {n : Nat}
    (h : (run {} events).phase = .ended (.code n)) : (run {} events).killed = false := by
  have hs : (run {} events).Sound := Sound.run (s := {}) rfl events
  simpa [Sound, h] using hs

end Supervisor

end LintBridge.Command
