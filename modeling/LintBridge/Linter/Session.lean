import LintBridge.Linter

/-!
One linter at work on several documents at once.

A session is a sequence of two kinds of events: a call starts, and an answer arrives for a call that
waits for its command. Each is handled at one stroke. The session keeps the linter, the log, the
commands that were run, the calls that wait, and how the others have ended, in order of time.
-/
set_option autoImplicit false

namespace LintBridge

structure LintRequest where
  document : Document
  folders : List WorkspaceFolder

abbrev Answer := Except RunFault Completion

/-- A linter and all that it has done. Calls are known by numbers. -/
structure Session where
  linter : Linter
  log : List LogEntry := []
  runs : List (Nat × Invocation) := []
  waiting : List (Nat × Document) := []
  finished : List (Nat × LintOutcome) := []

inductive SessionEvent where
  | started (call : Nat) (request : LintRequest)
  | answered (call : Nat) (answer : Answer)

namespace Session

def finish (s : Session) (call : Nat) (outcome : LintOutcome) : Session :=
  { s with finished := s.finished ++ [(call, outcome)] }

def start (s : Session) (fs : FileSystem) (call : Nat) (r : LintRequest) : Session :=
  match s.linter.prepare fs r.document r.folders with
  | .nothing => s.finish call (.ok [])
  | .failed fault => s.finish call (.error fault)
  | .run invocation debug =>
    { s with
      log := s.log ++ [debug]
      runs := s.runs ++ [(call, invocation)]
      waiting := s.waiting ++ [(call, r.document)] }

/-- The session in which an answer arrives for a call; calls that do not wait take none. -/
def answer (s : Session) (call : Nat) (answer : Answer) : Session :=
  match s.waiting.lookup call with
  | none => s
  | some document =>
    let conclusion := s.linter.conclude document answer
    finish
      { s with
        linter := conclusion.linter
        log := s.log ++ conclusion.log
        waiting := s.waiting.filter (·.1 != call) }
      call conclusion.outcome

def feed (fs : FileSystem) (s : Session) : SessionEvent → Session
  | .started call request => s.start fs call request
  | .answered call answer => s.answer call answer

def run (fs : FileSystem) (s : Session) (events : List SessionEvent) : Session :=
  events.foldl (feed fs) s

def outcome? (s : Session) (call : Nat) : Option LintOutcome := s.finished.lookup call

def texts (s : Session) (level : LogLevel) : List String :=
  (s.log.filter (·.level == level)).map LogEntry.text

end Session

end LintBridge
