import LintBridge.Command.Behaviour
import LintBridge.Command.Supervision

/-!
Running a command from its words to its captured output.

The executable is located, the working directory checked, the child started and watched. What
happens to the child is in order of time: of a cancellation, the end of the time it may take and its
exit at the same moment, the one named first comes first. A limit that is not above zero is over at
once. The captured octets are read as UTF-8, with the replacement character for what is none.
-/
set_option autoImplicit false

namespace LintBridge.Command

/-- How a command fared, and the milliseconds that it took; none if no child was started. -/
structure Run where
  outcome : Except RunFault Completion
  duration : Nat

structure Moment where
  time : Binary64
  events : List Event

/-- The moments in order of time, those at the same time in the order given. -/
def inOrder (moments : List Moment) : List Moment :=
  moments.mergeSort fun a b => !b.time.below a.time

def expiry (limit : Binary64) : Binary64 :=
  if (Binary64.ofInt 0).below limit then limit else Binary64.ofInt 0

/-- What happens to a child that exits by itself after `duration` milliseconds. -/
def history (duration code : Nat) (limit : Timeout) (cancelAfter : Option Binary64) :
    List Event :=
  let cancellation := cancelAfter.toList.map fun time =>
    Moment.mk time [.cancelled, .readerStopped]
  let timeUp := limit.toList.map fun limit => Moment.mk (expiry limit) [.timeUp, .readerStopped]
  let exit := Moment.mk (Binary64.ofRatio false duration 1000) [.exited code, .outputClosed]
  (inOrder (cancellation ++ timeUp ++ [exit])).flatMap Moment.events

/-- The limit as it is reported: none is zero, and zero has no sign. -/
def reportedLimit (limit : Timeout) : Binary64 :=
  match limit with
  | none => Binary64.ofInt 0
  | some x => if x.magnitude = 0 then Binary64.ofInt 0 else x

def outcomeOf (command : List String) (limit : Timeout) (b : Behaviour) :
    Option Ending → Except RunFault Completion
  | some (.code n) =>
    .ok ⟨command, n, String.ofList (Text.Utf8.decodeLenient b.output),
      String.ofList (Text.Utf8.decodeLenient b.errors)⟩
  | some (.givenUp .timeUp) => .error (.timedOut (command.headD "") (reportedLimit limit))
  | _ => .error .cancelled

/-- The milliseconds after which a child that was watched to its end is gone. -/
def endOf (limit : Timeout) (b : Behaviour) : Option Ending → Nat
  | some (.code _) => b.duration
  | _ => (limit.map Binary64.milliseconds).getD 0

def watch (c : Child) (command : List String) (input : String) (limit : Timeout)
    (cancelAfter : Option Binary64) : Run :=
  let b := c.behaviour (Script.octetsOf input)
  let watched := Supervisor.run {} (history b.duration b.code limit cancelAfter)
  ⟨outcomeOf command limit b watched.ending?, 1 + endOf limit b watched.ending?⟩

/-- How a command fares on a host, cancelled after some seconds if it is still running then. -/
def run (host : Host) (i : Invocation) (cancelAfter : Option Binary64) : Run :=
  let started : Except RunFault (String × List String × Child) := do
    let (executable, arguments) ← locateCommand host i.command
    let cwd ← checkDirectory host i.cwd
    match spawn host executable arguments cwd with
    | .error fault => .error (fault.toRunFault (i.command.headD ""))
    | .ok child => .ok (executable, arguments, child)
  match started with
  | .error fault => ⟨.error fault, 0⟩
  | .ok (executable, arguments, child) =>
    watch child (executable :: arguments) (i.input.getD "") i.timeout cancelAfter

end LintBridge.Command
