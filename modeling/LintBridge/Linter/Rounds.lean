import LintBridge.Command.Run
import LintBridge.Linter.Session

/-!
Linting several documents together.

All calls start in order. An answer takes some rounds to arrive, and one that takes none arrives
before the next call starts. In each round the calls that wait are visited in order, so an answer
that takes `n` rounds arrives in round `n`.
-/
set_option autoImplicit false

namespace LintBridge

/-- An answer and the number of rounds that it takes. -/
structure Reply where
  answer : Answer
  rounds : Nat

/-- What runs commands: the reply to an invocation, given how many there were before it. -/
abbrev Runner := Nat → Invocation → Reply

/-- The runner that starts commands on a host. A command takes a round for each millisecond. -/
def Runner.ofHost (host : Command.Host) : Runner := fun _ invocation =>
  let run := Command.run host invocation none
  ⟨run.outcome, run.duration⟩

structure Pending where
  call : Nat
  answer : Answer
  rounds : Nat

namespace Session

/-- The session in which a call starts, and the reply that is then on its way to it. -/
def begin (s : Session) (fs : FileSystem) (runner : Runner) (call : Nat) (r : LintRequest) :
    Session × List Pending :=
  let started := s.start fs call r
  match started.runs.drop s.runs.length with
  | [] => (started, [])
  | (_, invocation) :: _ =>
    let reply := runner s.runs.length invocation
    if reply.rounds = 0 then (started.answer call reply.answer, [])
    else (started, [⟨call, reply.answer, reply.rounds⟩])

/-- The session in which all calls start, the first of them with the number `call`, and the replies
that are then on their way. -/
def beginAll (s : Session) (fs : FileSystem) (runner : Runner) (call : Nat) :
    List LintRequest → Session × List Pending
  | [] => (s, [])
  | r :: more =>
    let (s, pending) := s.begin fs runner call r
    let (s, others) := beginAll s fs runner (call + 1) more
    (s, pending ++ others)

/-- The session after a round, and the replies that are still on their way. -/
def round (s : Session) : List Pending → Session × List Pending
  | [] => (s, [])
  | p :: more =>
    if p.rounds ≤ 1 then round (s.answer p.call p.answer) more
    else
      let (s, others) := round s more
      (s, { p with rounds := p.rounds - 1 } :: others)

def rounds (s : Session) (pending : List Pending) : Nat → Session
  | 0 => s
  | n + 1 =>
    let (s, pending) := s.round pending
    rounds s pending n

/-- The session after all calls have started and all replies have arrived. -/
def lintAll (s : Session) (fs : FileSystem) (runner : Runner) (requests : List LintRequest) :
    Session :=
  let (s, pending) := s.beginAll fs runner 0 requests
  s.rounds pending ((pending.map Pending.rounds).foldl max 0)

/-- The outcomes of the calls with the numbers below `count`, in order. -/
def outcomes (s : Session) (count : Nat) : List LintOutcome :=
  (List.range count).map fun call => (s.outcome? call).getD (.ok [])

end Session

end LintBridge
