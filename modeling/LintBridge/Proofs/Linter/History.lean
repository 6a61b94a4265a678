import LintBridge.Proofs.Entries
import LintBridge.Proofs.Linter.Conclusion
import LintBridge.Proofs.Linter.Preparation

/-!
# Histories of a session

A history is a list of events, each with the files as they are when it happens. `Move` says once
what one event can do to a session; everything about histories follows from it by induction. What
happens to a call is its own affair: events of other calls neither end it nor keep it from waiting,
so that a call ends as it would alone (`outcome?_of_call`).
-/
set_option autoImplicit false

namespace LintBridge

def SessionEvent.call : SessionEvent → Nat
  | .started call _ => call
  | .answered call _ => call

structure SessionStep where
  files : FileSystem
  event : SessionEvent

/-- How a call ends that is alone with its linter and whose command, if it runs one, gets an
answer. -/
def Linter.callOutcome (l : Linter) (fs : FileSystem) (r : LintRequest) (a : Answer) :
    LintOutcome :=
  match l.prepare fs r.document r.folders with
  | .nothing => .ok []
  | .failed fault => .error fault
  | .run _ _ => Answer.outcome a

/-- A command that a linter of a configuration prepares for some document. -/
def LinterConfig.Prepares (config : LinterConfig) (i : Invocation) : Prop :=
  ∃ (l : Linter) (fs : FileSystem) (d : Document) (folders : List WorkspaceFolder)
    (debug : LogEntry), l.config = config ∧ l.prepare fs d folders = .run i debug

namespace Session

def ofConfig (config : LinterConfig) : Session := { linter := Linter.ofConfig config }

def advance (s : Session) (step : SessionStep) : Session := s.feed step.files step.event

def replay (s : Session) (history : List SessionStep) : Session := history.foldl advance s

/-- The answer that an event delivers; calls that do not wait take none. -/
def delivery? (s : Session) : SessionEvent → Option Answer
  | .started _ _ => none
  | .answered call a => (s.waiting.lookup call).map fun _ => a

/-- The answers that a history delivers, in order of time. -/
def deliveries (s : Session) : List SessionStep → List Answer
  | [] => []
  | step :: more => (s.delivery? step.event).toList ++ deliveries (s.advance step) more

/-- A call that has neither ended nor waits. -/
structure IsFresh (s : Session) (call : Nat) : Prop where
  waits_not : s.waiting.lookup call = none
  ends_not : s.outcome? call = none

/-- The session in which a call runs its command. -/
def launch (s : Session) (call : Nat) (d : Document) (i : Invocation) (debug : LogEntry) :
    Session :=
  { s with
    log := s.log ++ [debug]
    runs := s.runs ++ [(call, i)]
    waiting := s.waiting ++ [(call, d)] }

/-- The session in which a call that waits with a document takes an answer. -/
def settle (s : Session) (call : Nat) (d : Document) (a : Answer) : Session :=
  { s with
    linter := (s.linter.conclude d a).linter
    log := s.log ++ (s.linter.conclude d a).log
    waiting := s.waiting.filter (·.1 != call)
    finished := s.finished ++ [(call, Answer.outcome a)] }

/-- What one event does to a session. -/
inductive Move (fs : FileSystem) (s : Session) : SessionEvent → Session → Prop where
  | skipped (call : Nat) (r : LintRequest)
      (idle : s.linter.prepare fs r.document r.folders = .nothing) :
      Move fs s (.started call r) (s.finish call (.ok []))
  | failed (call : Nat) (r : LintRequest) (fault : LintFault)
      (broken : s.linter.prepare fs r.document r.folders = .failed fault) :
      Move fs s (.started call r) (s.finish call (.error fault))
  | launched (call : Nat) (r : LintRequest) (i : Invocation) (debug : LogEntry)
      (ready : s.linter.prepare fs r.document r.folders = .run i debug) :
      Move fs s (.started call r) (s.launch call r.document i debug)
  | ignored (call : Nat) (a : Answer) (absent : s.waiting.lookup call = none) :
      Move fs s (.answered call a) s
  | settled (call : Nat) (a : Answer) (d : Document)
      (waits : s.waiting.lookup call = some d) :
      Move fs s (.answered call a) (s.settle call d a)

theorem answer_of_waiting {s : Session} {call : Nat} {d : Document}
    (waits : s.waiting.lookup call = some d) (a : Answer) :
    s.answer call a = s.settle call d a := by
  simp only [answer, waits, finish, settle, Linter.conclude_outcome]

theorem answer_of_not_waiting {s : Session} {call : Nat}
    (absent : s.waiting.lookup call = none) (a : Answer) : s.answer call a = s := by
  simp only [answer, absent]

theorem feed_move (fs : FileSystem) (s : Session) (event : SessionEvent) :
    Move fs s event (feed fs s event) := by
  cases event with
  | started call r =>
      simp only [feed, start]
      cases prepared : s.linter.prepare fs r.document r.folders with
      | nothing => exact .skipped call r prepared
      | failed fault => exact .failed call r fault prepared
      | run i debug => exact .launched call r i debug prepared
  | answered call a =>
      simp only [feed]
      cases waits : s.waiting.lookup call with
      | none =>
          rw [answer_of_not_waiting waits]
          exact .ignored call a waits
      | some d =>
          rw [answer_of_waiting waits]
          exact .settled call a d waits

theorem replay_cons (s : Session) (step : SessionStep) (more : List SessionStep) :
    s.replay (step :: more) = (s.advance step).replay more := rfl

/-- What every event preserves holds after every history. -/
theorem replay_induction {P : Session → Prop} (history : List SessionStep)
    (step : ∀ fs s event s', Move fs s event s' → P s → P s') {s : Session} (holds : P s) :
    P (s.replay history) := by
  induction history generalizing s with
  | nil => exact holds
  | cons first more ih =>
      rw [replay_cons]
      exact ih (step first.files s first.event _ (feed_move _ _ _) holds)

/-- Every command of a history is one that a linter of the same configuration prepares. -/
theorem prepares_of_mem_runs (config : LinterConfig) (history : List SessionStep) :
    ∀ run ∈ ((ofConfig config).replay history).runs, config.Prepares run.2 := by
  have configured : ((ofConfig config).replay history).linter.config = config ∧
      ∀ run ∈ ((ofConfig config).replay history).runs, config.Prepares run.2 := by
    apply replay_induction (P := fun s => s.linter.config = config ∧
      ∀ run ∈ s.runs, config.Prepares run.2) history
    · intro fs s event s' move holds
      cases move with
      | skipped call r idle => exact holds
      | failed call r fault broken => exact holds
      | launched call r i debug ready =>
          refine ⟨holds.1, fun run member => ?_⟩
          rcases List.mem_append.1 member with earlier | now
          · exact holds.2 run earlier
          · obtain rfl := List.mem_singleton.1 now
            exact ⟨s.linter, fs, r.document, r.folders, debug, holds.1, ready⟩
      | ignored call a absent => exact holds
      | settled call a d waits =>
          refine ⟨?_, holds.2⟩
          rw [settle, Linter.conclude_linter]
          exact holds.1
    · exact ⟨rfl, List.forall_mem_nil _⟩
  exact configured.2

/-! ## Calls of other numbers -/

/-- An event leaves the calls of other numbers where they are. -/
theorem Move.frame {fs : FileSystem} {s s' : Session} {event : SessionEvent} {call : Nat}
    (move : Move fs s event s') (foreign : event.call ≠ call) :
    s'.waiting.lookup call = s.waiting.lookup call ∧ s'.outcome? call = s.outcome? call := by
  have apart : call ≠ event.call := Ne.symm foreign
  cases move with
  | skipped other r idle => exact ⟨rfl, lookup_append_ne apart _ _⟩
  | failed other r fault broken => exact ⟨rfl, lookup_append_ne apart _ _⟩
  | launched other r i debug ready => exact ⟨lookup_append_ne apart _ _, rfl⟩
  | ignored other a absent => exact ⟨rfl, rfl⟩
  | settled other a d waits =>
      exact ⟨lookup_filter_ne apart _, lookup_append_ne apart _ _⟩

theorem replay_frame {call : Nat} (history : List SessionStep)
    (foreign : ∀ step ∈ history, step.event.call ≠ call) (s : Session) :
    (s.replay history).waiting.lookup call = s.waiting.lookup call ∧
      (s.replay history).outcome? call = s.outcome? call := by
  induction history generalizing s with
  | nil => exact ⟨rfl, rfl⟩
  | cons step more ih =>
      have first := (feed_move step.files s step.event).frame
        (foreign step (List.mem_cons_self ..))
      have later := ih (fun step member => foreign step (List.mem_cons_of_mem _ member))
        (s.advance step)
      rw [replay_cons]
      exact ⟨later.1.trans first.1, later.2.trans first.2⟩

/-! ## A call from its start to its end -/

theorem start_of_run {s : Session} {fs : FileSystem} {r : LintRequest} {i : Invocation}
    {debug : LogEntry} (ready : s.linter.prepare fs r.document r.folders = .run i debug)
    (call : Nat) : s.start fs call r = s.launch call r.document i debug := by
  simp only [start, ready, launch]

/-- A call that runs its command waits until it is answered. -/
theorem waits_until_answered {s : Session} {fs : FileSystem} {r : LintRequest} {i : Invocation}
    {debug : LogEntry} {call : Nat} (fresh : s.IsFresh call)
    (ready : s.linter.prepare fs r.document r.folders = .run i debug)
    {others : List SessionStep} (foreign : ∀ step ∈ others, step.event.call ≠ call) :
    ((s.start fs call r).replay others).waiting.lookup call = some r.document ∧
      ((s.start fs call r).replay others).outcome? call = none := by
  have frame := replay_frame others foreign (s.start fs call r)
  rw [start_of_run ready] at frame ⊢
  exact ⟨frame.1.trans (lookup_append_self fresh.waits_not _), frame.2.trans fresh.ends_not⟩

theorem outcome?_settle {s : Session} {call : Nat} (unfinished : s.outcome? call = none)
    (d : Document) (a : Answer) : (s.settle call d a).outcome? call = some (Answer.outcome a) :=
  lookup_append_self unfinished _

/-- A call ends as it would alone, whatever other calls do between its start and its answer. -/
theorem outcome?_of_call {s : Session} {call : Nat} (fresh : s.IsFresh call) (fs : FileSystem)
    (r : LintRequest) {others : List SessionStep}
    (foreign : ∀ step ∈ others, step.event.call ≠ call) (a : Answer) :
    (((s.start fs call r).replay others).answer call a).outcome? call =
      some (s.linter.callOutcome fs r a) := by
  have frame := replay_frame others foreign (s.start fs call r)
  cases prepared : s.linter.prepare fs r.document r.folders with
  | nothing =>
      simp only [start, prepared] at frame ⊢
      rw [answer_of_not_waiting (frame.1.trans fresh.waits_not), frame.2, Linter.callOutcome,
        prepared]
      exact lookup_append_self fresh.ends_not _
  | failed fault =>
      simp only [start, prepared] at frame ⊢
      rw [answer_of_not_waiting (frame.1.trans fresh.waits_not), frame.2, Linter.callOutcome,
        prepared]
      exact lookup_append_self fresh.ends_not _
  | run i debug =>
      obtain ⟨waits, unfinished⟩ := waits_until_answered fresh prepared foreign
      rw [answer_of_waiting waits, outcome?_settle unfinished, Linter.callOutcome, prepared]

end Session

end LintBridge
