import LintBridge.Proofs.Linter.History
import Mathlib.Data.List.Nodup

/-!
# Batches of calls

The calls of a batch start in its order, and those that run their commands are told what came of
them in any order and at any time after that. Whatever the order is, a call stands where its own
events have brought it (`Batch.standing`), and the linter is still on exactly if no call was told
that the executable is missing (`Batch.isOn_iff`). As long as it is, the commands are those of the
calls that have started, and the log holds the lines of these calls and of what they were told
(`Batch.runs_eq_and_log_perm`).
-/
set_option autoImplicit false

namespace LintBridge

/-- A call that is to be made: the files as it finds them, and what it is asked for. -/
structure Opening where
  files : FileSystem
  request : LintRequest

namespace Linter

/-- What a linter has to do first in a call. -/
def taskOf (l : Linter) (c : Opening) : Task :=
  l.prepare c.files c.request.document c.request.folders

/-- How a call ends that is alone with a linter and told an answer. -/
def outcomeOf (l : Linter) (c : Opening) (a : Answer) : LintOutcome :=
  l.callOutcome c.files c.request a

theorem outcomeOf_of_nothing {l : Linter} {c : Opening} (left : l.taskOf c = .nothing)
    (a : Answer) : l.outcomeOf c a = .ok [] := by
  rw [taskOf] at left
  rw [outcomeOf, callOutcome, left]

theorem outcomeOf_of_failed {l : Linter} {c : Opening} {fault : LintFault}
    (broken : l.taskOf c = .failed fault) (a : Answer) : l.outcomeOf c a = .error fault := by
  rw [taskOf] at broken
  rw [outcomeOf, callOutcome, broken]

theorem outcomeOf_of_run {l : Linter} {c : Opening} {i : Invocation} {debug : LogEntry}
    (ready : l.taskOf c = .run i debug) (a : Answer) : l.outcomeOf c a = Answer.outcome a := by
  rw [taskOf] at ready
  rw [outcomeOf, callOutcome, ready]

/-- The command that a call runs, and the line that announces it. -/
def launch? (l : Linter) (c : Opening) : Option (Invocation × LogEntry) :=
  match l.taskOf c with
  | .run i debug => some (i, debug)
  | _ => none

theorem launch?_eq_some_iff {l : Linter} {c : Opening} {i : Invocation} {debug : LogEntry} :
    l.launch? c = some (i, debug) ↔ l.taskOf c = .run i debug := by
  unfold launch?
  cases l.taskOf c <;> simp

theorem launch?_eq_none_iff {l : Linter} {c : Opening} :
    l.launch? c = none ↔ ¬ (l.taskOf c).IsRun := by
  unfold launch? Task.IsRun
  cases l.taskOf c <;> simp

end Linter

namespace Session

/-- What can come of a batch of calls, with the number of those that have started, and what was told
to whom, in order of time. Only a call that waits can be told something. -/
inductive Batch (calls : List Opening) (l : Linter) : Nat → List (Nat × Answer) → Session → Prop
    where
  | nothing : Batch calls l 0 [] { linter := l }
  | started {n : Nat} {told : List (Nat × Answer)} {s : Session} (earlier : Batch calls l n told s)
      (c : Opening) (next : calls[n]? = some c) :
      Batch calls l (n + 1) told (s.start c.files n c.request)
  | answered {n : Nat} {told : List (Nat × Answer)} {s : Session}
      (earlier : Batch calls l n told s) {call : Nat} {d : Document}
      (waits : s.waiting.lookup call = some d) (a : Answer) :
      Batch calls l n (told ++ [(call, a)]) (s.answer call a)

section

variable {calls : List Opening} {l : Linter} {n : Nat} {told : List (Nat × Answer)} {s : Session}

/-! ## The linter -/

theorem start_linter (s : Session) (fs : FileSystem) (call : Nat) (r : LintRequest) :
    (s.start fs call r).linter = s.linter := by
  unfold start
  split <;> rfl

theorem Batch.linter_eq (batch : Batch calls l n told s) :
    s.linter = { l with isOn := l.isOn && told.all fun e => !Answer.isUnavailable e.2 } := by
  induction batch with
  | nothing => simp
  | started earlier c next ih => rw [start_linter, ih]
  | answered earlier waits a ih =>
      rw [answer_of_waiting waits, settle, Linter.conclude_linter, ih]
      simp [Bool.and_assoc]

/-- A linter is on as long as no call was told that the executable is missing. -/
theorem Batch.isOn_iff (batch : Batch calls l n told s) :
    s.linter.isOn = true ↔ l.isOn = true ∧ ∀ e ∈ told, Answer.isUnavailable e.2 = false := by
  rw [batch.linter_eq]
  simp

theorem Batch.linter_eq_of_on (batch : Batch calls l n told s) (stillOn : s.linter.isOn = true) :
    s.linter = l := by
  have found : (told.all fun e => !Answer.isUnavailable e.2) = true := by
    simpa using (batch.isOn_iff.1 stillOn).2
  rw [batch.linter_eq, found, Bool.and_true]

/-! ## Where a call stands -/

/-- Where a call of a batch stands: it has not started, was left alone or failed before there was
anything to run, waits for what comes of its command, or has been told. -/
inductive Standing (calls : List Opening) (l : Linter) (n : Nat) (told : List (Nat × Answer))
    (s : Session) (call : Nat) : Prop where
  | ahead (later : n ≤ call) (fresh : s.IsFresh call) (idle : ∀ i, (call, i) ∉ s.runs)
      (untold : ∀ a, (call, a) ∉ told)
  | leftAlone (before : call < n) (c : Opening) (asked : calls[call]? = some c)
      (waits_not : s.waiting.lookup call = none) (idle : ∀ i, (call, i) ∉ s.runs)
      (untold : ∀ a, (call, a) ∉ told)
      -- what starts after the linter was turned off is left alone whatever it is
      (outcome : s.linter.isOn = true →
        ¬ (l.taskOf c).IsRun ∧ ∀ a, s.outcome? call = some (l.outcomeOf c a))
  | waiting (before : call < n) (c : Opening) (asked : calls[call]? = some c) (i : Invocation)
      (debug : LogEntry) (ready : l.taskOf c = .run i debug)
      (ran : ∀ i', (call, i') ∈ s.runs ↔ i' = i)
      (waits : s.waiting.lookup call = some c.request.document) (untold : ∀ a, (call, a) ∉ told)
      (unfinished : s.outcome? call = none)
  | ended (before : call < n) (c : Opening) (asked : calls[call]? = some c) (i : Invocation)
      (debug : LogEntry) (ready : l.taskOf c = .run i debug)
      (ran : ∀ i', (call, i') ∈ s.runs ↔ i' = i) (waits_not : s.waiting.lookup call = none)
      (a : Answer) (heard : ∀ a', (call, a') ∈ told ↔ a' = a)
      (outcome : s.outcome? call = some (Answer.outcome a))

/-- What happens to other calls does not change where a call stands. -/
theorem Standing.frame {n' : Nat} {told' : List (Nat × Answer)} {s' : Session} {call : Nat}
    (standing : Standing calls l n told s call) (number : n ≤ n' ∧ (n ≤ call → n' ≤ call))
    (waiting : s'.waiting.lookup call = s.waiting.lookup call)
    (outcome : s'.outcome? call = s.outcome? call)
    (runs : ∀ i, (call, i) ∈ s'.runs ↔ (call, i) ∈ s.runs)
    (heard : ∀ a, (call, a) ∈ told' ↔ (call, a) ∈ told)
    (sticky : s'.linter.isOn = true → s.linter.isOn = true) :
    Standing calls l n' told' s' call := by
  cases standing with
  | ahead later fresh idle untold =>
      refine .ahead (number.2 later) ⟨waiting.trans fresh.1, outcome.trans fresh.2⟩ ?_ ?_
      · intro i
        rw [runs]
        exact idle i
      · intro a
        rw [heard]
        exact untold a
  | leftAlone before c asked waits_not idle untold ends =>
      refine .leftAlone (by omega) c asked (waiting.trans waits_not) ?_ ?_ ?_
      · intro i
        rw [runs]
        exact idle i
      · intro a
        rw [heard]
        exact untold a
      · intro stillOn
        rw [outcome]
        exact ends (sticky stillOn)
  | waiting before c asked i debug ready ran waits untold unfinished =>
      refine .waiting (by omega) c asked i debug ready (fun i' => (runs i').trans (ran i'))
        (waiting.trans waits) ?_ (outcome.trans unfinished)
      intro a
      rw [heard]
      exact untold a
  | ended before c asked i debug ready ran waits_not a hears ends =>
      exact .ended (by omega) c asked i debug ready (fun i' => (runs i').trans (ran i'))
        (waiting.trans waits_not) a (fun a' => (heard a').trans (hears a')) (outcome.trans ends)

theorem Standing.isFresh_of_le {call : Nat} (standing : Standing calls l n told s call)
    (later : n ≤ call) :
    s.IsFresh call ∧ (∀ i, (call, i) ∉ s.runs) ∧ ∀ a, (call, a) ∉ told := by
  cases standing with
  | ahead later fresh idle untold => exact ⟨fresh, idle, untold⟩
  | leftAlone before => omega
  | waiting before => omega
  | ended before => omega

theorem Standing.of_waits {call : Nat} {d : Document} (standing : Standing calls l n told s call)
    (waits : s.waiting.lookup call = some d) :
    ∃ c i debug, calls[call]? = some c ∧ d = c.request.document ∧ call < n ∧
      l.taskOf c = .run i debug ∧ (∀ i', (call, i') ∈ s.runs ↔ i' = i) ∧
      (∀ a, (call, a) ∉ told) ∧ s.outcome? call = none := by
  cases standing with
  | ahead later fresh => cases fresh.waits_not.symm.trans waits
  | leftAlone before c asked waits_not => cases waits_not.symm.trans waits
  | waiting before c asked i debug ready ran waits' untold unfinished =>
      have same := Option.some.inj (waits.symm.trans waits')
      exact ⟨c, i, debug, asked, same, before, ready, ran, untold, unfinished⟩
  | ended before c asked i debug ready ran waits_not => cases waits_not.symm.trans waits

theorem Standing.of_start (batch : Batch calls l n told s)
    (standing : ∀ call, Standing calls l n told s call) (c : Opening) (next : calls[n]? = some c)
    (call : Nat) : Standing calls l (n + 1) told (s.start c.files n c.request) call := by
  have sticky : (s.start c.files n c.request).linter.isOn = true → s.linter.isOn = true := by
    rw [start_linter]
    exact id
  have move : Move c.files s (.started n c.request) (s.start c.files n c.request) :=
    feed_move c.files s _
  generalize s.start c.files n c.request = s' at move sticky ⊢
  by_cases own : call = n
  · subst own
    obtain ⟨fresh, idle, untold⟩ := (standing call).isFresh_of_le (Nat.le_refl _)
    cases move with
    | skipped _ _ left =>
        refine .leftAlone (by omega) c next fresh.waits_not idle untold fun stillOn => ?_
        rw [batch.linter_eq_of_on (sticky stillOn)] at left
        refine ⟨fun ⟨i, debug, ready⟩ => (by cases left.symm.trans ready), fun a => ?_⟩
        rw [Linter.outcomeOf_of_nothing left]
        exact lookup_append_self fresh.ends_not _
    | failed _ _ fault broken =>
        refine .leftAlone (by omega) c next fresh.waits_not idle untold fun stillOn => ?_
        rw [batch.linter_eq_of_on (sticky stillOn)] at broken
        refine ⟨fun ⟨i, debug, ready⟩ => (by cases broken.symm.trans ready), fun a => ?_⟩
        rw [Linter.outcomeOf_of_failed broken]
        exact lookup_append_self fresh.ends_not _
    | launched _ _ i debug ready =>
        have stillOn := (Linter.prepare_eq_run ready).1.on
        rw [batch.linter_eq_of_on stillOn] at ready
        exact .waiting (by omega) c next i debug ready (fun i' => by simp [launch, idle])
          (lookup_append_self fresh.waits_not _) untold fresh.ends_not
  · have apart : SessionEvent.call (.started n c.request) ≠ call := Ne.symm own
    obtain ⟨waiting, outcome⟩ := move.frame apart
    refine (standing call).frame ⟨by omega, by omega⟩ waiting outcome ?_ (fun _ => Iff.rfl) sticky
    intro i
    cases move with
    | skipped => rfl
    | failed => rfl
    | launched _ _ i' debug ready => simp [launch, own]

theorem Standing.of_answer (standing : ∀ call, Standing calls l n told s call)
    {call : Nat} {d : Document} (waits : s.waiting.lookup call = some d) (a : Answer)
    (other : Nat) : Standing calls l n (told ++ [(call, a)]) (s.answer call a) other := by
  obtain ⟨c, i, debug, asked, -, before, ready, ran, untold, unfinished⟩ :=
    (standing call).of_waits waits
  rw [answer_of_waiting waits]
  by_cases own : other = call
  · subst own
    exact .ended before c asked i debug ready ran (lookup_filter_self _ _) a
      (fun a' => by simp [untold]) (outcome?_settle unfinished d a)
  · refine (standing other).frame ⟨by omega, id⟩ (lookup_filter_ne own _)
      (lookup_append_ne own _ _) (fun _ => Iff.rfl) ?_ ?_
    · intro b
      simp [own]
    · intro stillOn
      rw [settle, Linter.conclude_linter] at stillOn
      exact (Bool.and_eq_true_iff.1 stillOn).1

/-- Every call of a batch stands where its own events have brought it. -/
theorem Batch.standing (batch : Batch calls l n told s) (call : Nat) :
    Standing calls l n told s call := by
  induction batch generalizing call with
  | nothing =>
      exact .ahead (Nat.zero_le _) ⟨rfl, rfl⟩ (fun _ => List.not_mem_nil)
        (fun _ => List.not_mem_nil)
  | started earlier c next ih => exact .of_start earlier ih c next call
  | answered earlier waits a ih => exact .of_answer ih waits a call

theorem Batch.before_of_told (batch : Batch calls l n told s) {e : Nat × Answer}
    (heard : e ∈ told) : e.1 < n := by
  apply Nat.lt_of_not_le
  intro later
  exact ((batch.standing e.1).isFresh_of_le later).2.2 e.2 heard

/-- No call is told twice. -/
theorem Batch.told_nodup (batch : Batch calls l n told s) : told.Nodup := by
  induction batch with
  | nothing => exact .nil
  | started earlier c next ih => exact ih
  | answered earlier waits a ih =>
      obtain ⟨-, -, -, -, -, -, -, -, untold, -⟩ := (earlier.standing _).of_waits waits
      rw [← List.concat_eq_append]
      exact ih.concat (untold a)

theorem Batch.told_unique (batch : Batch calls l n told s) {call : Nat} {a a' : Answer}
    (heard : (call, a) ∈ told) (heard' : (call, a') ∈ told) : a = a' := by
  cases batch.standing call with
  | ahead later fresh idle untold => exact absurd heard (untold a)
  | leftAlone before c asked waits_not idle untold => exact absurd heard (untold a)
  | waiting before c asked i debug ready ran waits untold => exact absurd heard (untold a)
  | ended before c asked i debug ready ran waits_not b told =>
      exact ((told a).1 heard).trans ((told a').1 heard').symm

/-- Whatever calls are told can be seen as answers that they have from the start. -/
theorem Batch.exists_answers (batch : Batch calls l n told s) :
    ∃ answers : Nat → Answer, ∀ e ∈ told, e.2 = answers e.1 := by
  classical
  refine ⟨fun call => if heard : ∃ a, (call, a) ∈ told then heard.choose else .error .cancelled,
    fun e heard => ?_⟩
  have some' : ∃ a, (e.1, a) ∈ told := ⟨e.2, heard⟩
  simp only [dif_pos some']
  exact batch.told_unique heard some'.choose_spec

/-! ## What was run and logged -/

/-- The commands of the first calls of a batch, for a linter that is on, with the numbers of the
calls and the lines that announce the commands. -/
def launchesOf (calls : List Opening) (l : Linter) (n : Nat) :
    List (Nat × Invocation × LogEntry) :=
  (List.range n).filterMap fun call => (calls[call]?.bind l.launch?).map (call, ·)

/-- The lines that are logged when a call is told an answer. -/
def linesOf (calls : List Opening) (l : Linter) (e : Nat × Answer) : List LogEntry :=
  match calls[e.1]? with
  | none => []
  | some c => (l.conclude c.request.document e.2).log

theorem launchesOf_succ (l : Linter) {c : Opening} (next : calls[n]? = some c) :
    launchesOf calls l (n + 1) = launchesOf calls l n ++ ((l.launch? c).map (n, ·)).toList := by
  rw [launchesOf, List.range_succ, List.filterMap_append, launchesOf]
  cases launched : l.launch? c <;> simp [next, launched]

theorem map_launchesOf (l : Linter) (calls : List Opening) :
    (launchesOf calls l calls.length).map Prod.snd = calls.filterMap l.launch? := by
  have prefixes (n : Nat) (bound : n ≤ calls.length) :
      (launchesOf calls l n).map Prod.snd = (calls.take n).filterMap l.launch? := by
    induction n with
    | zero => rfl
    | succ n ih =>
        have next := List.getElem?_eq_getElem (Nat.lt_of_succ_le bound)
        rw [launchesOf_succ l next, List.map_append, ih (Nat.le_of_succ_le bound),
          List.take_add_one, next, List.filterMap_append]
        cases launched : l.launch? calls[n] <;> simp [launched]
  rw [prefixes calls.length (Nat.le_refl _), List.take_length]

theorem start_records (s : Session) (n : Nat) (c : Opening) :
    (s.start c.files n c.request).runs =
        s.runs ++ ((s.linter.launch? c).map fun launch => (n, launch.1)).toList ∧
      (s.start c.files n c.request).log =
        s.log ++ ((s.linter.launch? c).map Prod.snd).toList ∧
      (s.start c.files n c.request).waiting =
        s.waiting ++ ((s.linter.launch? c).map fun _ => (n, c.request.document)).toList := by
  simp only [start, Linter.launch?, Linter.taskOf]
  cases s.linter.prepare c.files c.request.document c.request.folders <;> simp [finish]

/-- A linter that is on has run the commands of all calls that have started, in their order, and
logged the lines of these calls and of what they were told. -/
theorem Batch.runs_eq_and_log_perm (batch : Batch calls l n told s)
    (stillOn : s.linter.isOn = true) :
    s.runs = (launchesOf calls l n).map (fun e => (e.1, e.2.1)) ∧
      s.log.Perm
        ((launchesOf calls l n).map (fun e => e.2.2) ++ told.flatMap (linesOf calls l)) := by
  induction batch with
  | nothing => exact ⟨rfl, .nil⟩
  | @started n told s earlier c next ih =>
      rw [start_linter] at stillOn
      obtain ⟨runs, log⟩ := ih stillOn
      obtain ⟨runs', log', -⟩ := start_records s n c
      rw [earlier.linter_eq_of_on stillOn] at runs' log'
      rw [launchesOf_succ l next, List.map_append, List.map_append, runs', log', runs]
      cases l.launch? c with
      | none => simpa using log
      | some launch =>
          refine ⟨rfl, ?_⟩
          -- the line that announces the command goes in front of those for earlier answers
          rw [List.append_assoc]
          refine (log.append_right _).trans ?_
          rw [List.append_assoc]
          exact List.perm_append_comm.append_left _
  | @answered n told s earlier call d waits a ih =>
      rw [answer_of_waiting waits] at stillOn ⊢
      rw [settle, Linter.conclude_linter] at stillOn
      have before := (Bool.and_eq_true_iff.1 stillOn).1
      obtain ⟨runs, log⟩ := ih before
      obtain ⟨c, i, debug, asked, rfl, -⟩ := (earlier.standing call).of_waits waits
      have lines : linesOf calls l (call, a) = (l.conclude c.request.document a).log := by
        simp [linesOf, asked]
      refine ⟨runs, ?_⟩
      rw [List.flatMap_append, List.flatMap_singleton, lines, ← List.append_assoc, settle,
        earlier.linter_eq_of_on before]
      exact log.append_right _

theorem Batch.runs_nodup (batch : Batch calls l n told s) : s.runs.Nodup := by
  induction batch with
  | nothing => exact .nil
  | @started n told s earlier c next ih =>
      rw [(start_records s n c).1]
      cases launched : s.linter.launch? c with
      | none => simpa using ih
      | some launch =>
          have idle := ((earlier.standing n).isFresh_of_le (Nat.le_refl n)).2.1 launch.1
          rw [Option.map_some, Option.toList_some, ← List.concat_eq_append]
          exact ih.concat idle
  | answered earlier waits a ih =>
      rw [answer_of_waiting waits]
      exact ih

end

end Session

end LintBridge
