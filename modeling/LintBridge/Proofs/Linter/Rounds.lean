import LintBridge.Linter.Rounds
import LintBridge.Proofs.Linter.Batch
import LintBridge.Proofs.Linter.Schedule

/-!
# Linting together

When documents are linted together, the replies take any number of rounds each and arrive in the
order of the rounds. Whatever the numbers are, what happens is a batch whose calls are told what the
runner replied to them, and after the greatest number of rounds none waits (`lintAll_served`). If
the replies are the answers of the calls, this is one of their complete schedules
(`lintAll_schedule`).
-/
set_option autoImplicit false

namespace LintBridge

/-- The number of the calls before a call whose commands are run by a linter that is on. -/
def Session.rank (fs : FileSystem) (requests : List LintRequest) (l : Linter) (call : Nat) : Nat :=
  (requests.take call).countP fun r => decide (l.prepare fs r.document r.folders).IsRun

/-- A runner that gives each call its own answer, after any number of rounds. -/
def Runner.Assigns (runner : Runner) (fs : FileSystem) (requests : List LintRequest) (l : Linter)
    (answers : Nat → Answer) : Prop :=
  ∀ call r i debug, requests[call]? = some r → l.prepare fs r.document r.folders = .run i debug →
    (runner (Session.rank fs requests l call) i).answer = answers call

/-- An answer that a call gets if a runner replies to its command, given all that were run. -/
def Runner.Replies (runner : Runner) (runs : List (Nat × Invocation)) (e : Nat × Answer) :
    Prop :=
  ∃ m i, runs[m]? = some (e.1, i) ∧ e.2 = (runner m i).answer

/-- A reply that is still on its way to its call. -/
structure Pending.IsDue (runner : Runner) (runs : List (Nat × Invocation)) (p : Pending) :
    Prop where
  replies : runner.Replies runs (p.call, p.answer)
  rounds_pos : 0 < p.rounds

theorem Runner.Replies.append {runner : Runner} {runs : List (Nat × Invocation)}
    {e : Nat × Answer} (replies : runner.Replies runs e) (more : List (Nat × Invocation)) :
    runner.Replies (runs ++ more) e := by
  obtain ⟨m, i, ran, same⟩ := replies
  have bound := (List.getElem?_eq_some_iff.1 ran).1
  exact ⟨m, i, (List.getElem?_append_left bound).trans ran, same⟩

theorem Runner.Replies.of_append {runner : Runner} {runs more : List (Nat × Invocation)}
    {e : Nat × Answer} (replies : runner.Replies (runs ++ more) e)
    (foreign : ∀ ran ∈ more, ran.1 ≠ e.1) : runner.Replies runs e := by
  obtain ⟨m, i, ran, same⟩ := replies
  by_cases bound : m < runs.length
  · exact ⟨m, i, (List.getElem?_append_left bound).symm.trans ran, same⟩
  · rw [List.getElem?_append_right (Nat.le_of_not_lt bound)] at ran
    exact absurd rfl (foreign _ (List.mem_of_getElem? ran))

namespace Session

/-- A batch for some files and requests whose calls were told what a runner replied to them. -/
structure Served (fs : FileSystem) (runner : Runner) (requests : List LintRequest) (l : Linter)
    (n : Nat) (told : List (Nat × Answer)) (s : Session) : Prop where
  batch : Batch (requests.map (Opening.mk fs)) l n told s
  replied : ∀ e ∈ told, runner.Replies s.runs e

section

variable {fs : FileSystem} {requests : List LintRequest} {answers : Nat → Answer} {l : Linter}
  {n : Nat} {told : List (Nat × Answer)} {s : Session} {runner : Runner}

theorem runs_answer (s : Session) (call : Nat) (a : Answer) : (s.answer call a).runs = s.runs := by
  cases waits : s.waiting.lookup call with
  | none => rw [answer_of_not_waiting waits]
  | some d =>
      rw [answer_of_waiting waits]
      rfl

theorem mem_waiting_answer {call : Nat} {a : Answer} {entry : Nat × Document}
    (member : entry ∈ (s.answer call a).waiting) : entry ∈ s.waiting ∧ entry.1 ≠ call := by
  cases waits : s.waiting.lookup call with
  | none =>
      rw [answer_of_not_waiting waits] at member
      have apart := List.lookup_eq_none_iff.1 waits entry member
      exact ⟨member, fun same => by simp [same] at apart⟩
  | some d =>
      rw [answer_of_waiting waits] at member
      obtain ⟨member, apart⟩ := List.mem_filter.1 member
      exact ⟨member, by simpa using apart⟩

theorem Served.nothing : Served fs runner requests l 0 [] { linter := l } :=
  ⟨.nothing, fun _ heard => by cases heard⟩

theorem Served.started (served : Served fs runner requests l n told s) {r : LintRequest}
    (asked : requests[n]? = some r) :
    Served fs runner requests l (n + 1) told (s.start fs n r) := by
  have next : (requests.map (Opening.mk fs))[n]? = some ⟨fs, r⟩ := by
    rw [List.getElem?_map, asked, Option.map_some]
  refine ⟨served.batch.started ⟨fs, r⟩ next, fun e heard => ?_⟩
  rw [(start_records s n ⟨fs, r⟩).1]
  exact (served.replied e heard).append _

/-- A reply is told to its call if that still waits, and is lost on it otherwise. -/
theorem Served.answered (served : Served fs runner requests l n told s) {call : Nat} {a : Answer}
    (replies : runner.Replies s.runs (call, a)) :
    ∃ told', Served fs runner requests l n told' (s.answer call a) := by
  cases waits : s.waiting.lookup call with
  | none =>
      rw [answer_of_not_waiting waits]
      exact ⟨told, served⟩
  | some d =>
      refine ⟨told ++ [(call, a)], served.batch.answered waits a, fun e heard => ?_⟩
      rw [runs_answer]
      rcases List.mem_append.1 heard with heard | heard
      · exact served.replied e heard
      · rw [List.mem_singleton.1 heard]
        exact replies

/-! ## Starting -/

/-- What comes of starting calls: more commands that were run, replies that are due, and no call
that waits for another one. -/
structure Begins (runner : Runner) (s : Session) (after : Session × List Pending) : Prop where
  runs : ∃ more, after.1.runs = s.runs ++ more
  due : ∀ p ∈ after.2, p.IsDue runner after.1.runs
  waits : ∀ entry ∈ after.1.waiting, entry ∈ s.waiting ∨ entry.1 ∈ after.2.map Pending.call

theorem begin_served (served : Served fs runner requests l n told s) {r : LintRequest}
    (asked : requests[n]? = some r) :
    let after := s.begin fs runner n r
    (∃ told', Served fs runner requests l (n + 1) told' after.1) ∧ Begins runner s after := by
  intro after
  have started := served.started asked
  obtain ⟨runs, -, waiting⟩ := start_records s n ⟨fs, r⟩
  simp only at runs waiting
  cases launched : s.linter.launch? ⟨fs, r⟩ with
  | none =>
      rw [launched, Option.map_none, Option.toList_none, List.append_nil] at runs waiting
      have after_eq : after = (s.start fs n r, []) := by
        simp only [after, begin, runs, List.drop_length]
      rw [after_eq]
      refine ⟨⟨told, started⟩, ⟨[], ?_⟩, by simp, fun entry member => Or.inl ?_⟩
      · rw [runs, List.append_nil]
      · rw [← waiting]
        exact member
  | some launch =>
      rw [launched, Option.map_some, Option.toList_some] at runs waiting
      have replies : runner.Replies (s.start fs n r).runs
          (n, (runner s.runs.length launch.1).answer) := by
        refine ⟨s.runs.length, launch.1, ?_, rfl⟩
        rw [runs, List.getElem?_concat_length]
      have after_eq : after =
          if (runner s.runs.length launch.1).rounds = 0 then
            ((s.start fs n r).answer n (runner s.runs.length launch.1).answer, [])
          else (s.start fs n r, [⟨n, (runner s.runs.length launch.1).answer,
            (runner s.runs.length launch.1).rounds⟩]) := by
        simp only [after, begin, runs, List.drop_left']
      rw [after_eq]
      -- a reply that takes no round is an answer before the next call starts
      split
      · refine ⟨started.answered replies, ⟨[(n, launch.1)], ?_⟩, by simp, fun entry member => ?_⟩
        · rw [runs_answer, runs]
        · obtain ⟨member, apart⟩ := mem_waiting_answer member
          rw [waiting] at member
          rcases List.mem_append.1 member with member | member
          · exact Or.inl member
          · rw [List.mem_singleton.1 member] at apart
            exact absurd rfl apart
      · rename_i late
        refine ⟨⟨told, started⟩, ⟨[(n, launch.1)], runs⟩, ?_, fun entry member => ?_⟩
        · intro p member
          rw [List.mem_singleton.1 member]
          exact ⟨replies, Nat.pos_of_ne_zero late⟩
        · rw [waiting] at member
          rcases List.mem_append.1 member with member | member
          · exact Or.inl member
          · rw [List.mem_singleton.1 member]
            exact Or.inr (by simp)

theorem beginAll_served (before rest : List LintRequest) (split : requests = before ++ rest)
    (served : Served fs runner requests l before.length told s) :
    let after := s.beginAll fs runner before.length rest
    (∃ told', Served fs runner requests l requests.length told' after.1) ∧
      Begins runner s after := by
  induction rest generalizing before told s with
  | nil =>
      rw [List.append_nil] at split
      refine ⟨⟨told, ?_⟩, ⟨[], by simp [beginAll]⟩, by simp [beginAll], fun entry => Or.inl⟩
      rw [split] at served ⊢
      exact served
  | cons r more ih =>
      have asked : requests[before.length]? = some r := by simp [split]
      obtain ⟨⟨told', served'⟩, begins⟩ := begin_served served asked
      have length : (before ++ [r]).length = before.length + 1 := by simp
      obtain ⟨all, begins'⟩ := ih (before ++ [r]) (by simp [split]) (length ▸ served')
      rw [length] at all begins'
      refine ⟨all, ?_, ?_, ?_⟩
      · obtain ⟨launched, runs⟩ := begins.runs
        obtain ⟨launched', runs'⟩ := begins'.runs
        refine ⟨launched ++ launched', ?_⟩
        rw [← List.append_assoc, ← runs]
        exact runs'
      · intro p member
        rcases List.mem_append.1 member with member | member
        · obtain ⟨launched', runs'⟩ := begins'.runs
          obtain ⟨replies, rounds_pos⟩ := begins.due p member
          have replies' := replies.append launched'
          rw [← runs'] at replies'
          exact ⟨replies', rounds_pos⟩
        · exact begins'.due p member
      · intro entry member
        simp only [beginAll, List.map_append, List.mem_append]
        rcases begins'.waits entry member with member | member
        · rcases begins.waits entry member with member | member
          · exact Or.inl member
          · exact Or.inr (Or.inl member)
        · exact Or.inr (Or.inr member)

/-! ## Rounds -/

/-- What comes of a round: no command is run, no call waits for a reply that has arrived, and no
reply takes as many rounds as before. -/
structure Rounds (runner : Runner) (s : Session) (pending : List Pending)
    (after : Session × List Pending) : Prop where
  runs : after.1.runs = s.runs
  due : ∀ p ∈ after.2, p.IsDue runner s.runs
  waits : ∀ entry ∈ after.1.waiting, entry ∈ s.waiting ∧
    (entry.1 ∈ pending.map Pending.call → entry.1 ∈ after.2.map Pending.call)
  fewer : ∀ bound, (∀ p ∈ pending, p.rounds ≤ bound + 1) → ∀ p ∈ after.2, p.rounds ≤ bound

theorem round_served (served : Served fs runner requests l n told s) (pending : List Pending)
    (due : ∀ p ∈ pending, p.IsDue runner s.runs) :
    (∃ told', Served fs runner requests l n told' (s.round pending).1) ∧
      Rounds runner s pending (s.round pending) := by
  induction pending generalizing told s with
  | nil => exact ⟨⟨told, served⟩, rfl, by simp [round], by simp [round], by simp [round]⟩
  | cons p more ih =>
      have due' : ∀ q ∈ more, q.IsDue runner s.runs := by
        intro q member
        exact due q (List.mem_cons_of_mem _ member)
      have first := due p (List.mem_cons_self ..)
      rw [round]
      split
      · obtain ⟨told', served'⟩ := served.answered first.replies
        rw [← runs_answer s p.call p.answer] at due'
        obtain ⟨served'', rounds⟩ := ih served' due'
        refine ⟨served'', rounds.runs.trans (runs_answer ..), ?_, fun entry member => ?_,
          fun bound all => ?_⟩
        · rw [← runs_answer s p.call p.answer]
          exact rounds.due
        · obtain ⟨member, kept⟩ := rounds.waits entry member
          obtain ⟨member, apart⟩ := mem_waiting_answer member
          refine ⟨member, fun listed => kept ?_⟩
          rw [List.map_cons, List.mem_cons] at listed
          exact listed.resolve_left apart
        · exact rounds.fewer bound fun q member => all q (List.mem_cons_of_mem _ member)
      · rename_i late
        obtain ⟨served', rounds⟩ := ih served due'
        refine ⟨served', rounds.runs, ?_, fun entry member => ?_, fun bound all q member => ?_⟩
        · intro q member
          rcases List.mem_cons.1 member with rfl | member
          · exact ⟨first.replies, show 0 < p.rounds - 1 by omega⟩
          · exact rounds.due q member
        · obtain ⟨member, kept⟩ := rounds.waits entry member
          refine ⟨member, fun listed => ?_⟩
          rw [List.map_cons, List.mem_cons] at listed ⊢
          exact listed.imp_right kept
        · rcases List.mem_cons.1 member with rfl | member
          · have bounded := all p (List.mem_cons_self ..)
            exact show p.rounds - 1 ≤ bound by omega
          · exact rounds.fewer bound (fun q' member' => all q' (List.mem_cons_of_mem _ member')) q
              member

/-- After as many rounds as any reply takes, no call waits for one. -/
theorem rounds_served (k : Nat) (served : Served fs runner requests l n told s)
    (pending : List Pending) (due : ∀ p ∈ pending, p.IsDue runner s.runs)
    (bounded : ∀ p ∈ pending, p.rounds ≤ k) :
    (∃ told', Served fs runner requests l n told' (s.rounds pending k)) ∧
      ∀ entry ∈ (s.rounds pending k).waiting,
        entry ∈ s.waiting ∧ entry.1 ∉ pending.map Pending.call := by
  induction k generalizing told s pending with
  | zero =>
      refine ⟨⟨told, served⟩, fun entry member => ⟨member, fun listed => ?_⟩⟩
      obtain ⟨p, member, -⟩ := List.mem_map.1 listed
      exact absurd (bounded p member) (Nat.not_le.2 (due p member).rounds_pos)
  | succ k ih =>
      obtain ⟨⟨told', served'⟩, rounds⟩ := round_served served pending due
      have due' := rounds.due
      rw [← rounds.runs] at due'
      obtain ⟨served'', waits⟩ := ih served' _ due' (rounds.fewer k bounded)
      refine ⟨served'', fun entry member => ?_⟩
      obtain ⟨member, missing⟩ := waits entry member
      obtain ⟨member, kept⟩ := rounds.waits entry member
      exact ⟨member, fun listed => missing (kept listed)⟩

theorem le_foldl_max (ns : List Nat) (start : Nat) :
    start ≤ ns.foldl max start ∧ ∀ n ∈ ns, n ≤ ns.foldl max start := by
  induction ns generalizing start with
  | nil => simp
  | cons n more ih =>
      obtain ⟨least, all⟩ := ih (max start n)
      rw [List.foldl_cons]
      refine ⟨by omega, fun m member => ?_⟩
      rcases List.mem_cons.1 member with rfl | member
      · omega
      · exact all m member

/-- Linting together is a batch whose calls are told what the runner replies, whatever the rounds
are that the replies take, and all calls have started and been told in the end. -/
theorem lintAll_served (fs : FileSystem) (runner : Runner) (requests : List LintRequest)
    (l : Linter) :
    (∃ told, Served fs runner requests l requests.length told
        (lintAll { linter := l } fs runner requests)) ∧
      (lintAll { linter := l } fs runner requests).waiting = [] := by
  have first : Served fs runner requests l 0 [] { linter := l } := .nothing
  obtain ⟨⟨told, served⟩, begins⟩ := beginAll_served [] requests rfl first
  rw [List.length_nil] at served begins
  generalize began : beginAll { linter := l } fs runner 0 requests = after at served begins
  obtain ⟨s, pending⟩ := after
  have bounded : ∀ p ∈ pending, p.rounds ≤ (pending.map Pending.rounds).foldl max 0 := by
    intro p member
    apply (le_foldl_max _ 0).2
    exact List.mem_map_of_mem member
  obtain ⟨served', waits⟩ := rounds_served _ served pending begins.due bounded
  rw [lintAll, began]
  refine ⟨served', List.eq_nil_iff_forall_not_mem.2 fun entry member => ?_⟩
  obtain ⟨member, missing⟩ := waits entry member
  rcases begins.waits entry member with member | member
  · cases member
  · exact missing member

/-- If no call waits any more, the reply to every command was told to its call. -/
theorem Served.told_of_run (served : Served fs runner requests l n told s)
    (none_waits : s.waiting = []) {m call : Nat} {i : Invocation}
    (ran : s.runs[m]? = some (call, i)) : (call, (runner m i).answer) ∈ told := by
  have runs := List.mem_of_getElem? ran
  cases served.batch.standing call with
  | ahead later fresh idle untold => exact absurd runs (idle i)
  | leftAlone before c asked waits_not idle untold => exact absurd runs (idle i)
  | waiting before c asked i' debug ready own waits =>
      rw [none_waits] at waits
      cases waits
  | ended before c asked i' debug ready own waits_not a heard =>
      obtain ⟨m', j, ran', same⟩ := served.replied (call, a) ((heard a).2 rfl)
      obtain rfl : j = i :=
        ((own j).1 (List.mem_of_getElem? ran')).trans ((own i).1 runs).symm
      have bound := (List.getElem?_eq_some_iff.1 ran).1
      obtain rfl : m = m' :=
        (List.getElem?_inj bound served.batch.runs_nodup).1 (ran.trans ran'.symm)
      exact (heard _).2 same.symm

/-! ## Replies that are the answers of the calls -/

theorem rank_succ (fs : FileSystem) (l : Linter) {call : Nat} {r : LintRequest}
    (asked : requests[call]? = some r) :
    rank fs requests l (call + 1) =
      rank fs requests l call + if (l.prepare fs r.document r.folders).IsRun then 1 else 0 := by
  rw [rank, List.take_add_one, asked, List.countP_append]
  simp [rank, List.countP_cons]

/-- A session that has run the commands of all calls before one, if its linter is still on. -/
def HasRunBefore (fs : FileSystem) (requests : List LintRequest) (l : Linter) (call : Nat)
    (s : Session) : Prop :=
  s.linter.isOn = true → s.runs.length = rank fs requests l call

/-- If the commands before a call have run in order and were replied to with the answers of their
calls, this stays so when the call starts. -/
theorem counted_of_start {r : LintRequest} (asked : requests[n]? = some r)
    (assigned : runner.Assigns fs requests l answers)
    (same : s.linter.isOn = true → s.linter = l) (counted : HasRunBefore fs requests l n s)
    (own : ∀ m e, s.runs[m]? = some e → (runner m e.2).answer = answers e.1) :
    HasRunBefore fs requests l (n + 1) (s.start fs n r) ∧
      ∀ m e, (s.start fs n r).runs[m]? = some e → (runner m e.2).answer = answers e.1 := by
  have succ := rank_succ fs l asked
  obtain ⟨runs, -⟩ := start_records s n ⟨fs, r⟩
  simp only at runs
  rw [HasRunBefore, start_linter, runs]
  cases launched : s.linter.launch? ⟨fs, r⟩ with
  | none =>
      rw [Option.map_none, Option.toList_none, List.append_nil]
      refine ⟨fun stillOn => ?_, own⟩
      have idle := Linter.launch?_eq_none_iff.1 launched
      rw [same stillOn, Linter.taskOf] at idle
      rw [succ, if_neg idle, counted stillOn, Nat.add_zero]
  | some launch =>
      have ready := Linter.launch?_eq_some_iff.1 launched
      have stillOn := (Linter.prepare_eq_run ready).1.on
      rw [same stillOn, Linter.taskOf] at ready
      have run : (l.prepare fs r.document r.folders).IsRun := ⟨launch.1, launch.2, ready⟩
      rw [Option.map_some, Option.toList_some]
      refine ⟨fun _ => ?_, fun m e ran => ?_⟩
      · rw [succ, if_pos run, List.length_append, counted stillOn, List.length_singleton]
      · rw [List.getElem?_append] at ran
        split at ran
        · exact own m e ran
        · -- the command of the call that starts
          rename_i notBefore
          rw [List.getElem?_singleton] at ran
          split at ran
          · obtain rfl := Option.some.inj ran
            have last : m = rank fs requests l n := by
              rw [← counted stillOn]
              omega
            rw [last]
            exact assigned n r launch.1 launch.2 asked ready
          · cases ran

/-- If the replies of the runner are the answers of the calls, its batches are schedules of them. -/
theorem Served.schedule (served : Served fs runner requests l n told s) (on : l.isOn = true)
    (sound : ∀ r ∈ requests, ∀ fault, l.prepare fs r.document r.folders ≠ .failed fault)
    (usual : ∀ call, ∃ ds, Answer.outcome (answers call) = .ok ds)
    (assigned : runner.Assigns fs requests l answers) :
    Schedule fs requests answers l (List.range n).reverse s ∧
      HasRunBefore fs requests l n s ∧
      ∀ m e, s.runs[m]? = some e → (runner m e.2).answer = answers e.1 := by
  obtain ⟨batch, replied⟩ := served
  induction batch with
  | nothing => exact ⟨.nothing, fun _ => rfl, by simp⟩
  | @started n told s earlier c next ih =>
      rw [List.getElem?_map, Option.map_eq_some_iff] at next
      obtain ⟨r, asked, rfl⟩ := next
      obtain ⟨runs, -⟩ := start_records s n ⟨fs, r⟩
      obtain ⟨schedule, counted, own⟩ := ih fun e heard => by
        have replies := replied e heard
        rw [runs] at replies
        refine replies.of_append fun ran member => ?_
        obtain ⟨launch, -, rfl⟩ := Option.map_eq_some_iff.1 (Option.mem_toList.1 member)
        exact Nat.ne_of_gt (earlier.before_of_told heard)
      have order : (List.range (n + 1)).reverse = n :: (List.range n).reverse := by
        simp [List.range_succ]
      refine ⟨order ▸ schedule.started n r asked (by simp), ?_⟩
      exact counted_of_start asked assigned ((schedule.accounts on sound usual).linter_eq on)
        counted own
  | @answered n told s earlier call d waits a ih =>
      rw [runs_answer] at replied ⊢
      obtain ⟨schedule, counted, own⟩ := ih fun e heard =>
        replied e (List.mem_append_left _ heard)
      obtain ⟨m, i, ran, same⟩ := replied (call, a) (List.mem_append_right _ (by simp))
      have answer_eq : a = answers call := same.trans (own m (call, i) ran)
      refine ⟨answer_eq ▸ schedule.answered call, fun stillOn => ?_, own⟩
      rw [runs_answer]
      apply counted
      rw [answer_of_waiting waits, settle, Linter.conclude_linter] at stillOn
      exact (Bool.and_eq_true_iff.1 stillOn).1

/-- Linting together is a complete schedule, whatever the rounds are that the replies take. -/
theorem lintAll_schedule (on : l.isOn = true)
    (sound : ∀ r ∈ requests, ∀ fault, l.prepare fs r.document r.folders ≠ .failed fault)
    (usual : ∀ call, ∃ ds, Answer.outcome (answers call) = .ok ds)
    (assigned : runner.Assigns fs requests l answers) :
    ∃ calls, Schedule fs requests answers l calls
        (lintAll { linter := l } fs runner requests) ∧
      Completes requests calls (lintAll { linter := l } fs runner requests) := by
  obtain ⟨⟨told, served⟩, none_waits⟩ := lintAll_served fs runner requests l
  obtain ⟨schedule, -⟩ := served.schedule on sound usual assigned
  refine ⟨_, schedule, fun call below => ?_, none_waits⟩
  rw [List.mem_reverse, List.mem_range]
  exact below

end

end Session

end LintBridge
