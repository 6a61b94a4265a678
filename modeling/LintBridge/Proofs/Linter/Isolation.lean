import LintBridge.Proofs.Linter.Batch

/-!
# Calls do not disturb each other

A call whose command was run ends as it would alone, whatever other calls do
(`Batch.outcome?_of_runs`). A complete schedule in which no call finds its executable missing is
therefore as good as any other of the same batch: only the order of the lines in the log differs.
-/
set_option autoImplicit false

namespace LintBridge.Session

/-- A schedule in which every call of a batch has started and none waits any more, each of them told
its own answer. -/
structure Fulfils (calls : List Opening) (l : Linter) (answers : Nat → Answer)
    (told : List (Nat × Answer)) (s : Session) : Prop where
  batch : Batch calls l calls.length told s
  own : ∀ e ∈ told, e.2 = answers e.1
  none_waits : s.waiting = []

/-- No call whose command would be run finds its executable missing. -/
def FindsAll (calls : List Opening) (l : Linter) (answers : Nat → Answer) : Prop :=
  ∀ call c, calls[call]? = some c → (l.taskOf c).IsRun → Answer.isUnavailable (answers call) = false

section

variable {calls : List Opening} {l : Linter} {answers : Nat → Answer} {n : Nat}
  {told : List (Nat × Answer)} {s : Session}

/-- A call whose command was run and that waits no longer has ended as it would alone. -/
theorem Batch.outcome?_of_runs (batch : Batch calls l n told s) {call : Nat} {i : Invocation}
    (runs : (call, i) ∈ s.runs) :
    ∃ c debug, calls[call]? = some c ∧ l.taskOf c = .run i debug ∧
      (s.waiting.lookup call = none →
        ∃ a, (call, a) ∈ told ∧ s.outcome? call = some (l.outcomeOf c a)) := by
  cases batch.standing call with
  | ahead later fresh idle untold => exact absurd runs (idle i)
  | leftAlone before c asked waits_not idle untold outcome => exact absurd runs (idle i)
  | waiting before c asked i' debug ready ran waits untold unfinished =>
      obtain rfl := (ran i).1 runs
      refine ⟨c, debug, asked, ready, fun ended => ?_⟩
      cases ended.symm.trans waits
  | ended before c asked i' debug ready ran waits_not a heard outcome =>
      obtain rfl := (ran i).1 runs
      refine ⟨c, debug, asked, ready, fun _ => ⟨a, (heard a).2 rfl, ?_⟩⟩
      rw [outcome, Linter.outcomeOf_of_run ready]

theorem Batch.isRun_of_told (batch : Batch calls l n told s) {e : Nat × Answer} (heard : e ∈ told) :
    ∃ c, calls[e.1]? = some c ∧ (l.taskOf c).IsRun := by
  cases batch.standing e.1 with
  | ahead later fresh idle untold => exact absurd heard (untold e.2)
  | leftAlone before c asked waits_not idle untold outcome => exact absurd heard (untold e.2)
  | waiting before c asked i debug ready ran waits untold => exact absurd heard (untold e.2)
  | ended before c asked i debug ready => exact ⟨c, asked, i, debug, ready⟩

/-- A call whose command was run waits until it is told something. -/
theorem Batch.waits_of_untold (batch : Batch calls l n told s) (stillOn : s.linter.isOn = true)
    {call : Nat} {c : Opening} (asked : calls[call]? = some c) (run : (l.taskOf c).IsRun)
    (before : call < n) (untold : ∀ a, (call, a) ∉ told) :
    s.waiting.lookup call = some c.request.document := by
  cases batch.standing call with
  | ahead later => omega
  | leftAlone _ c' asked' waits_not idle _ outcome =>
      obtain rfl := Option.some.inj (asked.symm.trans asked')
      exact absurd run (outcome stillOn).1
  | waiting _ c' asked' i debug ready ran waits =>
      obtain rfl := Option.some.inj (asked.symm.trans asked')
      exact waits
  | ended _ c' asked' i debug ready ran waits_not a heard =>
      exact absurd ((heard a).2 rfl) (untold a)

theorem Batch.waiting_eq_nil (batch : Batch calls l n told s)
    (heard : ∀ call < n, ∃ a, (call, a) ∈ told) : s.waiting = [] := by
  rw [List.eq_nil_iff_forall_not_mem]
  intro e member
  have listed : s.waiting.lookup e.1 ≠ none := by
    intro absent
    simpa using List.lookup_eq_none_iff.1 absent e member
  cases batch.standing e.1 with
  | ahead later fresh => exact listed fresh.waits_not
  | leftAlone before c asked waits_not => exact listed waits_not
  | waiting before c asked i debug ready ran waits untold =>
      obtain ⟨a, told⟩ := heard e.1 before
      exact untold a told
  | ended before c asked i debug ready ran waits_not => exact listed waits_not

theorem Fulfils.isOn (fulfils : Fulfils calls l answers told s) (on : l.isOn = true)
    (found : FindsAll calls l answers) : s.linter.isOn = true := by
  refine fulfils.batch.isOn_iff.2 ⟨on, fun e heard => ?_⟩
  obtain ⟨c, asked, run⟩ := fulfils.batch.isRun_of_told heard
  rw [fulfils.own e heard]
  exact found e.1 c asked run

/-- The calls that were told something are those whose commands are run. -/
theorem Fulfils.mem_told_iff (fulfils : Fulfils calls l answers told s)
    (stillOn : s.linter.isOn = true) (e : Nat × Answer) :
    e ∈ told ↔ e.2 = answers e.1 ∧ ∃ c, calls[e.1]? = some c ∧ (l.taskOf c).IsRun := by
  constructor
  · intro heard
    exact ⟨fulfils.own e heard, fulfils.batch.isRun_of_told heard⟩
  · rintro ⟨own, c, asked, run⟩
    have started := (List.getElem?_eq_some_iff.1 asked).1
    cases fulfils.batch.standing e.1 with
    | ahead later => omega
    | leftAlone before c' asked' waits_not idle untold outcome =>
        obtain rfl := Option.some.inj (asked.symm.trans asked')
        exact absurd run (outcome stillOn).1
    | waiting before c' asked' i debug ready ran waits =>
        rw [fulfils.none_waits] at waits
        cases waits
    | ended before c' asked' i debug ready ran waits_not a heard outcome =>
        have same : e.2 = a := own.trans (fulfils.own (e.1, a) ((heard a).2 rfl)).symm
        exact (heard e.2).2 same

theorem Fulfils.outcome?_eq (fulfils : Fulfils calls l answers told s)
    (stillOn : s.linter.isOn = true) (call : Nat) :
    s.outcome? call = calls[call]?.map fun c => l.outcomeOf c (answers call) := by
  cases fulfils.batch.standing call with
  | ahead later fresh => rw [fresh.ends_not, List.getElem?_eq_none later, Option.map_none]
  | leftAlone before c asked waits_not idle untold outcome =>
      rw [(outcome stillOn).2, asked, Option.map_some]
  | waiting before c asked i debug ready ran waits =>
      rw [fulfils.none_waits] at waits
      cases waits
  | ended before c asked i debug ready ran waits_not a heard outcome =>
      have same : a = answers call := fulfils.own (call, a) ((heard a).2 rfl)
      rw [outcome, asked, Option.map_some, Linter.outcomeOf_of_run ready, same]

/-- Two complete schedules of one batch in which no call finds its executable missing have told the
same calls the same, in orders of their own. -/
theorem Fulfils.told_perm {told' : List (Nat × Answer)} {s' : Session}
    (fulfils : Fulfils calls l answers told s) (fulfils' : Fulfils calls l answers told' s')
    (on : l.isOn = true) (found : FindsAll calls l answers) : told.Perm told' := by
  rw [List.perm_ext_iff_of_nodup fulfils.batch.told_nodup fulfils'.batch.told_nodup]
  intro e
  rw [fulfils.mem_told_iff (fulfils.isOn on found), fulfils'.mem_told_iff (fulfils'.isOn on found)]

/-- If no call of a batch finds its executable missing, it does not matter in which order the calls
are told their answers: all outcomes, the commands in their order, the lines of the log up to their
order and the linter in the end are the same. And even if some do, a call whose command was run ends
as its own document, folders and answer say. -/
theorem calls_are_isolated (on : l.isOn = true) :
    (FindsAll calls l answers → ∀ told s told' s', Fulfils calls l answers told s →
      Fulfils calls l answers told' s' →
        (∀ call, s.outcome? call = s'.outcome? call) ∧ s.runs = s'.runs ∧ s.log.Perm s'.log ∧
          s.linter = s'.linter) ∧
      ∀ n told s, Batch calls l n told s → (∀ e ∈ told, e.2 = answers e.1) →
        ∀ call i, (call, i) ∈ s.runs → ∃ c debug, calls[call]? = some c ∧
          l.taskOf c = .run i debug ∧ (s.waiting.lookup call = none →
            s.outcome? call = some (l.outcomeOf c (answers call))) := by
  constructor
  · intro found told s told' s' fulfils fulfils'
    have stillOn := fulfils.isOn on found
    have stillOn' := fulfils'.isOn on found
    obtain ⟨runs, log⟩ := fulfils.batch.runs_eq_and_log_perm stillOn
    obtain ⟨runs', log'⟩ := fulfils'.batch.runs_eq_and_log_perm stillOn'
    refine ⟨fun call => ?_, runs.trans runs'.symm, ?_, ?_⟩
    · rw [fulfils.outcome?_eq stillOn, fulfils'.outcome?_eq stillOn']
    · have heard := fulfils.told_perm fulfils' on found
      exact log.trans (((heard.flatMap_right _).append_left _).trans log'.symm)
    · rw [fulfils.batch.linter_eq_of_on stillOn, fulfils'.batch.linter_eq_of_on stillOn']
  · intro n told s batch own call i runs
    obtain ⟨c, debug, asked, ready, ends⟩ := batch.outcome?_of_runs runs
    refine ⟨c, debug, asked, ready, fun ended => ?_⟩
    obtain ⟨a, heard, outcome⟩ := ends ended
    have same : a = answers call := own (call, a) heard
    rw [outcome, same]

theorem calls_are_isolated_in_two_orders :
    let l := Linter.ofConfig { executable := some "shellcheck", cwd := some (Path.ofString "/srv") }
    let call (uri : String) : Opening := ⟨⟨[], []⟩, ⟨⟨uri, "echo a\n", "shellscript"⟩, []⟩⟩
    let calls := [call "untitled:1", call "untitled:2"]
    let late : Answer := .error (.timedOut "shellcheck" (Binary64.ofInt 30))
    let odd : Answer := .ok ⟨["shellcheck"], 0, "oops", ""⟩
    let answers (call : Nat) : Answer := if call = 0 then late else odd
    l.isOn = true ∧ FindsAll calls l answers ∧ ∃ s s',
      Fulfils calls l answers [(0, late), (1, odd)] s ∧
      Fulfils calls l answers [(1, odd), (0, late)] s' ∧
      (∀ call, s.outcome? call = s'.outcome? call) ∧ s.runs = s'.runs ∧ s.log.Perm s'.log ∧
        s.linter = s'.linter := by
  intro l call calls late odd answers
  have on : l.isOn = true := by decide +kernel
  have found : FindsAll calls l answers := by
    intro k c asked _
    simp only [answers]
    split <;> rfl
  have tell {told : List (Nat × Answer)} {s : Session} (batch : Batch calls l 2 told s)
      (known : ∀ e ∈ told, Answer.isUnavailable e.2 = false) (k : Nat) {c : Opening}
      (asked : calls[k]? = some c) (run : (l.taskOf c).IsRun) (bound : k < 2)
      (untold : ∀ a, (k, a) ∉ told) (a : Answer) :
      Batch calls l 2 (told ++ [(k, a)]) (s.answer k a) :=
    batch.answered
      (batch.waits_of_untold (batch.isOn_iff.2 ⟨on, known⟩) asked run bound untold) a
  have first : (l.taskOf (call "untitled:1")).IsRun := by decide +kernel
  have second : (l.taskOf (call "untitled:2")).IsRun := by decide +kernel
  have start : Batch calls l 0 [] { linter := l } := .nothing
  have begun := (start.started _ rfl).started _ rfl
  have inOrder := tell (tell begun (by simp) 0 rfl first (by decide) (by simp) late)
    (by simp [late, Answer.isUnavailable]) 1 rfl second (by decide) (by simp) odd
  have reversed := tell (tell begun (by simp) 1 rfl second (by decide) (by simp) odd)
    (by simp [odd, Answer.isUnavailable]) 0 rfl first (by decide) (by simp) late
  have all {told : List (Nat × Answer)} (zero : (0, late) ∈ told) (one : (1, odd) ∈ told) :
      ∀ k < 2, ∃ a, (k, a) ∈ told := by
    intro k bound
    obtain rfl | rfl : k = 0 ∨ k = 1 := by omega
    · exact ⟨late, zero⟩
    · exact ⟨odd, one⟩
  have fulfils : Fulfils calls l answers [(0, late), (1, odd)] _ :=
    ⟨inOrder, by simp [answers], inOrder.waiting_eq_nil (all (by simp) (by simp))⟩
  have fulfils' : Fulfils calls l answers [(1, odd), (0, late)] _ :=
    ⟨reversed, by simp [answers], reversed.waiting_eq_nil (all (by simp) (by simp))⟩
  exact ⟨on, found, _, _, fulfils, fulfils',
    (calls_are_isolated on).1 found _ _ _ _ fulfils fulfils'⟩

end

end LintBridge.Session
