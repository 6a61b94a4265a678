import LintBridge.Proofs.Linter.History

/-!
# Calls in any order

A schedule starts the calls for some requests in any order and delivers the answer to each of them
at any time. Whether a call that would find its executable missing ever runs its command depends on
the schedule, since another such call may have turned the linter off by then. What is left in the
end does not: the linter is off exactly if there is such a call, and if it is still on every call
has ended as it would alone.
-/
set_option autoImplicit false

namespace LintBridge.Session

/-- A call whose command would be run by a linter that is on. -/
def Runs (fs : FileSystem) (requests : List LintRequest) (l : Linter) (call : Nat) : Prop :=
  ∃ r, requests[call]? = some r ∧ (l.prepare fs r.document r.folders).IsRun

/-- A call that would find its executable missing. -/
def Misses (fs : FileSystem) (requests : List LintRequest) (answers : Nat → Answer) (l : Linter)
    (call : Nat) : Prop :=
  Runs fs requests l call ∧ Answer.isUnavailable (answers call) = true

/-- What calls for some requests can lead to, and the calls that have started by then. -/
inductive Schedule (fs : FileSystem) (requests : List LintRequest) (answers : Nat → Answer)
    (l : Linter) : List Nat → Session → Prop where
  | nothing : Schedule fs requests answers l [] { linter := l }
  | started {calls : List Nat} {s : Session} (earlier : Schedule fs requests answers l calls s)
      (call : Nat) (r : LintRequest) (asked : requests[call]? = some r) (new : call ∉ calls) :
      Schedule fs requests answers l (call :: calls) (s.start fs call r)
  | answered {calls : List Nat} {s : Session} (earlier : Schedule fs requests answers l calls s)
      (call : Nat) : Schedule fs requests answers l calls (s.answer call (answers call))

/-- What holds however the calls for some requests are scheduled. -/
structure Accounts (fs : FileSystem) (requests : List LintRequest) (answers : Nat → Answer)
    (l : Linter) (calls : List Nat) (s : Session) : Prop where
  config_eq : s.linter.config = l.config
  fresh : ∀ call, call ∉ calls → s.IsFresh call
  unfinished : ∀ call d, s.waiting.lookup call = some d → s.outcome? call = none
  waits : ∀ call d, s.waiting.lookup call = some d → Runs fs requests l call
  ended : ∀ entry ∈ s.finished, ∃ ds, entry.2 = .ok ds
  -- only while the linter is on: what starts after it was turned off is left alone
  settled : s.linter.isOn = true → ∀ call ∈ calls, s.waiting.lookup call = none →
    ¬ Misses fs requests answers l call ∧ ∃ r, requests[call]? = some r ∧
      s.outcome? call = some (l.callOutcome fs r (answers call))
  missed : s.linter.isOn = false → ∃ call, Misses fs requests answers l call

section

variable {fs : FileSystem} {requests : List LintRequest} {answers : Nat → Answer} {l : Linter}
  {calls : List Nat} {s : Session}

theorem Accounts.nothing (on : l.isOn = true) :
    Accounts fs requests answers l [] { linter := l } where
  config_eq := rfl
  fresh := fun _ _ => ⟨rfl, rfl⟩
  unfinished := fun _ _ waits => by cases waits
  waits := fun _ _ waits => by cases waits
  ended := fun _ member => by cases member
  settled := fun _ _ member => by cases member
  missed := fun off => absurd (on.symm.trans off) Bool.noConfusion

/-- A linter that is on is the one that the session started with. -/
theorem Accounts.linter_eq (accounts : Accounts fs requests answers l calls s) (on : l.isOn = true)
    (stillOn : s.linter.isOn = true) : s.linter = l := by
  have config_eq := accounts.config_eq
  cases l
  cases given : s.linter
  simp_all

theorem Accounts.finish (accounts : Accounts fs requests answers l calls s) (on : l.isOn = true)
    {call : Nat} {r : LintRequest} (asked : requests[call]? = some r) (new : call ∉ calls)
    (idle : s.linter.prepare fs r.document r.folders = .nothing) :
    Accounts fs requests answers l (call :: calls) (s.finish call (.ok [])) := by
  have fresh := accounts.fresh call new
  refine ⟨accounts.config_eq, ?_, ?_, accounts.waits, ?_, ?_, accounts.missed⟩
  · intro other absent
    rw [List.mem_cons, not_or] at absent
    have before := accounts.fresh other absent.2
    exact ⟨before.waits_not, (lookup_append_ne absent.1 _ _).trans before.ends_not⟩
  · intro other d waits
    have apart : other ≠ call := by
      rintro rfl
      rw [Session.finish, fresh.waits_not] at waits
      cases waits
    exact (lookup_append_ne apart _ _).trans (accounts.unfinished other d waits)
  · intro entry member
    rcases List.mem_append.1 member with member | member
    · exact accounts.ended entry member
    · rw [List.mem_singleton.1 member]
      exact ⟨[], rfl⟩
  · intro stillOn other member ended
    have same := accounts.linter_eq on stillOn
    rw [same] at idle
    by_cases own : other = call
    · -- a call that is left alone misses nothing, since the linter is the one of the start
      subst own
      refine ⟨?_, r, asked, ?_⟩
      · rintro ⟨⟨r', asked', i, debug, ready⟩, -⟩
        obtain rfl := Option.some.inj (asked.symm.trans asked')
        rw [idle] at ready
        cases ready
      · rw [Linter.callOutcome, idle]
        exact lookup_append_self fresh.ends_not _
    · obtain ⟨finds, r', asked', outcome⟩ :=
        accounts.settled stillOn other ((List.mem_cons.1 member).resolve_left own) ended
      exact ⟨finds, r', asked', (lookup_append_ne own _ _).trans outcome⟩

theorem Accounts.launch (accounts : Accounts fs requests answers l calls s) (on : l.isOn = true)
    {call : Nat} {r : LintRequest} (asked : requests[call]? = some r) (new : call ∉ calls)
    {i : Invocation} {debug : LogEntry}
    (ready : s.linter.prepare fs r.document r.folders = .run i debug) :
    Accounts fs requests answers l (call :: calls) (s.launch call r.document i debug) := by
  have fresh := accounts.fresh call new
  have stillOn := (Linter.prepare_eq_run ready).1.on
  have same := accounts.linter_eq on stillOn
  rw [same] at ready
  refine ⟨accounts.config_eq, ?_, ?_, ?_, accounts.ended, ?_, accounts.missed⟩
  · intro other absent
    rw [List.mem_cons, not_or] at absent
    have before := accounts.fresh other absent.2
    exact ⟨(lookup_append_ne absent.1 _ _).trans before.waits_not, before.ends_not⟩
  · intro other d waits
    by_cases own : other = call
    · subst own
      exact fresh.ends_not
    · exact accounts.unfinished other d ((lookup_append_ne own _ _).symm.trans waits)
  · intro other d waits
    by_cases own : other = call
    · subst own
      exact ⟨r, asked, i, debug, ready⟩
    · exact accounts.waits other d ((lookup_append_ne own _ _).symm.trans waits)
  · intro _ other member ended
    have own : other ≠ call := by
      rintro rfl
      have waits := lookup_append_self fresh.waits_not r.document
      rw [Session.launch, waits] at ended
      cases ended
    exact accounts.settled stillOn other ((List.mem_cons.1 member).resolve_left own)
      ((lookup_append_ne own _ _).symm.trans ended)

theorem Accounts.settle (accounts : Accounts fs requests answers l calls s)
    (usual : ∀ call, ∃ ds, Answer.outcome (answers call) = .ok ds) {call : Nat} {d : Document}
    (waits : s.waiting.lookup call = some d) :
    Accounts fs requests answers l calls (s.settle call d (answers call)) := by
  have unfinished := accounts.unfinished call d waits
  have runs := accounts.waits call d waits
  have linter_eq : (s.settle call d (answers call)).linter =
      { s.linter with isOn := s.linter.isOn && !Answer.isUnavailable (answers call) } :=
    Linter.conclude_linter _ _ _
  have waiting {other : Nat} {d' : Document}
      (later : (s.settle call d (answers call)).waiting.lookup other = some d') :
      other ≠ call ∧ s.waiting.lookup other = some d' := by
    have own : other ≠ call := by
      rintro rfl
      rw [Session.settle, lookup_filter_self] at later
      cases later
    exact ⟨own, (lookup_filter_ne own _).symm.trans later⟩
  refine ⟨?_, ?_, ?_, ?_, ?_, ?_, ?_⟩
  · rw [linter_eq]
    exact accounts.config_eq
  · intro other absent
    have before := accounts.fresh other absent
    have own : other ≠ call := by
      rintro rfl
      rw [before.waits_not] at waits
      cases waits
    exact ⟨(lookup_filter_ne own _).trans before.waits_not,
      (lookup_append_ne own _ _).trans before.ends_not⟩
  · intro other d' later
    obtain ⟨own, earlier⟩ := waiting later
    exact (lookup_append_ne own _ _).trans (accounts.unfinished other d' earlier)
  · intro other d' later
    exact accounts.waits other d' (waiting later).2
  · intro entry member
    rcases List.mem_append.1 member with member | member
    · exact accounts.ended entry member
    · rw [List.mem_singleton.1 member]
      exact usual call
  · intro stillOn other member ended
    rw [linter_eq, Bool.and_eq_true, Bool.not_eq_true'] at stillOn
    by_cases own : other = call
    · -- the answer leaves the linter on, so that it is not about a missing executable
      subst own
      obtain ⟨r, asked, i, debug, ready⟩ := runs
      refine ⟨fun misses => ?_, r, asked, ?_⟩
      · rw [misses.2] at stillOn
        cases stillOn.2
      · rw [Linter.callOutcome, ready]
        exact outcome?_settle unfinished d _
    · obtain ⟨finds, r, asked, outcome⟩ :=
        accounts.settled stillOn.1 other member ((lookup_filter_ne own _).symm.trans ended)
      exact ⟨finds, r, asked, (lookup_append_ne own _ _).trans outcome⟩
  · intro off
    rw [linter_eq, Bool.and_eq_false_iff, Bool.not_eq_false'] at off
    rcases off with off | missing
    · exact accounts.missed off
    · exact ⟨call, runs, missing⟩

/-- A schedule keeps the account, if no search for sourced scripts fails and all answers are of a
kind that a call expects. -/
theorem Schedule.accounts (schedule : Schedule fs requests answers l calls s) (on : l.isOn = true)
    (sound : ∀ r ∈ requests, ∀ fault, l.prepare fs r.document r.folders ≠ .failed fault)
    (usual : ∀ call, ∃ ds, Answer.outcome (answers call) = .ok ds) :
    Accounts fs requests answers l calls s := by
  induction schedule with
  | nothing => exact .nothing on
  | started earlier call r asked new ih =>
      rename_i calls s
      have move : Move fs s (.started call r) (s.start fs call r) := feed_move fs s _
      generalize s.start fs call r = s' at move ⊢
      cases move with
      | skipped _ _ idle => exact ih.finish on asked new idle
      | failed _ _ fault broken =>
          have stillOn := (Linter.prepare_eq_failed broken).on
          rw [ih.linter_eq on stillOn] at broken
          exact absurd broken (sound r (List.mem_of_getElem? asked) fault)
      | launched _ _ i debug ready => exact ih.launch on asked new ready
  | answered earlier call ih =>
      rename_i calls s
      have move : Move fs s (.answered call (answers call)) (s.answer call (answers call)) :=
        feed_move fs s _
      generalize s.answer call (answers call) = s' at move ⊢
      cases move with
      | ignored _ _ absent => exact ih
      | settled _ _ d waits => exact ih.settle usual waits

/-- A schedule that has started every call and answered it. -/
structure Completes (requests : List LintRequest) (calls : List Nat) (s : Session) : Prop where
  all : ∀ call, call < requests.length → call ∈ calls
  none_waits : s.waiting = []

theorem Runs.lt_length {call : Nat} (runs : Runs fs requests l call) : call < requests.length := by
  obtain ⟨r, asked, -⟩ := runs
  exact (List.getElem?_eq_some_iff.1 asked).1

/-- In the end a linter is on exactly if no call would find its executable missing. -/
theorem Accounts.isOn_iff (accounts : Accounts fs requests answers l calls s)
    (completes : Completes requests calls s) :
    s.linter.isOn = true ↔ ¬ ∃ call, Misses fs requests answers l call := by
  constructor
  · rintro stillOn ⟨call, misses⟩
    have started := completes.all call misses.1.lt_length
    have ended : s.waiting.lookup call = none := by rw [completes.none_waits]; rfl
    exact (accounts.settled stillOn call started ended).1 misses
  · intro finds
    cases isOn : s.linter.isOn with
    | true => rfl
    | false => exact absurd (accounts.missed isOn) finds

/-- If the linter is still on in the end, every call has ended as it would alone. -/
theorem Accounts.outcome?_eq (accounts : Accounts fs requests answers l calls s)
    (completes : Completes requests calls s) (stillOn : s.linter.isOn = true) {call : Nat}
    {r : LintRequest} (asked : requests[call]? = some r) :
    s.outcome? call = some (l.callOutcome fs r (answers call)) := by
  have started := completes.all call (List.getElem?_eq_some_iff.1 asked).1
  have ended : s.waiting.lookup call = none := by rw [completes.none_waits]; rfl
  obtain ⟨-, r', asked', outcome⟩ := accounts.settled stillOn call started ended
  obtain rfl := Option.some.inj (asked.symm.trans asked')
  exact outcome

end

end LintBridge.Session
