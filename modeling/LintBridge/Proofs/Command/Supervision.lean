import LintBridge.Command.Run
import Mathlib.Data.List.Induction

/-!
# No child is left behind

`Turn` says once what one event does to a supervisor. By it, a supervisor attends to all that
happens until its run has ended (`Attends`): it knows of the exit of its child as soon as there is
one, it kills a child only while it knows of no exit, and it does not leave before one or the other.
A run that is cancelled before it has ended can only end as cancelled, and does so once the reader
has stopped and the child has exited (`child_is_never_left`).
-/
set_option autoImplicit false

namespace LintBridge.Command

/-- The event on which a run is given up. -/
def GivenUp.event : GivenUp → Event
  | .timeUp => .timeUp
  | .cancelled => .cancelled

/-- An event that tells something of the child. -/
inductive Event.IsNews : Event → Prop where
  | exited (code : Nat) : IsNews (.exited code)
  | outputClosed : IsNews .outputClosed

namespace Supervisor

/-- A supervisor once it knows what an event tells of the child. -/
def informed (s : Supervisor) : Event → Supervisor
  | .exited n => { s with code := s.code.or (some n) }
  | .outputClosed => { s with outputClosed := true }
  | _ => s

/-- What one event does to a supervisor. -/
inductive Turn (s : Supervisor) (event : Event) : Supervisor → Prop where
  | late (ending : Ending) (ended : s.phase = .ended ending) : Turn s event s
  | ignored (running : s.ending? = none)
      (idle : event = .timeUp ∧ s.phase ≠ .reading ∨
        event = .readerStopped ∧ ∀ why, s.phase ≠ .stopping why) : Turn s event s
  | informed (running : s.ending? = none) (news : event.IsNews)
      (reads : s.phase = .reading →
        (s.informed event).code = none ∨ (s.informed event).outputClosed = false)
      (reaps : ∀ why, s.phase = .reaping why → (s.informed event).code = none) :
      Turn s event (s.informed event)
  | completed (n : Nat) (news : event.IsNews) (reading : s.phase = .reading)
      (gone : (s.informed event).code = some n) :
      Turn s event { s.informed event with phase := .ended (.code n) }
  | reaped (why : GivenUp) (n : Nat) (news : event.IsNews) (reaping : s.phase = .reaping why)
      (gone : (s.informed event).code = some n) :
      Turn s event { s.informed event with phase := .ended (.givenUp why) }
  | givenUp (why : GivenUp) (reading : s.phase = .reading) (is : event = why.event) :
      Turn s event { s with phase := .stopping why }
  | terminated (why why' : GivenUp) (stopping : s.phase = .stopping why)
      (ready : event = .readerStopped ∧ why' = why ∨ event = .cancelled ∧ why' = .cancelled) :
      Turn s event (s.terminate why')
  | abandoned (why : GivenUp) (reaping : s.phase = .reaping why) (is : event = .cancelled) :
      Turn s event { s with phase := .ended (.givenUp .cancelled) }

section

variable {s s' : Supervisor} {event : Event} {events : List Event}

theorem ending?_eq_some_iff {ending : Ending} :
    s.ending? = some ending ↔ s.phase = .ended ending := by
  unfold ending?
  cases s.phase <;> simp

theorem ending?_eq_none_iff : s.ending? = none ↔ ∀ ending, s.phase ≠ .ended ending := by
  unfold ending?
  cases s.phase <;> simp

theorem phase_informed (s : Supervisor) (event : Event) :
    (s.informed event).phase = s.phase := by
  cases event <;> rfl

theorem killed_informed (s : Supervisor) (event : Event) :
    (s.informed event).killed = s.killed := by
  cases event <;> rfl

theorem feed_of_news (running : s.ending? = none) (news : event.IsNews) :
    s.feed event = (s.informed event).settle := by
  rw [ending?_eq_none_iff] at running
  cases news with
  | exited n => cases phase : s.phase <;> simp_all [feed, informed]
  | outputClosed => cases phase : s.phase <;> simp_all [feed, informed]

/-- A run ends by itself if it has nothing more to wait for. -/
theorem settle_cases (s : Supervisor) :
    (s.settle = s ∧ (s.phase = .reading → s.code = none ∨ s.outputClosed = false) ∧
        ∀ why, s.phase = .reaping why → s.code = none) ∨
      (∃ n, s.phase = .reading ∧ s.code = some n ∧
        s.settle = { s with phase := .ended (.code n) }) ∨
      ∃ why n, s.phase = .reaping why ∧ s.code = some n ∧
        s.settle = { s with phase := .ended (.givenUp why) } := by
  unfold settle
  split
  · rename_i n reading gone
    split
    · exact Or.inr (Or.inl ⟨n, reading, gone, rfl⟩)
    · rename_i stillOpen
      exact Or.inl ⟨rfl, fun _ => Or.inr (Bool.eq_false_iff.2 stillOpen), by simp [reading]⟩
  · rename_i why n reaping gone
    exact Or.inr (Or.inr ⟨why, n, reaping, gone, rfl⟩)
  · rename_i notDone notReaped
    refine Or.inl ⟨rfl, fun reading => Or.inl ?_, fun why reaping => ?_⟩
    · exact Option.eq_none_iff_forall_ne_some.2 fun n gone => notDone n reading gone
    · exact Option.eq_none_iff_forall_ne_some.2 fun n gone => notReaped why n reaping gone

theorem turn_of_news (running : s.ending? = none) (news : event.IsNews) :
    Turn s event (s.feed event) := by
  rw [feed_of_news running news]
  rcases (s.informed event).settle_cases with
    ⟨same, reads, reaps⟩ | ⟨n, reading, gone, done⟩ | ⟨why, n, reaping, gone, done⟩
  · rw [phase_informed] at reads reaps
    rw [same]
    exact .informed running news reads reaps
  · rw [phase_informed] at reading
    rw [done]
    exact .completed n news reading gone
  · rw [phase_informed] at reaping
    rw [done]
    exact .reaped why n news reaping gone

theorem feed_turn (s : Supervisor) (event : Event) : Turn s event (s.feed event) := by
  cases running : s.ending? with
  | some ending =>
      have ended := ending?_eq_some_iff.1 running
      rw [feed_of_ended ended]
      exact .late ending ended
  | none =>
      have notEnded := ending?_eq_none_iff.1 running
      cases event with
      | exited n => exact turn_of_news running (.exited n)
      | outputClosed => exact turn_of_news running .outputClosed
      | timeUp =>
          cases phase : s.phase with
          | reading =>
              simp only [feed, phase]
              exact .givenUp .timeUp phase rfl
          | ended ending => exact absurd phase (notEnded ending)
          | _ =>
              simp only [feed, phase]
              exact .ignored running (Or.inl ⟨rfl, by simp [phase]⟩)
      | cancelled =>
          cases phase : s.phase with
          | reading =>
              simp only [feed, phase]
              exact .givenUp .cancelled phase rfl
          | stopping why =>
              simp only [feed, phase]
              exact .terminated why .cancelled phase (Or.inr ⟨rfl, rfl⟩)
          | reaping why =>
              simp only [feed, phase]
              exact .abandoned why phase rfl
          | ended ending => exact absurd phase (notEnded ending)
      | readerStopped =>
          cases phase : s.phase with
          | stopping why =>
              simp only [feed, phase]
              exact .terminated why why phase (Or.inl ⟨rfl, rfl⟩)
          | ended ending => exact absurd phase (notEnded ending)
          | _ =>
              simp only [feed, phase]
              exact .ignored running (Or.inr ⟨rfl, by simp [phase]⟩)

/-! ## What a supervisor has made of the events so far -/

/-- What holds of a supervisor after some events. Once its run has ended, it hears of no more. -/
structure Attends (events : List Event) (s : Supervisor) : Prop where
  code_mem : ∀ n, s.code = some n → .exited n ∈ events
  hears_exit : s.ending? = none → s.code = none → ∀ n, .exited n ∉ events
  hears_end : s.ending? = none → .outputClosed ∈ events → s.outputClosed = true
  reads : s.phase = .reading → s.killed = false ∧ (s.code = none ∨ s.outputClosed = false)
  stops : ∀ why, s.phase = .stopping why → s.killed = false
  reaps : ∀ why, s.phase = .reaping why → s.killed = true ∧ s.code = none
  completes : ∀ n, s.phase = .ended (.code n) → s.killed = false ∧ s.code = some n
  givesUp : ∀ why, s.phase = .ended (.givenUp why) →
    (s.killed = true ∨ ∃ n, s.code = some n) ∧ (why = .timeUp → ∃ n, s.code = some n)

theorem Attends.nothing : Attends [] {} where
  code_mem := by simp
  hears_exit := by simp
  hears_end := by simp
  reads := by simp
  stops := by simp
  reaps := by simp
  completes := by simp
  givesUp := by simp

theorem code_informed_mem (attends : Attends events s) {n : Nat}
    (gone : (s.informed event).code = some n) : .exited n ∈ events ++ [event] := by
  cases event with
  | exited m =>
      cases code : s.code with
      | none =>
          simp only [informed, code, Option.none_or, Option.some.injEq] at gone
          simp [gone]
      | some k =>
          simp only [informed, code, Option.some_or, Option.some.injEq] at gone
          exact List.mem_append_left _ (attends.code_mem n (gone ▸ code))
  | _ => exact List.mem_append_left _ (attends.code_mem n gone)

theorem Attends.of_completed {n : Nat} (phase : s.phase = .ended (.code n))
    (alive : s.killed = false) (gone : s.code = some n) (exits : .exited n ∈ events) :
    Attends events s where
  code_mem := by
    intro m code
    obtain rfl := Option.some.inj (gone.symm.trans code)
    exact exits
  hears_exit := by simp [ending?, phase]
  hears_end := by simp [ending?, phase]
  reads := by simp [phase]
  stops := by simp [phase]
  reaps := by simp [phase]
  completes := by
    intro m ended
    rw [phase, Phase.ended.injEq, Ending.code.injEq] at ended
    exact ⟨alive, ended ▸ gone⟩
  givesUp := by simp [phase]

theorem Attends.of_givenUp {why : GivenUp} (phase : s.phase = .ended (.givenUp why))
    (exits : ∀ n, s.code = some n → .exited n ∈ events)
    (left : s.killed = true ∨ ∃ n, s.code = some n)
    (reaped : why = .timeUp → ∃ n, s.code = some n) : Attends events s where
  code_mem := exits
  hears_exit := by simp [ending?, phase]
  hears_end := by simp [ending?, phase]
  reads := by simp [phase]
  stops := by simp [phase]
  reaps := by simp [phase]
  completes := by simp [phase]
  givesUp := by
    intro why' ended
    rw [phase, Phase.ended.injEq, Ending.givenUp.injEq] at ended
    exact ⟨left, fun timeUp => reaped (ended.trans timeUp)⟩

/-- An event that tells nothing leaves what is known as it is. -/
theorem Attends.of_silent (attends : Attends events s) (running : s.ending? = none)
    (silent : ¬ event.IsNews) :
    (s.code = none → ∀ n, .exited n ∉ events ++ [event]) ∧
      (.outputClosed ∈ events ++ [event] → s.outputClosed = true) := by
  refine ⟨fun unknown n member => ?_, fun member => ?_⟩
  · rcases List.mem_append.1 member with member | member
    · exact attends.hears_exit running unknown n member
    · exact silent (List.mem_singleton.1 member ▸ .exited n)
  · rcases List.mem_append.1 member with member | member
    · exact attends.hears_end running member
    · exact absurd (List.mem_singleton.1 member ▸ .outputClosed) silent

/-- News that do not end a run are known from then on. -/
theorem Attends.informed (attends : Attends events s) (running : s.ending? = none)
    (news : event.IsNews)
    (reads : s.phase = .reading →
      (s.informed event).code = none ∨ (s.informed event).outputClosed = false)
    (reaps : ∀ why, s.phase = .reaping why → (s.informed event).code = none) :
    Attends (events ++ [event]) (s.informed event) where
  code_mem := fun n => code_informed_mem attends
  hears_exit := by
    intro _ unknown n member
    cases news with
    | exited m => cases code : s.code <;> simp [Supervisor.informed, code] at unknown
    | outputClosed => exact attends.hears_exit running unknown n (by simpa using member)
  hears_end := by
    intro _ member
    cases news with
    | exited n => exact attends.hears_end running (by simpa using member)
    | outputClosed => rfl
  reads := by
    intro reading
    rw [phase_informed] at reading
    rw [killed_informed]
    exact ⟨(attends.reads reading).1, reads reading⟩
  stops := by
    intro why stopping
    rw [phase_informed] at stopping
    rw [killed_informed]
    exact attends.stops why stopping
  reaps := by
    intro why reaping
    rw [phase_informed] at reaping
    rw [killed_informed]
    exact ⟨(attends.reaps why reaping).1, reaps why reaping⟩
  completes := by
    intro n ended
    rw [phase_informed] at ended
    exact absurd ended (ending?_eq_none_iff.1 running _)
  givesUp := by
    intro why ended
    rw [phase_informed] at ended
    exact absurd ended (ending?_eq_none_iff.1 running _)

theorem Attends.turn (attends : Attends events s) (turn : Turn s event s') :
    Attends (events ++ [event]) s' := by
  have earlier : ∀ n, s.code = some n → .exited n ∈ events ++ [event] := by
    intro n code
    exact List.mem_append_left _ (attends.code_mem n code)
  cases turn with
  | late ending ended =>
      have running : s.ending? ≠ none := by simp [ending?, ended]
      exact ⟨earlier, fun none => absurd none running, fun none => absurd none running,
        attends.reads, attends.stops, attends.reaps, attends.completes, attends.givesUp⟩
  | ignored running idle =>
      have silent : ¬ event.IsNews := by
        rintro ⟨⟩ <;> simp at idle
      obtain ⟨noExit, closed⟩ := attends.of_silent running silent
      exact ⟨earlier, fun _ => noExit, fun _ => closed, attends.reads, attends.stops,
        attends.reaps, attends.completes, attends.givesUp⟩
  | informed running news reads reaps => exact attends.informed running news reads reaps
  | completed n news reading gone =>
      have alive : (s.informed event).killed = false := by
        rw [killed_informed]
        exact (attends.reads reading).1
      exact .of_completed rfl alive gone (code_informed_mem attends gone)
  | reaped why n news reaping gone =>
      exact .of_givenUp rfl (fun m => code_informed_mem attends) (Or.inr ⟨n, gone⟩)
        fun _ => ⟨n, gone⟩
  | givenUp why reading is =>
      have silent : ¬ event.IsNews := by
        subst is
        cases why <;> rintro ⟨⟩
      have running : s.ending? = none := by simp [ending?, reading]
      obtain ⟨noExit, closed⟩ := attends.of_silent running silent
      exact ⟨earlier, fun _ => noExit, fun _ => closed, by simp,
        fun _ _ => (attends.reads reading).1, by simp, by simp, by simp⟩
  | terminated why why' stopping ready =>
      have silent : ¬ event.IsNews := by
        rintro ⟨⟩ <;> simp at ready
      have running : s.ending? = none := by simp [ending?, stopping]
      obtain ⟨noExit, closed⟩ := attends.of_silent running silent
      cases code : s.code with
      | some n =>
          simp only [terminate, code]
          exact .of_givenUp rfl (fun m known => earlier m (code ▸ known)) (Or.inr ⟨n, rfl⟩)
            fun _ => ⟨n, rfl⟩
      | none =>
          -- the child is killed, and has not exited as far as is known
          simp only [terminate, code]
          exact ⟨by simp, fun _ _ => noExit code, fun _ => closed, by simp, by simp, by simp,
            by simp, by simp⟩
  | abandoned why reaping is =>
      exact .of_givenUp rfl earlier (Or.inl (attends.reaps why reaping).1) (by simp)

theorem attends_run (events : List Event) : Attends events (run {} events) := by
  induction events using List.reverseRecOn with
  | nil => exact .nothing
  | append_singleton events event ih =>
      rw [run, List.foldl_append, List.foldl_cons, List.foldl_nil]
      exact ih.turn (feed_turn _ event)

/-! ## Kills -/

/-- A kill is issued by a supervisor that knows of no exit. -/
theorem Turn.code_of_kill (turn : Turn s event s') (before : s.killed = false)
    (after : s'.killed = true) : s.ending? = none ∧ s.code = none ∧ ¬ event.IsNews := by
  cases turn with
  | late ending ended => simp [before] at after
  | ignored running idle => simp [before] at after
  | informed running news reads reaps => simp [killed_informed, before] at after
  | completed n news reading gone => simp [killed_informed, before] at after
  | reaped why n news reaping gone => simp [killed_informed, before] at after
  | givenUp why reading is => simp [before] at after
  | terminated why why' stopping ready =>
      refine ⟨by simp [ending?, stopping], ?_, ?_⟩
      · cases code : s.code with
        | none => rfl
        | some n => simp [terminate, code, before] at after
      · rintro ⟨⟩ <;> simp at ready
  | abandoned why reaping is => simp [before] at after

/-! ## Cancellations -/

/-- A supervisor whose run is cancelled, or was. -/
def IsCancelled (s : Supervisor) : Prop :=
  s.phase = .stopping .cancelled ∨ s.phase = .reaping .cancelled ∨
    s.phase = .ended (.givenUp .cancelled)

theorem isCancelled_terminate (s : Supervisor) : IsCancelled (s.terminate .cancelled) := by
  unfold terminate
  split
  · exact Or.inr (Or.inr rfl)
  · exact Or.inr (Or.inl rfl)

theorem Turn.isCancelled (turn : Turn s .cancelled s') (running : s.ending? = none) :
    IsCancelled s' := by
  cases turn with
  | late ending ended => exact absurd ended (ending?_eq_none_iff.1 running ending)
  | ignored _ idle => simp at idle
  | informed _ news => cases news
  | completed _ news => cases news
  | reaped _ _ news => cases news
  | givenUp why reading is =>
      cases why with
      | timeUp => cases is
      | cancelled => exact Or.inl rfl
  | terminated why why' stopping ready =>
      obtain rfl : why' = .cancelled := by
        rcases ready with ⟨is, -⟩ | ⟨-, is⟩
        · cases is
        · exact is
      exact isCancelled_terminate s
  | abandoned why reaping is => exact Or.inr (Or.inr rfl)

theorem IsCancelled.turn (cancelled : IsCancelled s) (turn : Turn s event s') :
    IsCancelled s' := by
  cases turn with
  | late ending ended => exact cancelled
  | ignored running idle => exact cancelled
  | informed running news reads reaps =>
      rw [IsCancelled, phase_informed]
      exact cancelled
  | completed n news reading gone => simp [IsCancelled, reading] at cancelled
  | reaped why n news reaping gone =>
      simp only [IsCancelled, reaping, reduceCtorEq, Phase.reaping.injEq, false_or, or_false]
        at cancelled
      exact Or.inr (Or.inr (by rw [cancelled]))
  | givenUp why reading is => simp [IsCancelled, reading] at cancelled
  | terminated why why' stopping ready =>
      simp only [IsCancelled, stopping, reduceCtorEq, Phase.stopping.injEq, or_false] at cancelled
      obtain rfl : why' = .cancelled := by
        rcases ready with ⟨-, is⟩ | ⟨-, is⟩
        · rw [is, cancelled]
        · exact is
      exact isCancelled_terminate s
  | abandoned why reaping is => exact Or.inr (Or.inr rfl)

theorem IsCancelled.replayed (cancelled : IsCancelled s) (more : List Event) :
    IsCancelled (s.run more) := by
  induction more generalizing s with
  | nil => exact cancelled
  | cons event more ih => exact ih (cancelled.turn (feed_turn s event))

/-- A supervisor that does not wait for its reader to stop. -/
def HasStopped (s : Supervisor) : Prop := ∀ why, s.phase ≠ .stopping why

theorem Turn.hasStopped_of_readerStopped (turn : Turn s .readerStopped s') : HasStopped s' := by
  intro why stopping
  cases turn with
  | late ending ended => simp [ended] at stopping
  | ignored running idle => simp [stopping] at idle
  | informed _ news => cases news
  | completed => cases stopping
  | reaped => cases stopping
  | givenUp why' reading is => cases why' <;> cases is
  | terminated why' why'' stopped ready =>
      unfold terminate at stopping
      split at stopping <;> cases stopping
  | abandoned => cases stopping

/-- Only giving up makes a supervisor wait for its reader. -/
theorem HasStopped.turn (stopped : HasStopped s) (turn : Turn s event s')
    (keeps : s.phase = .reading → ∀ why : GivenUp, event ≠ why.event) : HasStopped s' := by
  intro why stopping
  cases turn with
  | late => exact stopped why stopping
  | ignored => exact stopped why stopping
  | informed =>
      rw [phase_informed] at stopping
      exact stopped why stopping
  | completed => cases stopping
  | reaped => cases stopping
  | givenUp why' reading is => exact keeps reading why' is
  | terminated why' why'' stopping' => exact stopped why' stopping'
  | abandoned => cases stopping

theorem IsCancelled.hasStopped_run (cancelled : IsCancelled s) (stopped : HasStopped s)
    (more : List Event) : HasStopped (s.run more) := by
  induction more generalizing s with
  | nil => exact stopped
  | cons event more ih =>
      have turn := feed_turn s event
      refine ih (cancelled.turn turn) (stopped.turn turn fun reading => ?_)
      simp [IsCancelled, reading] at cancelled

theorem run_append (s : Supervisor) (before after : List Event) :
    s.run (before ++ after) = (s.run before).run after := List.foldl_append

theorem run_cons (s : Supervisor) (event : Event) (more : List Event) :
    s.run (event :: more) = (s.feed event).run more := rfl

/-- A run that is cancelled ends once the reader has stopped and the child has exited. -/
theorem IsCancelled.ends {before after : List Event} (cancelled : IsCancelled (run {} before))
    (stops : .readerStopped ∈ after) {n : Nat} (exits : .exited n ∈ before ++ after) :
    (run {} (before ++ after)).ending? = some (.givenUp .cancelled) := by
  have attends := attends_run (before ++ after)
  have still : IsCancelled (run {} (before ++ after)) := by
    rw [run_append]
    exact cancelled.replayed after
  have stopped : HasStopped (run {} (before ++ after)) := by
    obtain ⟨front, back, rfl⟩ := List.append_of_mem stops
    have turn := feed_turn ((run {} before).run front) .readerStopped
    rw [run_append, run_append, run_cons]
    have afterwards := (cancelled.replayed front).turn turn
    exact afterwards.hasStopped_run turn.hasStopped_of_readerStopped back
  rw [ending?_eq_some_iff]
  rcases still with stopping | reaping | ended
  · exact absurd stopping (stopped .cancelled)
  · -- a child that is waited for has not exited, as far as is known
    have running : (run {} (before ++ after)).ending? = none := by simp [ending?, reaping]
    exact absurd exits (attends.hears_exit running (attends.reaps _ reaping).2 n)
  · exact ended

/-! ## The history of a child that is watched -/

/-- A moment of a history: the exit of the child, or a reader that is told to stop and does so. -/
def IsRounded (code : Nat) (m : Moment) : Prop :=
  m.events = [.exited code, .outputClosed] ∨ ∃ event, m.events = [event, .readerStopped]

theorem HasStopped.moment {code : Nat} {m : Moment} (stopped : HasStopped s)
    (rounded : IsRounded code m) : HasStopped (s.run m.events) := by
  rcases rounded with exits | ⟨event, stops⟩
  · rw [exits, run_cons, run_cons]
    have gone := stopped.turn (feed_turn s (.exited code)) fun _ why is => by cases why <;> cases is
    exact gone.turn (feed_turn _ .outputClosed) fun _ why is => by cases why <;> cases is
  · rw [stops, run_cons, run_cons]
    exact (feed_turn _ .readerStopped).hasStopped_of_readerStopped

theorem HasStopped.moments {code : Nat} {moments : List Moment} (stopped : HasStopped s)
    (rounded : ∀ m ∈ moments, IsRounded code m) :
    HasStopped (s.run (moments.flatMap Moment.events)) := by
  induction moments generalizing s with
  | nil => exact stopped
  | cons m more ih =>
      rw [List.flatMap_cons, run_append]
      exact ih (stopped.moment (rounded m (List.mem_cons_self ..)))
        fun other member => rounded other (List.mem_cons_of_mem _ member)

theorem mem_inOrder {m : Moment} {moments : List Moment} : m ∈ inOrder moments ↔ m ∈ moments :=
  (List.mergeSort_perm ..).mem_iff

/-- A run ends once the child has exited and closed its output, and the reader has stopped if it was
told to. -/
theorem Attends.exists_ending (attends : Attends events s) (stopped : HasStopped s) {n : Nat}
    (exits : .exited n ∈ events) (closes : .outputClosed ∈ events) :
    ∃ ending, s.ending? = some ending := by
  cases ended : s.ending? with
  | some ending => exact ⟨ending, rfl⟩
  | none =>
      have gone : s.code ≠ none := fun unknown => attends.hears_exit ended unknown n exits
      exfalso
      cases phase : s.phase with
      | reading =>
          rcases (attends.reads phase).2 with unknown | stillOpen
          · exact gone unknown
          · rw [attends.hears_end ended closes] at stillOpen
            cases stillOpen
      | stopping why => exact stopped why phase
      | reaping why => exact gone (attends.reaps why phase).2
      | ended ending => exact ending?_eq_none_iff.1 ended ending phase

/-- A child that is watched to its exit has a run that ends. -/
theorem exists_ending_of_history (duration code : Nat) (limit : Timeout)
    (cancelAfter : Option Binary64) :
    ∃ ending, (run {} (history duration code limit cancelAfter)).ending? = some ending := by
  have rounded : ∀ m ∈ inOrder
      (cancelAfter.toList.map (fun time => Moment.mk time [.cancelled, .readerStopped]) ++
        limit.toList.map (fun limit => Moment.mk (expiry limit) [.timeUp, .readerStopped]) ++
        [Moment.mk (Binary64.ofRatio false duration 1000) [.exited code, .outputClosed]]),
      IsRounded code m := by
    intro m member
    rw [mem_inOrder, List.mem_append, List.mem_append, List.mem_map, List.mem_map,
      List.mem_singleton] at member
    rcases member with (⟨time, -, rfl⟩ | ⟨time, -, rfl⟩) | rfl
    · exact Or.inr ⟨.cancelled, rfl⟩
    · exact Or.inr ⟨.timeUp, rfl⟩
    · exact Or.inl rfl
  have known : ∀ event ∈ [Event.exited code, .outputClosed],
      event ∈ history duration code limit cancelAfter := by
    intro event member
    refine List.mem_flatMap.2 ⟨Moment.mk (Binary64.ofRatio false duration 1000) _, ?_, member⟩
    exact mem_inOrder.2 (List.mem_append_right _ (List.mem_singleton_self _))
  have stopped : HasStopped (run {} (history duration code limit cancelAfter)) :=
    HasStopped.moments (s := {}) (by simp [HasStopped]) rounded
  exact (attends_run _).exists_ending stopped (known (.exited code) (List.mem_cons_self ..))
    (known .outputClosed (List.mem_cons_of_mem _ (List.mem_singleton_self _)))

/-! ## The end of a run -/

theorem Attends.code_of_completion (attends : Attends events s) {command : List String}
    {limit : Timeout} {b : Behaviour} {c : Completion}
    (result : outcomeOf command limit b s.ending? = .ok c) :
    s.killed = false ∧ ∃ n, s.code = some n ∧ c.code = n := by
  cases ended : s.ending? with
  | none => simp [outcomeOf, ended] at result
  | some ending =>
      cases ending with
      | code n =>
          obtain ⟨alive, gone⟩ := attends.completes n (ending?_eq_some_iff.1 ended)
          simp only [outcomeOf, ended, Except.ok.injEq] at result
          exact ⟨alive, n, gone, result ▸ rfl⟩
      | givenUp why => cases why <;> simp [outcomeOf, ended] at result

theorem Attends.code_of_timedOut (attends : Attends events s) {command : List String}
    {limit : Timeout} {b : Behaviour} {name : String} {time : Binary64}
    (result : outcomeOf command limit b s.ending? = .error (.timedOut name time)) :
    ∃ n, s.code = some n := by
  cases ended : s.ending? with
  | none => simp [outcomeOf, ended] at result
  | some ending =>
      cases ending with
      | code n => simp [outcomeOf, ended] at result
      | givenUp why =>
          cases why with
          | cancelled => simp [outcomeOf, ended] at result
          | timeUp => exact (attends.givesUp .timeUp (ending?_eq_some_iff.1 ended)).2 rfl

theorem Attends.killed_or_gone (attends : Attends events s) (ended : s.ending? ≠ none) :
    s.killed = true ∨ ∃ n, s.code = some n := by
  obtain ⟨ending, ended⟩ := Option.ne_none_iff_exists'.1 ended
  cases ending with
  | code n => exact Or.inr ⟨n, (attends.completes n (ending?_eq_some_iff.1 ended)).2⟩
  | givenUp why => exact (attends.givesUp why (ending?_eq_some_iff.1 ended)).1

/-- A run that is cancelled while it waits for a child whose time was up leaves it killed. -/
example : run {} [.timeUp, .readerStopped, .cancelled] =
    ⟨.ended (.givenUp .cancelled), none, false, true⟩ := by decide

end

end Supervisor

end LintBridge.Command
