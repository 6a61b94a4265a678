import LintBridge.Proofs.Linter.TurningOff
import LintBridge.Proofs.Report.Diagnostics

/-!
# What the log says of a history

`Session.acts` is what a session does in one event, in order of time: a call that runs a command
announces it first, and an answer is only written about. The lines that one answer adds are those
that `Reports` allows, so that the numbers of warnings and errors after a history are functions of
the answers that were delivered (`log_is_accounted_for`).
-/
set_option autoImplicit false

namespace LintBridge

/-! ## Kinds of answers -/

namespace Answer

/-- An answer that is an error of its call: output that holds no report, a working directory that is
none, or arguments that cannot be those of a command. -/
def IsRejected : Answer → Prop
  | .ok c => (¬ ∃ r, Report.Holds c.output r) ∧ ¬ Json.HasLongInteger c.output
  | .error (.workingDirectory _) => True
  | .error (.invalid _) => True
  | .error _ => False

instance : DecidablePred IsRejected
  | .ok c =>
    inferInstanceAs (Decidable ((¬ ∃ r, Report.Holds c.output r) ∧ ¬ Json.HasLongInteger c.output))
  | .error (.workingDirectory _) => .isTrue trivial
  | .error (.invalid _) => .isTrue trivial
  | .error (.unavailable _ _) => .isFalse id
  | .error (.timedOut _ _) => .isFalse id
  | .error (.probe _ _) => .isFalse id
  | .error (.system _) => .isFalse id
  | .error (.broken _) => .isFalse id
  | .error .cancelled => .isFalse id

def isTimedOut : Answer → Bool
  | .error (.timedOut _ _) => true
  | _ => false

theorem IsRejected.inTime_and_present {a : Answer} (rejected : a.IsRejected) :
    isTimedOut a = false ∧ isUnavailable a = false := by
  cases a with
  | ok c => exact ⟨rfl, rfl⟩
  | error fault => cases fault <;> first | exact ⟨rfl, rfl⟩ | exact rejected.elim

theorem accepted_and_present_of_isTimedOut {a : Answer} (late : isTimedOut a = true) :
    ¬ a.IsRejected ∧ isUnavailable a = false := by
  unfold isTimedOut at late
  split at late
  · exact ⟨id, rfl⟩
  · cases late

theorem accepted_and_inTime_of_isUnavailable {a : Answer} (missing : isUnavailable a = true) :
    ¬ a.IsRejected ∧ isTimedOut a = false := by
  obtain ⟨name, reason, rfl⟩ := exists_of_isUnavailable missing
  exact ⟨id, rfl⟩

end Answer

/-- The lines that an answer may add to the log of a linter. -/
inductive Linter.Reports (l : Linter) (a : Answer) : List LogEntry → Prop where
  | rejected (rejected : a.IsRejected) (text : String) : Reports l a [⟨.error, text⟩]
  | timedOut (late : Answer.isTimedOut a = true) (text : String) : Reports l a [⟨.warning, text⟩]
  | turnedOff (on : l.isOn = true) (missing : Answer.isUnavailable a = true) (text : String) :
      Reports l a [⟨.warning, text⟩]
  | silent (accepted : ¬ a.IsRejected) (inTime : Answer.isTimedOut a = false)
      (kept : l.isOn = true → Answer.isUnavailable a = false) : Reports l a []

/-- The line that announces a command. -/
def Invocation.announcement (i : Invocation) : LogEntry :=
  let words := ShellWords.joinStrings i.command
  let cwd := i.cwd.getD Path.here
  ⟨.debug, s!"ShellCheck: running command={words} cwd={cwd}"⟩

namespace Linter

theorem announcement_of_run {l : Linter} {fs : FileSystem} {d : Document}
    {folders : List WorkspaceFolder} {i : Invocation} {debug : LogEntry}
    (ready : l.prepare fs d folders = .run i debug) : debug = i.announcement := by
  obtain ⟨-, -, s, -, -, -, rfl, rfl⟩ := exists_search_of_run ready
  rfl

theorem conclude_reports (l : Linter) (d : Document) (a : Answer) :
    l.Reports a (l.conclude d a).log := by
  cases a with
  | ok c =>
      rw [conclude_ok, concludeOutput]
      cases made : Report.diagnosticsOfText c.output with
      | ok diagnostics =>
          obtain ⟨r, holds, -⟩ := (Report.diagnosticsOfText_eq_ok_iff _ _).1 made
          exact .silent (fun rejected => rejected.1 ⟨r, holds⟩) rfl fun _ => rfl
      | error fault =>
          have limit_iff := Report.isLimit_iff_hasLongInteger made
          by_cases limit : fault.isLimit = true
          · simp only [if_pos limit]
            exact .silent (fun rejected => rejected.2 (limit_iff.1 limit)) rfl fun _ => rfl
          · have rejected : Answer.IsRejected (.ok c) :=
              ⟨Report.not_holds_of_error made, fun long => limit (limit_iff.2 long)⟩
            simp only [if_neg limit, conclusionWith]
            exact .rejected rejected _
  | error fault =>
      cases fault with
      | unavailable executable reason =>
          simp only [conclude, turnOff]
          split
          · rename_i on
            exact .turnedOff on rfl _
          · rename_i off
            exact .silent id rfl fun on => absurd on off
      | timedOut executable limit => exact .timedOut rfl _
      | workingDirectory cwd =>
          have rejected : Answer.IsRejected (.error (.workingDirectory cwd)) := trivial
          exact .rejected rejected _
      | invalid message =>
          have rejected : Answer.IsRejected (.error (.invalid message)) := trivial
          exact .rejected rejected _
      | probe fault cwd => exact .silent id rfl fun _ => rfl
      | system message => exact .silent id rfl fun _ => rfl
      | broken message => exact .silent id rfl fun _ => rfl
      | cancelled => exact .silent id rfl fun _ => rfl

/-- The lines of an answer, counted. -/
theorem Reports.counts {l : Linter} {a : Answer} {lines : List LogEntry}
    (reports : l.Reports a lines) :
    lines.countP (·.level == .debug) = 0 ∧
      lines.countP (·.level == .error) = (decide a.IsRejected).toNat ∧
      lines.countP (·.level == .warning) = (Answer.isTimedOut a).toNat +
        (l.isOn && Answer.isUnavailable a).toNat := by
  cases reports with
  | rejected rejected text =>
      obtain ⟨inTime, present⟩ := rejected.inTime_and_present
      simp [rejected, inTime, present]
  | timedOut late text =>
      obtain ⟨accepted, present⟩ := Answer.accepted_and_present_of_isTimedOut late
      simp [late, accepted, present]
  | turnedOff on missing text =>
      obtain ⟨accepted, inTime⟩ := Answer.accepted_and_inTime_of_isUnavailable missing
      simp [on, missing, accepted, inTime]
  | silent accepted inTime kept =>
      cases on : l.isOn with
      | false => simp [accepted, inTime]
      | true => simp [accepted, inTime, kept on]

end Linter

/-! ## What a session does -/

/-- What can be seen of a linter from outside: a line that it logs, or a command that it runs for a
call. -/
inductive Act where
  | logged (entry : LogEntry)
  | ran (call : Nat) (invocation : Invocation)

namespace Act

def line? : Act → Option LogEntry
  | .logged entry => some entry
  | .ran _ _ => none

def run? : Act → Option (Nat × Invocation)
  | .logged _ => none
  | .ran call i => some (call, i)

/-- Whether every command is announced by the line right in front of it. -/
def Announced (acts : List Act) : Prop :=
  ∀ before call i after, acts = before ++ .ran call i :: after →
    ∃ earlier, before = earlier ++ [.logged i.announcement]

theorem Announced.append {acts acts' : List Act} (announced : Announced acts)
    (announced' : Announced acts') : Announced (acts ++ acts') := by
  intro before call i after split
  rcases List.append_eq_append_iff.1 split with ⟨rest, rfl, split'⟩ | ⟨rest, rfl, split'⟩
  · obtain ⟨earlier, rfl⟩ := announced' rest call i after split'
    exact ⟨acts ++ earlier, (List.append_assoc ..).symm⟩
  · cases rest with
    | nil =>
        obtain ⟨earlier, none⟩ := announced' [] call i after split'.symm
        simp at none
    | cons act rest =>
        obtain ⟨rfl, -⟩ := List.cons.inj split'
        exact announced before call i rest rfl

end Act

namespace Session

/-- What a session does in one event, in order of time. -/
def acts (fs : FileSystem) (s : Session) : SessionEvent → List Act
  | .started call r =>
    match s.linter.prepare fs r.document r.folders with
    | .run i debug => [.logged debug, .ran call i]
    | _ => []
  | .answered call a =>
    match s.waiting.lookup call with
    | some d => (s.linter.conclude d a).log.map .logged
    | none => []

/-- What a session does in a history, in order of time. -/
def trace (s : Session) : List SessionStep → List Act
  | [] => []
  | step :: more => s.acts step.files step.event ++ trace (s.advance step) more

theorem filterMap_logged (lines : List LogEntry) :
    (lines.map Act.logged).filterMap Act.line? = lines ∧
      (lines.map Act.logged).filterMap Act.run? = [] := by
  induction lines with
  | nil => exact ⟨rfl, rfl⟩
  | cons line more ih => exact ⟨congrArg (line :: ·) ih.1, ih.2⟩

/-- An event adds the lines that are logged in it to the log, and the commands to those that were
run. -/
theorem feed_records (fs : FileSystem) (s : Session) (event : SessionEvent) :
    (s.feed fs event).log = s.log ++ (s.acts fs event).filterMap Act.line? ∧
      (s.feed fs event).runs = s.runs ++ (s.acts fs event).filterMap Act.run? := by
  cases event with
  | started call r =>
      simp only [feed, start, acts]
      cases s.linter.prepare fs r.document r.folders with
      | nothing => simp [finish]
      | failed fault => simp [finish]
      | run i debug => exact ⟨rfl, rfl⟩
  | answered call a =>
      simp only [feed, acts]
      cases waits : s.waiting.lookup call with
      | none => simp [answer_of_not_waiting waits]
      | some d =>
          obtain ⟨lines, none⟩ := filterMap_logged (s.linter.conclude d a).log
          simp only [answer_of_waiting waits, settle, lines, none, List.append_nil, and_self]

theorem replay_records (s : Session) (history : List SessionStep) :
    (s.replay history).log = s.log ++ (s.trace history).filterMap Act.line? ∧
      (s.replay history).runs = s.runs ++ (s.trace history).filterMap Act.run? := by
  induction history generalizing s with
  | nil => simp [replay, trace]
  | cons step more ih =>
      obtain ⟨log, runs⟩ := feed_records step.files s step.event
      obtain ⟨log', runs'⟩ := ih (s.advance step)
      rw [replay_cons, trace, List.filterMap_append, List.filterMap_append, log', runs', advance,
        log, runs, List.append_assoc, List.append_assoc]
      exact ⟨rfl, rfl⟩

/-! ## Announcements -/

theorem announced_acts (fs : FileSystem) (s : Session) (event : SessionEvent) :
    Act.Announced (s.acts fs event) := by
  intro before call i after split
  cases event with
  | started call' r =>
      simp only [acts] at split
      cases prepared : s.linter.prepare fs r.document r.folders with
      | nothing => simp [prepared] at split
      | failed fault => simp [prepared] at split
      | run i' debug =>
          obtain rfl := Linter.announcement_of_run prepared
          rw [prepared] at split
          -- the command is the second of two acts
          match before with
          | [] => simp at split
          | [first] =>
              simp only [List.cons_append, List.nil_append, List.cons.injEq, Act.ran.injEq] at split
              obtain ⟨rfl, ⟨-, rfl⟩, -⟩ := split
              exact ⟨[], rfl⟩
          | first :: second :: third => simp at split
  | answered call' a =>
      simp only [acts] at split
      have member : Act.ran call i ∈ before ++ .ran call i :: after := by simp
      rw [← split] at member
      cases waits : s.waiting.lookup call' <;> simp [waits] at member

theorem announced_trace (s : Session) (history : List SessionStep) :
    Act.Announced (s.trace history) := by
  induction history generalizing s with
  | nil =>
      intro before call i after split
      simp [trace] at split
  | cons step more ih => exact Act.Announced.append (announced_acts step.files s step.event) (ih _)

/-! ## Counting -/

theorem countP_singleton_eq_toNat {α : Type} (p : α → Bool) (x : α) :
    [x].countP p = (p x).toNat := by
  rw [List.countP_singleton]
  cases p x <;> rfl

/-- The lines for debugging announce the commands that are run, and there is one line of another
level or none for an answer, as `Reports` says. -/
theorem counts_acts (fs : FileSystem) (s : Session) (event : SessionEvent) :
    let lines := (s.acts fs event).filterMap Act.line?
    let answers := (s.delivery? event).toList
    lines.filter (·.level == .debug) =
        ((s.acts fs event).filterMap Act.run?).map (·.2.announcement) ∧
      lines.countP (·.level == .error) = answers.countP (·.IsRejected) ∧
      lines.countP (·.level == .warning) = answers.countP Answer.isTimedOut +
        (s.linter.isOn && answers.any Answer.isUnavailable).toNat := by
  cases event with
  | started call r =>
      cases prepared : s.linter.prepare fs r.document r.folders with
      | nothing => simp [acts, prepared, delivery?]
      | failed fault => simp [acts, prepared, delivery?]
      | run i debug =>
          obtain rfl := Linter.announcement_of_run prepared
          have level : i.announcement.level = .debug := rfl
          have made : s.acts fs (.started call r) = [.logged i.announcement, .ran call i] := by
            simp only [acts, prepared]
          have lines : [Act.logged i.announcement, .ran call i].filterMap Act.line? =
            [i.announcement] := rfl
          have runs : [Act.logged i.announcement, .ran call i].filterMap Act.run? =
            [(call, i)] := rfl
          rw [made, lines, runs]
          simp [delivery?, level]
  | answered call a =>
      cases waits : s.waiting.lookup call with
      | none => simp [acts, waits, delivery?]
      | some d =>
          obtain ⟨lines, none⟩ := filterMap_logged (s.linter.conclude d a).log
          obtain ⟨debug, error, warning⟩ := (s.linter.conclude_reports d a).counts
          simp only [acts, waits, delivery?, lines, none, Option.map_some, Option.toList_some,
            List.map_nil]
          refine ⟨?_, ?_, ?_⟩
          · rw [← List.length_eq_zero_iff, ← List.countP_eq_length_filter, debug]
          · rw [error, countP_singleton_eq_toNat]
          · rw [warning, countP_singleton_eq_toNat, List.any_cons, List.any_nil, Bool.or_false]

theorem isOn_feed (fs : FileSystem) (s : Session) (event : SessionEvent) :
    (s.feed fs event).linter.isOn =
      (s.linter.isOn && !(s.delivery? event).toList.any Answer.isUnavailable) := by
  have move := feed_move fs s event
  generalize s.feed fs event = s' at move
  cases move with
  | skipped call r idle => simp [delivery?, finish]
  | failed call r fault broken => simp [delivery?, finish]
  | launched call r i debug ready => simp [delivery?, launch]
  | ignored call a absent => simp [delivery?, absent]
  | settled call a d waits => simp [delivery?, waits, settle, Linter.conclude_linter]

theorem counts_trace (s : Session) (history : List SessionStep) :
    let lines := (s.trace history).filterMap Act.line?
    let answers := s.deliveries history
    lines.filter (·.level == .debug) =
        ((s.trace history).filterMap Act.run?).map (·.2.announcement) ∧
      lines.countP (·.level == .error) = answers.countP (·.IsRejected) ∧
      lines.countP (·.level == .warning) = answers.countP Answer.isTimedOut +
        (s.linter.isOn && answers.any Answer.isUnavailable).toNat := by
  induction history generalizing s with
  | nil => simp [trace, deliveries]
  | cons step more ih =>
      obtain ⟨debug, error, warning⟩ := counts_acts step.files s step.event
      obtain ⟨debug', error', warning'⟩ := ih (s.advance step)
      simp only [trace, deliveries, List.filterMap_append, List.filter_append, List.map_append,
        List.countP_append, debug, debug', error, error', warning, warning', true_and]
      -- the linter is turned off by the first answer of its kind, and then no further one counts
      have next : (s.advance step).linter.isOn =
          (s.linter.isOn && !(s.delivery? step.event).toList.any Answer.isUnavailable) :=
        isOn_feed ..
      rw [next, List.any_append]
      cases s.linter.isOn <;>
        cases (s.delivery? step.event).toList.any Answer.isUnavailable <;>
        cases ((s.advance step).deliveries more).any Answer.isUnavailable <;> simp <;> omega

/-- A linter that is off and has no call that waits takes no answers. -/
theorem deliveries_of_idle {s : Session} (off : s.linter.isOn = false) (idle : s.waiting = [])
    (history : List SessionStep) : s.deliveries history = [] := by
  induction history generalizing s with
  | nil => rfl
  | cons step more ih =>
      have move := feed_move step.files s step.event
      have nextOff := (move.of_off off).1
      have nothing : s.delivery? step.event = none ∧ (s.advance step).waiting = [] := by
        rw [advance]
        generalize s.feed step.files step.event = s' at move
        generalize step.event = event at move
        cases move with
        | skipped call r left => exact ⟨rfl, idle⟩
        | failed call r fault broken => exact ⟨rfl, idle⟩
        | launched call r i debug ready =>
            have on := (Linter.prepare_eq_run ready).1.on
            rw [off] at on
            cases on
        | ignored call a absent => exact ⟨by simp [delivery?, absent], idle⟩
        | settled call a d waits => simp [idle] at waits
      have later : (s.advance step).deliveries more = [] := ih nextOff nothing.2
      rw [deliveries, nothing.1, later]
      rfl

/-- After every history the log and the commands are what was done in it, and every command is
announced by the line right in front of it, which are all the lines for debugging. There is one
error for each answer that is rejected and one warning for each that came too late, and one more
warning if any answer has said that the executable is missing. A call that is left alone does
nothing. -/
theorem log_is_accounted_for (config : LinterConfig) (history : List SessionStep) :
    let s := (ofConfig config).replay history
    let done := (ofConfig config).trace history
    let answers := (ofConfig config).deliveries history
    (s.log = done.filterMap Act.line? ∧ s.runs = done.filterMap Act.run? ∧ Act.Announced done) ∧
      (s.log.filter (·.level == .debug) = s.runs.map (·.2.announcement) ∧
        (s.texts .debug).length = s.runs.length) ∧
      (s.texts .error).length = answers.countP (·.IsRejected) ∧
      (s.texts .warning).length = answers.countP Answer.isTimedOut +
        (answers.any Answer.isUnavailable).toNat ∧
      (∀ fs call r, s.linter.isOn = false ∨ Dialect.argument? r.document.text = none →
        s.acts fs (.started call r) = []) ∧
      ∀ fs call d a, s.waiting.lookup call = some d → ∃ lines, s.linter.Reports a lines ∧
        s.acts fs (.answered call a) = lines.map .logged := by
  intro s done answers
  obtain ⟨log, runs⟩ := (ofConfig config).replay_records history
  obtain ⟨debug, error, warning⟩ := (ofConfig config).counts_trace history
  have log_eq : s.log = done.filterMap Act.line? := log
  have runs_eq : s.runs = done.filterMap Act.run? := runs
  have length_texts (level : LogLevel) :
      (s.texts level).length = s.log.countP (·.level == level) := by
    rw [texts, List.length_map, List.countP_eq_length_filter]
  have announcements : s.log.filter (·.level == .debug) = s.runs.map (·.2.announcement) := by
    rw [log_eq, runs_eq, debug]
  refine ⟨⟨log_eq, runs_eq, announced_trace _ history⟩, ⟨announcements, ?_⟩, ?_, ?_, ?_, ?_⟩
  · rw [texts, List.length_map, announcements, List.length_map]
  · rw [length_texts, log_eq, error]
  · rw [length_texts, log_eq]
    refine warning.trans ?_
    cases on : (ofConfig config).linter.isOn with
    | true => rw [Bool.true_and]
    | false =>
        -- a linter that was never on is told nothing
        have none : answers = [] := deliveries_of_idle on rfl history
        simp only [answers] at none
        simp only [answers, none, List.any_nil, Bool.and_false]
  · intro fs call r idle
    have left : ¬ s.linter.Attempts r.document := by
      intro attempts
      rcases idle with off | unknown
      · exact Bool.false_ne_true (off.symm.trans attempts.on)
      · have known := attempts.known
        rw [unknown] at known
        cases known
    simp only [acts, Linter.prepare_of_not_attempts left]
  · intro fs call d a waits
    refine ⟨_, s.linter.conclude_reports d a, ?_⟩
    simp only [acts, waits]

end Session

end LintBridge
