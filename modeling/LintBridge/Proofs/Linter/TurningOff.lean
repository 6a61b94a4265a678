import LintBridge.Proofs.Linter.History

/-!
# Linting is turned off once and for good

A linter is on as long as its configuration names an executable and no answer has said that the
executable is missing. However the starts and the answers of its calls are interleaved, the first
such answer turns it off with one warning, the later ones are silent, and no command is run from
then on, while the calls that wait still end as their own answers say.
-/
set_option autoImplicit false

namespace LintBridge

namespace Session

/-- What holds of a session of a linter with a configuration, once some answers were delivered. -/
structure Tracks (config : LinterConfig) (answers : List Answer) (s : Session) : Prop where
  isOn_eq : s.linter.isOn = (config.isEnabled && !answers.any Answer.isUnavailable)
  enabled_of_waits : ∀ call d, s.waiting.lookup call = some d → config.isEnabled = true
  disablings_eq : s.log.countP LogEntry.isDisabling =
    if answers.any Answer.isUnavailable then 1 else 0

theorem Tracks.ofConfig (config : LinterConfig) : Tracks config [] (ofConfig config) where
  isOn_eq := by simp [Session.ofConfig, Linter.ofConfig]
  enabled_of_waits := by
    intro call d waits
    simp [Session.ofConfig] at waits
  disablings_eq := rfl

theorem Tracks.move {config : LinterConfig} {answers : List Answer} {fs : FileSystem}
    {s s' : Session} {event : SessionEvent} (tracks : Tracks config answers s)
    (move : Move fs s event s') :
    Tracks config (answers ++ (s.delivery? event).toList) s' := by
  cases move with
  | skipped call r idle =>
      rw [delivery?, Option.toList_none, List.append_nil]
      exact ⟨tracks.isOn_eq, tracks.enabled_of_waits, tracks.disablings_eq⟩
  | failed call r fault broken =>
      rw [delivery?, Option.toList_none, List.append_nil]
      exact ⟨tracks.isOn_eq, tracks.enabled_of_waits, tracks.disablings_eq⟩
  | launched call r i debug ready =>
      obtain ⟨attempts, level⟩ := Linter.prepare_eq_run ready
      have quiet : debug.isDisabling = false := by simp [LogEntry.isDisabling, level]
      have enabled : config.isEnabled = true := by
        have isOn_eq := tracks.isOn_eq
        rw [attempts.on] at isOn_eq
        exact (Bool.and_eq_true_iff.1 isOn_eq.symm).1
      rw [delivery?, Option.toList_none, List.append_nil]
      refine ⟨tracks.isOn_eq, fun _ _ _ => enabled, ?_⟩
      rw [launch, List.countP_append, tracks.disablings_eq]
      simp [quiet]
  | ignored call a absent => simpa [delivery?, absent] using tracks
  | settled call a d waits =>
      have enabled := tracks.enabled_of_waits call d waits
      have isOn_eq := tracks.isOn_eq
      rw [enabled, Bool.true_and] at isOn_eq
      simp only [delivery?, waits, Option.map_some, Option.toList_some]
      refine ⟨?_, fun _ _ _ => enabled, ?_⟩
      · simp [settle, Linter.conclude_linter, isOn_eq, enabled]
      · -- the warning is logged exactly if no earlier answer has turned the linter off
        rw [settle, List.countP_append, tracks.disablings_eq, Linter.countP_conclude_log, isOn_eq,
          List.any_append, List.any_cons, List.any_nil, Bool.or_false]
        cases answers.any Answer.isUnavailable <;> cases Answer.isUnavailable a <;> rfl

theorem Tracks.replay {config : LinterConfig} {answers : List Answer} {s : Session}
    (tracks : Tracks config answers s) (history : List SessionStep) :
    Tracks config (answers ++ s.deliveries history) (s.replay history) := by
  induction history generalizing s answers with
  | nil =>
      rw [deliveries, List.append_nil]
      exact tracks
  | cons step more ih =>
      have next := ih (tracks.move (feed_move step.files s step.event))
      rw [List.append_assoc] at next
      exact next

theorem Move.of_off {fs : FileSystem} {s s' : Session} {event : SessionEvent}
    (move : Move fs s event s') (off : s.linter.isOn = false) :
    s'.linter.isOn = false ∧ s'.runs = s.runs := by
  cases move with
  | skipped call r idle => exact ⟨off, rfl⟩
  | failed call r fault broken => exact ⟨off, rfl⟩
  | launched call r i debug ready =>
      have on := (Linter.prepare_eq_run ready).1.on
      rw [off] at on
      exact absurd on Bool.false_ne_true
  | ignored call a absent => exact ⟨off, rfl⟩
  | settled call a d waits => exact ⟨by simp [settle, Linter.conclude_linter, off], rfl⟩

theorem replay_of_off {s : Session} (off : s.linter.isOn = false) (history : List SessionStep) :
    (s.replay history).linter.isOn = false ∧ (s.replay history).runs = s.runs := by
  apply replay_induction (P := fun t => t.linter.isOn = false ∧ t.runs = s.runs) history
  · intro fs t event t' move holds
    obtain ⟨stillOff, kept⟩ := move.of_off holds.1
    exact ⟨stillOff, kept.trans holds.2⟩
  · exact ⟨off, rfl⟩

/-- After every history the linter is on exactly if an executable is configured and no answer has
said that it is missing; the warning about that is in the log once if there was such an answer and
otherwise not at all; a linter that is off stays off and runs nothing more; and a call that waits
ends as its own answer says, whether the linter is on or off by then. -/
theorem turned_off_once (config : LinterConfig) (history : List SessionStep) :
    let s := (ofConfig config).replay history
    let isMissing := ∃ a ∈ (ofConfig config).deliveries history, Answer.isUnavailable a = true
    (s.linter.isOn = true ↔ (∃ name, config.executable = some name ∧ name ≠ "") ∧ ¬ isMissing) ∧
      (isMissing → s.log.countP LogEntry.isDisabling = 1) ∧
      (¬ isMissing → s.log.countP LogEntry.isDisabling = 0) ∧
      (s.linter.isOn = false → ∀ more,
        (s.replay more).linter.isOn = false ∧ (s.replay more).runs = s.runs) ∧
      ∀ call d a, s.waiting.lookup call = some d →
        (s.answer call a).finished = s.finished ++ [(call, Answer.outcome a)] ∧
          (s.answer call a).runs = s.runs ∧ (s.answer call a).waiting.lookup call = none := by
  intro s isMissing
  have tracks := (Tracks.ofConfig config).replay history
  rw [List.nil_append] at tracks
  have any_iff : ((ofConfig config).deliveries history).any Answer.isUnavailable = true ↔
      isMissing := List.any_eq_true
  refine ⟨?_, ?_, ?_, fun off more => replay_of_off off more, ?_⟩
  · rw [tracks.isOn_eq, Bool.and_eq_true, config.isEnabled_iff, Bool.not_eq_true', ← any_iff,
      Bool.not_eq_true]
  · intro missing
    rw [tracks.disablings_eq, if_pos (any_iff.2 missing)]
  · intro present
    rw [tracks.disablings_eq, if_neg (fun any => present (any_iff.1 any))]
  · intro call d a waits
    rw [answer_of_waiting waits]
    exact ⟨rfl, rfl, lookup_filter_self call s.waiting⟩

end Session

end LintBridge
