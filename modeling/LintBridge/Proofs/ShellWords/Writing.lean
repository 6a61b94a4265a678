import LintBridge.Proofs.ShellWords.Reading

/-!
# Words survive being written

A word is written as it is if it holds safe characters only, and else between apostrophes, which are
left for each apostrophe in it. Either way a reader takes the word from what was written
(`scan_word_quote`), and the space behind it ends the word, so that the words of a command line are
those that it was written from (`split_join`).
-/
set_option autoImplicit false

namespace LintBridge.ShellWords

/-! ## One word -/

theorem isBare_of_isSafe {c : Char} (safe : isSafe c = true) : isBare c = true := by
  have special : [' ', '\t', '\r', '\n', '\\', '\'', '"'].any isSafe = false := by decide
  have apart : ∀ d ∈ [' ', '\t', '\r', '\n', '\\', '\'', '"'], c ≠ d := by
    rintro d listed rfl
    exact List.any_eq_false.1 special c listed safe
  simp only [List.forall_mem_cons] at apart
  obtain ⟨blank, tab, back, feed, backslash, apostrophe, mark, -⟩ := apart
  simp [isBare, isSeparator, blank, tab, back, feed, backslash, apostrophe, mark]

/-- Safe characters stand for themselves. -/
theorem scan_word_safe {word : List Char} (safe : ∀ c ∈ word, isSafe c = true)
    (behind : List Char) :
    scan .word (word ++ behind) = (scan .word behind).map (Rest.prependAll word) := by
  induction word with
  | nil => exact (map_prependAll_nil _).symm
  | cons c more ih =>
      rw [List.forall_mem_cons] at safe
      rw [List.cons_append, scan_word_of_isBare _ (isBare_of_isSafe safe.1), ih safe.2]
      cases scan .word behind <;> rfl

/-- Between apostrophes the reader takes every character, and comes back behind each apostrophe that
stands between quotation marks. -/
theorem scan_apostrophes_escaped (word behind : List Char) :
    scan .apostrophes (word.flatMap escapeChar ++ '\'' :: behind) =
      (scan .word behind).map (Rest.prependAll word) := by
  induction word with
  | nil => exact (map_prependAll_nil _).symm
  | cons c more ih =>
      have step : scan .apostrophes ((c :: more).flatMap escapeChar ++ '\'' :: behind) =
          (scan .apostrophes (more.flatMap escapeChar ++ '\'' :: behind)).map
            (Rest.prepend c) := by
        rw [List.flatMap_cons, List.append_assoc, escapeChar]
        by_cases apostrophe : c = '\''
        · subst apostrophe
          rfl
        · have other : (c == '\'') = false := beq_eq_false_iff_ne.2 apostrophe
          rw [other, if_neg Bool.false_ne_true, List.singleton_append, scan, other]
          rfl
      rw [step, ih]
      cases scan .word behind <;> rfl

/-- A reader in a word takes what was written of another one as the rest of it. -/
theorem scan_word_quote (word behind : List Char) :
    scan .word (quote word ++ behind) = (scan .word behind).map (Rest.prependAll word) := by
  rw [quote]
  split_ifs with plain
  · rw [Bool.and_eq_true, List.all_eq_true] at plain
    exact scan_word_safe plain.2 behind
  · rw [List.cons_append, List.cons_append, List.append_assoc, List.singleton_append,
      scan_word_apostrophe]
    exact scan_apostrophes_escaped word behind

/-- What is written of a word, be it empty, starts with a character that starts a word. -/
theorem exists_quote_eq (word : List Char) :
    ∃ c rest, quote word = c :: rest ∧ isSeparator c = false := by
  rw [quote]
  split_ifs with plain
  · rw [Bool.and_eq_true, List.all_eq_true] at plain
    cases word with
    | nil => cases plain.1
    | cons c more =>
        have own := isBare_of_isSafe (plain.2 c (List.mem_cons_self ..))
        simp only [isBare, Bool.and_eq_true, Bool.not_eq_true'] at own
        exact ⟨c, more, rfl, own.1.1.1⟩
  · exact ⟨'\'', _, rfl, by decide⟩

theorem scan_between_quote (word behind : List Char) :
    scan .between (quote word ++ behind) =
      (scan .word behind).map fun r => (r.prependAll word).start := by
  obtain ⟨c, rest, written, solid⟩ := exists_quote_eq word
  have step := scan_between_of_not_isSeparator (rest ++ behind) solid
  rw [← List.cons_append, ← written, scan_word_quote] at step
  rw [step]
  cases scan .word behind <;> rfl

/-! ## All words -/

theorem join_cons (word : List Char) (more : List (List Char)) :
    join (word :: more) = quote word ++ more.flatMap fun next => ' ' :: quote next := by
  induction more generalizing word with
  | nil => simp [join]
  | cons next others ih =>
      have split : join (word :: next :: others) = quote word ++ ' ' :: join (next :: others) := by
        simp [join]
      rw [split, ih, List.flatMap_cons]
      rfl

theorem scan_written (word : List Char) (more : List (List Char)) :
    scan .between (quote word ++ more.flatMap fun next => ' ' :: quote next) =
      .ok ⟨[], word :: more⟩ := by
  induction more generalizing word with
  | nil =>
      rw [scan_between_quote]
      simp [Except.map, Rest.prependAll, Rest.start]
  | cons next others ih =>
      rw [scan_between_quote, List.flatMap_cons, List.cons_append,
        scan_word_of_isSeparator _ (by decide), ih]
      simp [Except.map, Rest.close, Rest.prependAll, Rest.start]

/-- Reading gives back the words that were written. -/
theorem split_join (words : List (List Char)) : split (join words) = .ok words := by
  cases words with
  | nil => rfl
  | cons word more =>
      rw [split, join_cons, scan_written]
      rfl

end LintBridge.ShellWords
