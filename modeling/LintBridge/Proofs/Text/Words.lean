import LintBridge.Proofs.Text.Runs
import LintBridge.Text.Blank

/-!
# Words of a text

The words of a text are its runs of characters that are not blank: blanks in front are skipped
(`words_blank_append`), and a run in front of a blank or the end is the first word
(`words_append`). Every first word comes from such a run (`words_eq_cons_iff`).
-/
set_option autoImplicit false

namespace LintBridge.Text

def isSolid (c : Char) : Bool := !isBlank c

theorem isSolid_eq_true_iff (c : Char) : isSolid c = true ↔ isBlank c = false := by
  rw [isSolid, Bool.not_eq_true']

theorem isSolid_eq_false_iff (c : Char) : isSolid c = false ↔ isBlank c = true := by
  rw [isSolid, Bool.not_eq_false']

theorem words_cons_of_isBlank {c : Char} (blank : isBlank c = true) (rest : List Char) :
    words (c :: rest) = words rest := if_pos blank

theorem words_singleton {c : Char} (solid : isBlank c = false) : words [c] = [[c]] :=
  if_neg (Bool.eq_false_iff.1 solid)

theorem words_cons_blank {c d : Char} (solid : isBlank c = false) (blank : isBlank d = true)
    (rest : List Char) : words (c :: d :: rest) = [c] :: words (d :: rest) :=
  (if_neg (Bool.eq_false_iff.1 solid)).trans (if_pos blank)

/-- A character in front of one that is not blank starts the same word. -/
theorem words_cons_cons {c d : Char} (solid : isBlank c = false) (next : isBlank d = false)
    (rest : List Char) :
    words (c :: d :: rest) =
      match words (d :: rest) with
      | [] => [[c]]
      | word :: more => (c :: word) :: more :=
  (if_neg (Bool.eq_false_iff.1 solid)).trans (if_neg (Bool.eq_false_iff.1 next))

theorem words_blank_append {space : List Char} (blank : ∀ c ∈ space, isBlank c = true)
    (text : List Char) : words (space ++ text) = words text := by
  induction space with
  | nil => rfl
  | cons c space ih =>
      rw [List.forall_mem_cons] at blank
      rw [List.cons_append, words_cons_of_isBlank blank.1, ih blank.2]

/-- A run of characters that are not blank is a word in front of a blank or the end. -/
theorem words_append {word behind : List Char} (some : word ≠ [])
    (solid : ∀ c ∈ word, isBlank c = false) (stops : Stops isSolid behind) :
    words (word ++ behind) = word :: words behind := by
  induction word with
  | nil => exact absurd rfl some
  | cons c word ih =>
      rw [List.forall_mem_cons] at solid
      cases word with
      | nil =>
          cases behind with
          | nil => exact words_singleton solid.1
          | cons d behind =>
              exact words_cons_blank solid.1 ((isSolid_eq_false_iff d).1 (stops d rfl)) behind
      | cons d word =>
          have next : isBlank d = false := solid.2 d (List.mem_cons_self ..)
          have read := ih (List.cons_ne_nil d word) solid.2
          rw [List.cons_append] at read
          rw [List.cons_append, List.cons_append, words_cons_cons solid.1 next, read]

theorem words_eq_cons_iff (text word : List Char) (more : List (List Char)) :
    words text = word :: more ↔
      ∃ space behind, text = space ++ (word ++ behind) ∧ (∀ c ∈ space, isBlank c = true) ∧
        word ≠ [] ∧ (∀ c ∈ word, isBlank c = false) ∧ Stops isSolid behind ∧
        words behind = more := by
  constructor
  · intro read
    have blank : ∀ c ∈ text.takeWhile isBlank, isBlank c = true := fun c => List.mem_takeWhile_imp
    have split := List.takeWhile_append_dropWhile (p := isBlank) (l := text)
    rw [← split, words_blank_append blank] at read
    -- Behind the blanks the first word is the run up to the next one.
    cases started : text.dropWhile isBlank with
    | nil =>
        rw [started] at read
        cases read
    | cons c rest =>
        have first : isBlank c = false := stops_dropWhile isBlank text c (by rw [started]; rfl)
        have run := List.takeWhile_append_dropWhile (p := isSolid) (l := c :: rest)
        have given : (c :: rest).takeWhile isSolid ≠ [] := by
          rw [List.takeWhile_cons_of_pos ((isSolid_eq_true_iff c).2 first)]
          exact List.cons_ne_nil _ _
        have solid : ∀ d ∈ (c :: rest).takeWhile isSolid, isBlank d = false :=
          fun d member => (isSolid_eq_true_iff d).1 (List.mem_takeWhile_imp member)
        have stops := stops_dropWhile isSolid (c :: rest)
        rw [started, ← run, words_append given solid stops] at read
        obtain ⟨rfl, rfl⟩ := List.cons.inj read
        exact ⟨_, _, by rw [run, ← started, split], blank, given, solid, stops, rfl⟩
  · rintro ⟨space, behind, rfl, blank, given, solid, stops, rfl⟩
    rw [words_blank_append blank, words_append given solid stops]

theorem of_mem_words {text word : List Char} (member : word ∈ words text) :
    word ≠ [] ∧ ∀ c ∈ word, isBlank c = false := by
  generalize listed : words text = found at member
  induction found generalizing text with
  | nil => cases member
  | cons first more ih =>
      obtain ⟨-, behind, -, -, given, solid, -, rest⟩ := (words_eq_cons_iff ..).1 listed
      rcases List.mem_cons.1 member with rfl | member
      · exact ⟨given, solid⟩
      · exact ih rest member

end LintBridge.Text
