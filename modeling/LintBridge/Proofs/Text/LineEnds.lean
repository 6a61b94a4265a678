import LintBridge.Proofs.Text.Lines

/-!
# Line feeds, carriage returns and pairs of them

A text has the same lines whether they end with line feeds, with carriage returns or with pairs of
both (`splitLinesBy_unifyLineEnds`). Its first line alone is told from a line feed only, so that the
carriage return of a pair stays behind it as a blank (`trim_firstLine_pairLineEnds`).
-/
set_option autoImplicit false

namespace LintBridge.Text

/-- A text with a carriage return in front of every line feed. -/
def pairLineEnds (text : List Char) : List Char :=
  text.flatMap fun c => if c = '\n' then ['\r', '\n'] else [c]

theorem pairLineEnds_lineFeed (rest : List Char) :
    pairLineEnds ('\n' :: rest) = '\r' :: '\n' :: pairLineEnds rest := rfl

theorem pairLineEnds_cons {c : Char} (other : c ≠ '\n') (rest : List Char) :
    pairLineEnds (c :: rest) = c :: pairLineEnds rest := by
  rw [pairLineEnds, List.flatMap_cons, if_neg other]
  rfl

/-! ## All lines -/

theorem unifyLineEnds_cons {c : Char} (other : c ≠ '\r') (rest : List Char) :
    unifyLineEnds (c :: rest) = c :: unifyLineEnds rest := by
  rw [unifyLineEnds]
  · exact fun _ same => absurd same other
  · exact fun same => absurd same other

theorem unifyLineEnds_eq_self_iff (text : List Char) :
    unifyLineEnds text = text ↔ '\r' ∉ text := by
  constructor
  · intro same
    rw [← same]
    exact not_mem_unifyLineEnds text
  · intro absent
    induction text with
    | nil => rfl
    | cons c rest ih =>
        rw [List.mem_cons, not_or] at absent
        rw [unifyLineEnds_cons (Ne.symm absent.1), ih absent.2]

/-- Pairs are what line feeds are made of once more. -/
theorem unifyLineEnds_pairLineEnds {text : List Char} (absent : '\r' ∉ text) :
    unifyLineEnds (pairLineEnds text) = text := by
  induction text with
  | nil => rfl
  | cons c rest ih =>
      rw [List.mem_cons, not_or] at absent
      by_cases ends : c = '\n'
      · rw [ends, pairLineEnds_lineFeed, unifyLineEnds, ih absent.2]
      · rw [pairLineEnds_cons ends, unifyLineEnds_cons (Ne.symm absent.1), ih absent.2]

/-- Line ends of different kinds end the same lines. -/
theorem splitLinesBy_unifyLineEnds {ends : Char → Bool} (lineFeed : ends '\n' = true)
    (carriageReturn : ends '\r' = true) (text : List Char) :
    splitLinesBy ends (unifyLineEnds text) = splitLinesBy ends text := by
  have noReturn : ∀ rest behind : List Char, '\n' = '\r' → rest = '\n' :: behind → False :=
    fun _ _ same => absurd same (by decide)
  fun_induction unifyLineEnds text with
  | case1 => rfl
  | case2 rest ih => rw [splitLinesBy_cons (noReturn _), if_pos lineFeed, splitLinesBy, ih]
  | case3 rest alone ih =>
      rw [splitLinesBy_cons (noReturn _), if_pos lineFeed, ih,
        splitLinesBy_cons fun behind _ same => alone behind same, if_pos carriageReturn]
  | case4 c rest notPair notReturn ih =>
      have other : ∀ rest behind : List Char, c = '\r' → rest = '\n' :: behind → False :=
        fun _ _ same => absurd same notReturn
      rw [splitLinesBy_cons (other _), splitLinesBy_cons (other _), ih]

theorem splitLines_pairLineEnds {text : List Char} (absent : '\r' ∉ text) :
    splitLines (pairLineEnds text) = splitLines text := by
  rw [splitLines, ← splitLinesBy_unifyLineEnds (by decide) (by decide),
    unifyLineEnds_pairLineEnds absent]

/-! ## The first line -/

theorem firstLine_cons {c : Char} (other : c ≠ '\n') (rest : List Char) :
    firstLine (c :: rest) = c :: firstLine rest :=
  List.takeWhile_cons_of_pos (bne_iff_ne.2 other)

/-- A pair leaves its carriage return behind the first line. -/
theorem exists_firstLine_pairLineEnds (text : List Char) :
    ∃ behind, firstLine (pairLineEnds text) = firstLine text ++ behind ∧
      ∀ c ∈ behind, isBlank c = true := by
  induction text with
  | nil => exact ⟨[], rfl, List.forall_mem_nil _⟩
  | cons c rest ih =>
      by_cases ends : c = '\n'
      · rw [ends]
        exact ⟨['\r'], rfl, List.forall_mem_singleton.2 rfl⟩
      · obtain ⟨behind, line, blank⟩ := ih
        refine ⟨behind, ?_, blank⟩
        rw [pairLineEnds_cons ends, firstLine_cons ends, firstLine_cons ends, line,
          List.cons_append]

theorem trimEnd_append_of_blank (text : List Char) {behind : List Char}
    (blank : ∀ c ∈ behind, isBlank c = true) : trimEnd (text ++ behind) = trimEnd text := by
  induction text with
  | nil => exact (trimEnd_eq_nil_iff behind).2 blank
  | cons c rest ih => rw [List.cons_append, trimEnd, trimEnd, ih]

/-- Blanks behind a text are trimmed away with those at its own end. -/
theorem trim_append_of_blank (text : List Char) {behind : List Char}
    (blank : ∀ c ∈ behind, isBlank c = true) : trim (text ++ behind) = trim text := by
  rw [trim, trimStart, List.dropWhile_append]
  split_ifs with empty
  · have none : trimEnd (behind.dropWhile isBlank) = [] :=
      (trimEnd_eq_nil_iff _).2 fun c member => blank c ((List.dropWhile_sublist _).mem member)
    rw [none, trim, trimStart, List.isEmpty_iff.1 empty]
    rfl
  · rw [trimEnd_append_of_blank _ blank]
    rfl

theorem trim_firstLine_pairLineEnds (text : List Char) :
    trim (firstLine (pairLineEnds text)) = trim (firstLine text) := by
  obtain ⟨behind, line, blank⟩ := exists_firstLine_pairLineEnds text
  rw [line, trim_append_of_blank _ blank]

end LintBridge.Text
