import LintBridge.Proofs.Text.Runs
import LintBridge.Text.Blank
import LintBridge.Text.Lines

/-!
# Lines of a text

No line holds a character that ends lines, and what is put behind a line end leaves the lines in
front of it as they are (`splitLinesBy_prefix`). Trimming a line takes the blanks at its ends away
and nothing else (`exists_trim_append`).
-/
set_option autoImplicit false

namespace LintBridge.Text

section

variable {ends : Char → Bool}

/-- The lines of a text whose first two characters are no single line end. -/
theorem splitLinesBy_cons {c : Char} {rest : List Char}
    (alone : ∀ behind, c = '\r' → rest = '\n' :: behind → False) :
    splitLinesBy ends (c :: rest) =
      if ends c then [] :: splitLinesBy ends rest
      else
        match splitLinesBy ends rest with
        | [] => [[c]]
        | line :: more => (c :: line) :: more :=
  splitLinesBy.eq_3 ends c rest alone

/-- A character that ends lines leaves an empty line in front of it, whatever follows. -/
theorem exists_splitLinesBy_of_ends {c : Char} (ended : ends c = true) (rest : List Char) :
    ∃ more, splitLinesBy ends (c :: rest) = [] :: more := by
  by_cases pair : ∃ behind, c = '\r' ∧ rest = '\n' :: behind
  · obtain ⟨behind, rfl, rfl⟩ := pair
    exact ⟨splitLinesBy ends behind, by rw [splitLinesBy]⟩
  · have alone : ∀ behind, c = '\r' → rest = '\n' :: behind → False :=
      fun behind first second => pair ⟨behind, first, second⟩
    exact ⟨splitLinesBy ends rest, by rw [splitLinesBy_cons alone, if_pos ended]⟩

theorem eq_nil_of_splitLinesBy {text : List Char} (none : splitLinesBy ends text = []) :
    text = [] := by
  unfold splitLinesBy at none
  split at none
  · rfl
  · cases none
  · split at none
    · cases none
    · split at none <;> cases none

/-- Lines that stand in front of a line end stay the same whatever is put behind it. A carriage
return at the end of the text and a line feed behind it are one line end. -/
theorem splitLinesBy_prefix (carriageReturn : ends '\r' = true) {e : Char} (ended : ends e = true)
    (text behind : List Char) :
    splitLinesBy ends text <+: splitLinesBy ends (text ++ e :: behind) := by
  have apart {c : Char} {rest : List Char} (first : c ≠ '\r' ∨ rest ≠ [])
      (alone : ∀ behind, c = '\r' → rest = '\n' :: behind → False) :
      ∀ more, c = '\r' → rest ++ e :: behind = '\n' :: more → False := by
    rintro more rfl same
    cases rest with
    | nil => simp at first
    | cons d rest =>
        obtain ⟨rfl, -⟩ := List.cons.inj same
        exact alone rest rfl rfl
  fun_induction splitLinesBy ends text with
  | case1 => exact List.nil_prefix
  | case2 rest ih =>
      rw [List.cons_append, List.cons_append, splitLinesBy]
      exact (List.prefix_cons_inj _).2 ih
  | case3 c rest alone kind ih =>
      cases rest with
      | nil =>
          obtain ⟨more, lines⟩ := exists_splitLinesBy_of_ends kind (e :: behind)
          rw [List.singleton_append, lines]
          exact (List.prefix_cons_inj _).2 List.nil_prefix
      | cons d rest =>
          rw [List.cons_append, splitLinesBy_cons (apart (.inr (List.cons_ne_nil d rest)) alone),
            if_pos kind]
          exact (List.prefix_cons_inj _).2 ih
  | case4 c rest alone kind empty ih =>
      have other : c ≠ '\r' := by
        rintro rfl
        exact kind carriageReturn
      obtain rfl := eq_nil_of_splitLinesBy empty
      obtain ⟨more, lines⟩ := exists_splitLinesBy_of_ends ended behind
      rw [List.cons_append, splitLinesBy_cons (apart (.inl other) alone), if_neg kind,
        List.nil_append, lines]
      exact (List.prefix_cons_inj _).2 List.nil_prefix
  | case5 c rest alone kind line more split ih =>
      have other : c ≠ '\r' := by
        rintro rfl
        exact kind carriageReturn
      rw [split] at ih
      obtain ⟨added, lines⟩ := ih
      rw [List.cons_append, splitLinesBy_cons (apart (.inl other) alone), if_neg kind, ← lines]
      exact (List.prefix_cons_inj _).2 (List.prefix_append _ _)

theorem forall_not_ends_of_mem {text line : List Char} (member : line ∈ splitLinesBy ends text) :
    ∀ c ∈ line, ends c = false := by
  fun_induction splitLinesBy ends text generalizing line with
  | case1 => cases member
  | case2 rest ih =>
      rcases List.mem_cons.1 member with rfl | member
      · exact List.forall_mem_nil _
      · exact ih member
  | case3 c rest alone kind ih =>
      rcases List.mem_cons.1 member with rfl | member
      · exact List.forall_mem_nil _
      · exact ih member
  | case4 c rest alone kind empty ih =>
      obtain rfl := List.mem_singleton.1 member
      exact List.forall_mem_singleton.2 (Bool.of_not_eq_true kind)
  | case5 c rest alone kind first more split ih =>
      rw [split] at ih
      rcases List.mem_cons.1 member with rfl | member
      · exact List.forall_mem_cons.2 ⟨Bool.of_not_eq_true kind, ih (List.mem_cons_self ..)⟩
      · exact ih (List.mem_cons_of_mem _ member)

end

/-! ## Trimming -/

theorem mem_of_mem_trimEnd {c : Char} {text : List Char} (member : c ∈ trimEnd text) :
    c ∈ text := by
  induction text with
  | nil => exact member
  | cons d rest ih =>
      rw [trimEnd] at member
      split at member
      · split at member
        · cases member
        · exact List.mem_cons.2 (.inl (List.mem_singleton.1 member))
      · rename_i kept
        rcases List.mem_cons.1 member with rfl | member
        · exact List.mem_cons_self ..
        · exact List.mem_cons_of_mem _ (ih (kept ▸ member))

theorem mem_of_mem_trim {c : Char} {text : List Char} (member : c ∈ trim text) : c ∈ text :=
  (List.dropWhile_sublist _).mem (mem_of_mem_trimEnd member)

theorem exists_trimEnd_cons {c : Char} (solid : isBlank c = false) (rest : List Char) :
    ∃ kept, trimEnd (c :: rest) = c :: kept := by
  rw [trimEnd]
  split
  · exact ⟨[], by rw [solid]; rfl⟩
  · exact ⟨_, rfl⟩

theorem trimStart_trim (text : List Char) : trimStart (trim text) = trim text := by
  rw [trim, trimStart]
  cases started : trimStart text with
  | nil => rfl
  | cons c rest =>
      have first : (text.dropWhile isBlank).head? = some c := by
        rw [← trimStart, started]
        rfl
      have solid : isBlank c = false := stops_dropWhile isBlank text c first
      obtain ⟨kept, ended⟩ := exists_trimEnd_cons solid rest
      rw [ended]
      exact dropWhile_of_stops (stops_cons solid)

/-- What trimming takes away at the end is blank, and what it leaves does not end in a blank. -/
theorem exists_trimEnd_append (text : List Char) :
    ∃ behind, text = trimEnd text ++ behind ∧ (∀ c ∈ behind, isBlank c = true) ∧
      Stops isBlank (trimEnd text).reverse := by
  induction text with
  | nil => exact ⟨[], rfl, List.forall_mem_nil _, stops_nil⟩
  | cons c rest ih =>
      obtain ⟨behind, split, blank, stops⟩ := ih
      rw [trimEnd]
      split
      · rename_i empty
        rw [empty, List.nil_append] at split
        split_ifs with blank'
        · exact ⟨c :: rest, rfl, List.forall_mem_cons.2 ⟨blank', split ▸ blank⟩, stops_nil⟩
        · exact ⟨rest, rfl, split ▸ blank, stops_cons (Bool.of_not_eq_true blank')⟩
      · rename_i d kept same
        rw [same] at split stops
        refine ⟨behind, congrArg (c :: ·) split, blank, fun e first => stops e ?_⟩
        rw [List.head?_reverse] at first ⊢
        rw [List.getLast?_cons_cons] at first
        exact first

/-- A text is what trimming leaves of it between blanks, and that has no blank at its ends. -/
theorem exists_trim_append (text : List Char) :
    ∃ front behind, text = front ++ (trim text ++ behind) ∧ (∀ c ∈ front, isBlank c = true) ∧
      (∀ c ∈ behind, isBlank c = true) ∧ Stops isBlank (trim text) ∧
      Stops isBlank (trim text).reverse := by
  obtain ⟨behind, split, blank, stops⟩ := exists_trimEnd_append (trimStart text)
  have start : Stops isBlank (trim text) := by
    rw [← trimStart_trim]
    exact stops_dropWhile isBlank _
  refine ⟨text.takeWhile isBlank, behind, ?_, fun c => List.mem_takeWhile_imp, blank, start, stops⟩
  rw [trim, ← split, trimStart, List.takeWhile_append_dropWhile]

/-- What is left of a text between its blanks is empty exactly if all of it is blank. -/
theorem trim_eq_nil_iff (text : List Char) :
    trim text = [] ↔ ∀ c ∈ text, isBlank c = true := by
  obtain ⟨front, behind, split, blank, blank', start, -⟩ := exists_trim_append text
  constructor
  · intro empty c member
    rw [split, empty, List.nil_append, List.mem_append] at member
    exact member.elim (blank c) (blank' c)
  · intro all
    cases left : trim text with
    | nil => rfl
    | cons c rest =>
        have member : c ∈ trim text := left ▸ List.mem_cons_self ..
        have solid := start c (by rw [left]; rfl)
        rw [all c (mem_of_mem_trim member)] at solid
        cases solid

end LintBridge.Text
