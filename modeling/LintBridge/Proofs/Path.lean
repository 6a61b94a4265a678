import LintBridge.Path

/-!
# What a path is written as reads as that path

The names of a path are neither empty nor single dots and hold no slash, so that the slashes in the
text of a path are exactly those of its anchor and those between names (`ofText_toString`).
-/
set_option autoImplicit false

namespace LintBridge

theorem isPathName_iff (name : String) :
    isPathName name = true ↔ name ≠ "" ∧ name ≠ "." ∧ '/' ∉ name.toList := by
  simp [isPathName, and_assoc]

namespace Path

theorem isPathName_of_mem {p : Path} {name : String} (member : name ∈ p.names) :
    isPathName name = true :=
  List.all_eq_true.1 p.names_ok name member

theorem ofNames_skip {text : String} (skipped : isPathName text = false) (anchor : Anchor)
    (texts : List String) : ofNames anchor (text :: texts) = ofNames anchor texts := by
  simp [ofNames, skipped]

/-- The names of a path with slashes between them. -/
def body (p : Path) : List Char := ("/".intercalate p.names).toList

theorem toList_toString_of_absolute {p : Path} (absolute : p.isAbsolute = true) :
    p.toString.toList = p.anchor.show.toList ++ p.body := by
  have anchored : p.anchor ≠ .relative := by simpa [isAbsolute] using absolute
  simp [toString, anchored, body]

theorem body_of_names_nil {p : Path} (empty : p.names = []) : p.body = [] := by
  rw [body, empty]
  rfl

theorem body_of_names_cons {p : Path} {name : String} {more : List String}
    (names : p.names = name :: more) : ∃ behind, p.body = name.toList ++ behind := by
  rw [body, names, String.toList_intercalate]
  cases more with
  | nil => exact ⟨[], by simp⟩
  | cons next more => exact ⟨_, by rw [List.map_cons, List.map_cons, List.intercalate_cons_cons,
      List.append_assoc]⟩

theorem mem_intercalate_slash_iff {c : Char} (noSlash : c ≠ '/') (texts : List String) :
    c ∈ ("/".intercalate texts).toList ↔ ∃ text ∈ texts, c ∈ text.toList := by
  have slash : "/".toList = ['/'] := by decide
  induction texts with
  | nil => simp
  | cons text more ih =>
      simp only [List.mem_cons, exists_eq_or_imp]
      refine Iff.trans ?_ (or_congr_right ih)
      rw [String.toList_intercalate, String.toList_intercalate, slash]
      cases more with
      | nil => simp
      | cons next more =>
          rw [List.map_cons, List.map_cons, List.intercalate_cons_cons, List.mem_append,
            List.mem_append, List.mem_singleton]
          simp [noSlash]

/-- A character other than a slash is in the text of a path if it is in one of the names. -/
theorem mem_toString_iff {p : Path} (absolute : p.isAbsolute = true) {c : Char}
    (noSlash : c ≠ '/') : c ∈ p.toString.toList ↔ ∃ name ∈ p.names, c ∈ name.toList := by
  have anchor : c ∉ p.anchor.show.toList := by
    cases p.anchor <;> simp [Anchor.show, noSlash]
  rw [toList_toString_of_absolute absolute, List.mem_append, body,
    mem_intercalate_slash_iff noSlash]
  exact or_iff_right anchor

/-- The pieces between the slashes are the names. -/
theorem pieces_body {p : Path} (named : p.names ≠ []) : pieces p.body = p.names := by
  have slashless : ∀ text ∈ p.names.map String.toList, '/' ∉ text := by
    intro text member
    obtain ⟨name, named, rfl⟩ := List.mem_map.1 member
    exact ((isPathName_iff name).1 (isPathName_of_mem named)).2.2
  have split := List.splitOn_intercalate '/' slashless (by simpa using named)
  have slash : "/".toList = ['/'] := by decide
  rw [pieces, body, String.toList_intercalate, slash, split, List.map_map]
  simp [Function.comp_def]

theorem takeWhile_slash_body (p : Path) : p.body.takeWhile (· == '/') = [] := by
  cases names : p.names with
  | nil => rw [body_of_names_nil names, List.takeWhile_nil]
  | cons name more =>
      obtain ⟨behind, starts⟩ := body_of_names_cons names
      have ok := (isPathName_iff name).1 (isPathName_of_mem (names ▸ List.mem_cons_self ..))
      rw [starts]
      cases letters : name.toList with
      | nil => exact absurd (String.toList_inj.1 letters) ok.1
      | cons c rest =>
          have first : c ≠ '/' := by
            rintro rfl
            exact ok.2.2 (letters ▸ List.mem_cons_self ..)
          rw [List.cons_append, List.takeWhile_cons_of_neg (by simpa using first)]

theorem pieces_slash (text : List Char) : pieces ('/' :: text) = "" :: pieces text := by
  rw [pieces, List.splitOn_cons_eq_if_modifyHead, if_pos (beq_self_eq_true _)]
  rfl

theorem ofNames_pieces_body (p : Path) : ofNames p.anchor (pieces p.body) = p := by
  cases names : p.names with
  | nil =>
      have none : pieces p.body = [""] := by
        rw [body_of_names_nil names]
        rfl
      rw [none, ofNames_skip (by decide), ← names, ofNames_names]
  | cons name more => rw [pieces_body (by rw [names]; exact List.cons_ne_nil _ _), ofNames_names]

/-- A path is what its text reads as. -/
theorem ofText_toString (p : Path) : ofText p.toString.toList = p := by
  have slashless := p.takeWhile_slash_body
  have read := p.ofNames_pieces_body
  cases anchor : p.anchor with
  | relative =>
      by_cases empty : p.names = []
      · obtain ⟨a, names, ok⟩ := p
        simp only at anchor empty
        subst anchor empty
        have dot : ofText here.toString.toList = here := by decide +kernel
        exact dot
      · have text : p.toString.toList = p.body := by
          simp [toString, anchor, empty, body, Anchor.show]
        rw [anchor] at read
        rw [text, ofText, slashless]
        exact read
  | root =>
      have text := toList_toString_of_absolute (p := p) (by simp [isAbsolute, anchor])
      have slash : Anchor.root.show.toList = ['/'] := by decide
      rw [anchor, slash] at text
      rw [anchor] at read
      rw [text, List.singleton_append, ofText, List.takeWhile_cons_of_pos (by decide), slashless,
        pieces_slash, ofNames_skip (by decide)]
      exact read
  | doubleRoot =>
      have text := toList_toString_of_absolute (p := p) (by simp [isAbsolute, anchor])
      have slashes : Anchor.doubleRoot.show.toList = ['/', '/'] := by decide
      rw [anchor, slashes] at text
      rw [anchor] at read
      rw [text, List.cons_append, List.singleton_append, ofText,
        List.takeWhile_cons_of_pos (by decide), List.takeWhile_cons_of_pos (by decide), slashless,
        pieces_slash, pieces_slash, ofNames_skip (by decide), ofNames_skip (by decide)]
      exact read

end Path

end LintBridge
