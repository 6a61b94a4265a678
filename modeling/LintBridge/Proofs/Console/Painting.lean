import LintBridge.Console
import LintBridge.Proofs.Report.ControlSequences
import LintBridge.Proofs.Text.Runs
import Mathlib.Data.List.Basic

/-!
# Pieces of colours and the text that they make up

What a console writes depends on the pieces that it is given through their colours and their text
put together, and not on where one of them ends: without colours it writes the text line by line
with its tabs filled (`toList_render_of_hasColors_eq_false`), and with colours it writes the same
between sequences that set and reset them. So the text without colours is what remains where these
sequences are taken away (`stripControlSequences_render`), and only colours add escape characters
to it (`count_escape_render`).
-/
set_option autoImplicit false

namespace LintBridge.Console

/-- The text that pieces make up. -/
def textOf (pieces : List Piece) : List Char := pieces.flatMap Piece.text

theorem textOf_cons (p : Piece) (more : List Piece) : textOf (p :: more) = p.text ++ textOf more :=
  List.flatMap_cons

theorem textOf_append (pieces more : List Piece) :
    textOf (pieces ++ more) = textOf pieces ++ textOf more :=
  List.flatMap_append

theorem textOf_map_clean (pieces : List Piece) :
    textOf (pieces.map clean) = (textOf pieces).filter (!isDropped ·) := by
  rw [textOf, textOf, List.flatMap_map, List.filter_flatMap]
  rfl

/-! ## Lines -/

/-- The lines of pieces are the lines of the text that they make up. -/
theorem map_textOf_linesOf (pieces : List Piece) :
    (linesOf pieces).map textOf = (textOf pieces).splitOn '\n' := by
  induction pieces with
  | nil => rfl
  | cons p more ih =>
      obtain ⟨line, lines, split⟩ := List.exists_cons_of_ne_nil (linesOf_ne_nil more)
      rw [split, List.map_cons] at ih
      -- The last part of this piece and the first line of what follows stand on one line.
      have alone : textOf ∘ (fun text => [Piece.mk p.codes text]) = id := by
        funext text
        exact textOf_cons _ [] |>.trans (List.append_nil text)
      rw [textOf_cons, Text.splitOn_append p.text ih.symm, linesOf, split]
      simp only [List.map_append, List.map_map, alone, List.map_id, List.map_cons, textOf_cons]

/-! ## Tabs -/

/-- What is written for a character behind a stretch of its line. -/
def filled (s : Stretch) (c : Char) : List Char := if c = '\t' then (fill s).1 else [c]

/-- The stretch behind a character. -/
def Stretch.past (s : Stretch) (c : Char) : Stretch :=
  if c = '\t' then ⟨(fill s).2, []⟩ else { s with text := s.text ++ [c] }

/-- A line behind a stretch of it, with spaces in place of each tab. -/
def filledLine (s : Stretch) : List Char → List Char
  | [] => []
  | c :: rest => filled s c ++ filledLine (s.past c) rest

theorem filledLine_append (s : Stretch) (text more : List Char) :
    filledLine s (text ++ more) =
      filledLine s text ++ filledLine (text.foldl Stretch.past s) more := by
  induction text generalizing s with
  | nil => rfl
  | cons c rest ih =>
      rw [List.cons_append, filledLine, ih, filledLine, List.append_assoc, List.foldl_cons]

theorem Stretch.past_tab (s : Stretch) : s.past '\t' = ⟨(fill s).2, []⟩ := if_pos rfl

theorem filledLine_tab (s : Stretch) (rest : List Char) :
    filledLine s ('\t' :: rest) = (fill s).1 ++ filledLine ⟨(fill s).2, []⟩ rest := by
  rw [filledLine, filled, if_pos rfl, Stretch.past_tab]

/-- A text without tabs belongs to the stretch that it stands in. -/
theorem filledLine_of_not_mem {text : List Char} (tabless : '\t' ∉ text) (s : Stretch) :
    filledLine s text = text ∧ text.foldl Stretch.past s = { s with text := s.text ++ text } := by
  induction text generalizing s with
  | nil => simp [filledLine]
  | cons c rest ih =>
      rw [List.mem_cons, not_or] at tabless
      obtain ⟨same, stretch⟩ := ih tabless.2 (s.past c)
      have other : c ≠ '\t' := Ne.symm tabless.1
      rw [filledLine, same, List.foldl_cons, stretch, filled, if_neg other, Stretch.past,
        if_neg other, List.append_assoc]
      exact ⟨rfl, rfl⟩

/-- Texts with a tab between each two are filled like one text, and so is what stands behind. -/
theorem textOf_fillTabs (codes : String) {texts : List (List Char)} (present : texts ≠ [])
    (tabless : ∀ text ∈ texts, '\t' ∉ text) (s : Stretch) :
    textOf (fillTabs codes s texts).1 = filledLine s (['\t'].intercalate texts) ∧
      (fillTabs codes s texts).2 = (['\t'].intercalate texts).foldl Stretch.past s := by
  induction texts generalizing s with
  | nil => exact absurd rfl present
  | cons text more ih =>
      rw [List.forall_mem_cons] at tabless
      obtain ⟨same, stretch⟩ := filledLine_of_not_mem tabless.1 s
      cases more with
      | nil =>
          rw [List.intercalate_singleton, same, stretch]
          exact ⟨List.append_nil text, rfl⟩
      | cons next more =>
          obtain ⟨later, behind⟩ := ih (List.cons_ne_nil next more) tabless.2
            ⟨(fill { s with text := s.text ++ text }).2, []⟩
          rw [List.intercalate_cons_cons, List.append_assoc, filledLine_append, same,
            List.foldl_append, stretch, List.singleton_append, filledLine_tab, List.foldl_cons,
            Stretch.past_tab, ← later, ← behind, ← List.append_assoc]
          exact ⟨rfl, rfl⟩

/-- Tabs are filled in the text of a line, wherever its pieces end. -/
theorem textOf_expandTabs (s : Stretch) (line : List Piece) :
    textOf (expandTabs s line) = filledLine s (textOf line) := by
  induction line generalizing s with
  | nil => rfl
  | cons p more ih =>
      have tabless : ∀ text ∈ p.text.splitOn '\t', '\t' ∉ text := by
        intro text cut member
        exact (Text.mem_and_ne_of_mem_splitOn cut member).2 rfl
      obtain ⟨first, behind⟩ :=
        textOf_fillTabs p.codes (List.splitOn_ne_nil '\t' p.text) tabless s
      rw [List.intercalate_splitOn] at first behind
      rw [expandTabs, textOf_cons, filledLine_append, ← behind, ← first, ← ih, ← textOf_append]

theorem mem_filledLine {s : Stretch} {text : List Char} {c : Char}
    (written : c ∈ filledLine s text) : c = ' ' ∨ c ∈ text := by
  induction text generalizing s with
  | nil => cases written
  | cons d rest ih =>
      rw [filledLine, List.mem_append, filled] at written
      rcases written with first | later
      · split_ifs at first
        · exact .inl (List.eq_of_mem_replicate first)
        · rw [List.mem_singleton] at first
          exact .inr (first ▸ List.mem_cons_self ..)
      · exact (ih later).imp_right (List.mem_cons_of_mem d)

theorem count_escape_filledLine (s : Stretch) (text : List Char) :
    (filledLine s text).count '\x1b' = text.count '\x1b' := by
  induction text generalizing s with
  | nil => rfl
  | cons c rest ih =>
      have here : (filled s c).count '\x1b' = [c].count '\x1b' := by
        rw [filled]
        split_ifs with tab
        · rw [tab, fill, List.count_replicate]
          rfl
        · rfl
      rw [filledLine, List.count_append, ih, here, ← List.count_append, List.singleton_append]

/-! ## Colours -/

/-- A text on a console without colours: each of its lines on its own, without the characters that
are dropped and with its tabs filled. -/
def plain (text : List Char) : List Char :=
  ((text.filter (!isDropped ·)).splitOn '\n').flatMap fun line => filledLine {} line ++ ['\n']

theorem plain_textOf (pieces : List Piece) :
    plain (textOf pieces) =
      (linesOf (pieces.map clean)).flatMap fun line => textOf (expandTabs {} line) ++ ['\n'] := by
  rw [plain, ← textOf_map_clean, ← map_textOf_linesOf, List.flatMap_map]
  simp only [textOf_expandTabs]

theorem flatMap_ended {lines : List (List Char)} (present : lines ≠ []) :
    (lines.flatMap fun line => line ++ ['\n']) = ['\n'].intercalate lines ++ ['\n'] := by
  induction lines with
  | nil => exact absurd rfl present
  | cons line more ih =>
      rw [List.flatMap_cons]
      cases more with
      | nil => rw [List.intercalate_singleton, List.flatMap_nil, List.append_nil]
      | cons next more =>
          rw [ih (List.cons_ne_nil _ _), List.intercalate_cons_cons, List.append_assoc,
            List.append_assoc, List.append_assoc]

theorem isDropped_of_any_eq_false {text : List Char} (kept : text.any isDropped = false) :
    ∀ c ∈ text, isDropped c = false :=
  fun c member => Bool.eq_false_iff.2 (List.any_eq_false.1 kept c member)

/-- A text is written as it is if it has no tab and no character that is dropped. -/
theorem plain_of_tabless {text : List Char} (tabless : '\t' ∉ text)
    (kept : ∀ c ∈ text, isDropped c = false) : plain text = text ++ ['\n'] := by
  have whole : text.filter (!isDropped ·) = text :=
    List.filter_eq_self.2 fun c member => by rw [kept c member, Bool.not_false]
  have unfilled : ∀ line ∈ text.splitOn '\n', filledLine {} line ++ ['\n'] = line ++ ['\n'] := by
    intro line cut
    have absent : '\t' ∉ line := fun tab => tabless (Text.mem_and_ne_of_mem_splitOn cut tab).1
    rw [(filledLine_of_not_mem absent {}).1]
  rw [plain, whole, List.flatMap_congr unfilled, flatMap_ended (List.splitOn_ne_nil '\n' text),
    List.intercalate_splitOn]

theorem toList_render (c : Console) (pieces : List Piece) :
    (c.render pieces).toList = (linesOf (pieces.map clean)).flatMap (paintLine c) :=
  String.toList_ofList

theorem toList_render_of_hasColors_eq_false {c : Console} (colorless : c.hasColors = false)
    (pieces : List Piece) : (c.render pieces).toList = plain (textOf pieces) := by
  have unpainted : paint c = Piece.text := by
    funext p
    exact if_pos (by rw [colorless, Bool.not_false, Bool.or_true])
  have bare : paintLine c = fun line => textOf (expandTabs {} line) ++ ['\n'] := by
    funext line
    rw [paintLine, unpainted, textOf]
  rw [toList_render, plain_textOf, bare]

theorem count_escape_lines (lines : List (List Char)) :
    (lines.flatMap fun line => filledLine {} line ++ ['\n']).count '\x1b' =
      (['\n'].intercalate lines).count '\x1b' := by
  have feed : ['\n'].count '\x1b' = 0 := by decide
  induction lines with
  | nil => rfl
  | cons line more ih =>
      rw [List.flatMap_cons, List.count_append, List.count_append, count_escape_filledLine, ih,
        feed]
      cases more with
      | nil => rw [List.intercalate_singleton]; rfl
      | cons next more =>
          rw [List.intercalate_cons_cons, List.count_append, List.count_append, feed]

/-- No escape character is added or dropped without colours. -/
theorem count_escape_plain (text : List Char) :
    (plain text).count '\x1b' = text.count '\x1b' := by
  rw [plain, count_escape_lines, List.intercalate_splitOn, List.count_filter rfl]

theorem escape_not_mem_plain {text : List Char} (absent : '\x1b' ∉ text) :
    '\x1b' ∉ plain text := by
  rw [← List.count_eq_zero] at absent ⊢
  rw [count_escape_plain, absent]

/-- Whether a piece is set between sequences. -/
def isPainted (c : Console) (p : Piece) : Bool := c.hasColors && !p.text.isEmpty

theorem paint_of_isPainted {c : Console} {p : Piece} (painted : c.isPainted p = true) :
    paint c p = '\x1b' :: '[' :: (p.codes.toList ++ 'm' :: (p.text ++ "\x1b[0m".toList)) := by
  rw [isPainted, Bool.and_eq_true, Bool.not_eq_true'] at painted
  have sequences : paint c p =
      '\x1b' :: '[' :: p.codes.toList ++ 'm' :: p.text ++ "\x1b[0m".toList :=
    if_neg (by rw [painted.1, painted.2]; decide)
  rw [sequences, List.append_assoc]
  rfl

theorem paint_of_isPainted_eq_false {c : Console} {p : Piece} (bare : c.isPainted p = false) :
    paint c p = p.text := by
  rw [isPainted, Bool.and_eq_false_iff, Bool.not_eq_false'] at bare
  refine if_pos ?_
  rcases bare with colorless | empty
  · rw [colorless, Bool.not_false, Bool.or_true]
  · rw [empty, Bool.true_or]

/-- Pieces whose codes are those of colours. -/
def HaveCodes (pieces : List Piece) : Prop := ∀ p ∈ pieces, AreCodes p.codes.toList

theorem haveCodes_linesOf {pieces : List Piece} (codes : HaveCodes pieces) :
    ∀ line ∈ linesOf pieces, HaveCodes line := by
  induction pieces with
  | nil =>
      intro line split
      rw [List.mem_singleton.1 split]
      exact codes
  | cons p more ih =>
      obtain ⟨next, lines, split⟩ := List.exists_cons_of_ne_nil (linesOf_ne_nil more)
      rw [HaveCodes, List.forall_mem_cons] at codes
      have later := ih codes.2
      rw [split, List.forall_mem_cons] at later
      rw [linesOf, split]
      simp only [List.forall_mem_append, List.forall_mem_map, List.forall_mem_cons, HaveCodes]
      refine ⟨fun text cut => ⟨codes.1, ?_⟩, ⟨codes.1, later.1⟩, later.2⟩
      exact fun q none => absurd none List.not_mem_nil

theorem haveCodes_fillTabs {codes : String} (all : AreCodes codes.toList)
    (s : Stretch) (texts : List (List Char)) : HaveCodes (fillTabs codes s texts).1 := by
  fun_induction fillTabs codes s texts with
  | case1 => exact fun q none => absurd none List.not_mem_nil
  | case2 s text =>
      intro q alone
      rw [List.mem_singleton.1 alone]
      exact all
  | case3 s text more _ spaces column _ pieces behind filled ih =>
      rw [filled] at ih
      exact List.forall_mem_cons.2 ⟨all, ih⟩

theorem haveCodes_expandTabs {line : List Piece} (codes : HaveCodes line) (s : Stretch) :
    HaveCodes (expandTabs s line) := by
  induction line generalizing s with
  | nil => exact codes
  | cons p more ih =>
      rw [HaveCodes, List.forall_mem_cons] at codes
      rw [expandTabs, HaveCodes, List.forall_mem_append]
      exact ⟨haveCodes_fillTabs codes.1 s _, ih codes.2 _⟩

/-! ## What is written with colours -/

section

variable {c : Console} {pieces : List Piece}

theorem stripControlSequences_paint {p : Piece} (codes : AreCodes p.codes.toList)
    (absent : '\x1b' ∉ p.text) (rest : List Char) :
    stripControlSequences (paint c p ++ rest) = p.text ++ stripControlSequences rest := by
  cases painted : c.isPainted p with
  | false =>
      rw [paint_of_isPainted_eq_false painted, stripControlSequences_append absent]
  | true =>
      have zero : AreCodes ['0'] := by decide
      have reset : stripControlSequences ("\x1b[0m".toList ++ rest) = stripControlSequences rest :=
        stripControlSequences_codes zero rest
      rw [paint_of_isPainted painted, List.cons_append, List.cons_append, List.append_assoc,
        List.cons_append, stripControlSequences_codes codes, List.append_assoc,
        stripControlSequences_append absent, reset]

theorem stripControlSequences_flatMap_paint (codes : HaveCodes pieces)
    (absent : '\x1b' ∉ textOf pieces) (rest : List Char) :
    stripControlSequences (pieces.flatMap (paint c) ++ rest) =
      textOf pieces ++ stripControlSequences rest := by
  induction pieces with
  | nil => rfl
  | cons p more ih =>
      rw [HaveCodes, List.forall_mem_cons] at codes
      rw [textOf_cons, List.mem_append, not_or] at absent
      rw [List.flatMap_cons, List.append_assoc, stripControlSequences_paint codes.1 absent.1,
        ih codes.2 absent.2, textOf_cons, List.append_assoc]

theorem stripControlSequences_lines {lines : List (List Piece)}
    (codes : ∀ line ∈ lines, HaveCodes line)
    (absent : ∀ line ∈ lines, '\x1b' ∉ textOf (expandTabs {} line)) :
    stripControlSequences (lines.flatMap (paintLine c)) =
      lines.flatMap fun line => textOf (expandTabs {} line) ++ ['\n'] := by
  induction lines with
  | nil => rw [List.flatMap_nil, List.flatMap_nil, stripControlSequences]
  | cons line more ih =>
      rw [List.forall_mem_cons] at codes absent
      have feed : '\x1b' ∉ ['\n'] := by decide
      rw [List.flatMap_cons, paintLine, List.append_assoc,
        stripControlSequences_flatMap_paint (haveCodes_expandTabs codes.1 {}) absent.1,
        stripControlSequences_append feed, ih codes.2 absent.2, List.flatMap_cons,
        List.append_assoc]

/-- Without its sequences a text is as it is written without colours. -/
theorem stripControlSequences_render (c : Console) (codes : HaveCodes pieces)
    (absent : '\x1b' ∉ textOf pieces) :
    stripControlSequences (c.render pieces).toList = plain (textOf pieces) := by
  have codes' : HaveCodes (pieces.map clean) := List.forall_mem_map.2 codes
  have absent' := escape_not_mem_plain absent
  rw [plain_textOf, List.mem_flatMap] at absent'
  rw [toList_render, plain_textOf]
  refine stripControlSequences_lines (haveCodes_linesOf codes') fun line split member => ?_
  exact absent' ⟨line, split, List.mem_append_left _ member⟩

/-- The pieces that are written of some pieces, line by line. -/
def written (pieces : List Piece) : List Piece :=
  (linesOf (pieces.map clean)).flatMap (expandTabs {})

theorem count_escape_paint {p : Piece} (codes : AreCodes p.codes.toList) :
    (paint c p).count '\x1b' = p.text.count '\x1b' + if c.isPainted p then 2 else 0 := by
  cases painted : c.isPainted p with
  | false => rw [paint_of_isPainted_eq_false painted, if_neg Bool.false_ne_true, Nat.add_zero]
  | true =>
      have none : p.codes.toList.count '\x1b' = 0 := by
        rw [List.count_eq_zero]
        exact fun member => absurd (codes _ member) (by decide)
      rw [paint_of_isPainted painted, if_pos rfl]
      simp [none]

theorem count_escape_flatMap_paint (codes : HaveCodes pieces) :
    (pieces.flatMap (paint c)).count '\x1b' =
      (textOf pieces).count '\x1b' + 2 * pieces.countP c.isPainted := by
  induction pieces with
  | nil => rfl
  | cons p more ih =>
      rw [HaveCodes, List.forall_mem_cons] at codes
      rw [List.flatMap_cons, List.count_append, count_escape_paint codes.1, ih codes.2,
        textOf_cons, List.count_append, List.countP_cons]
      split <;> omega

theorem count_escape_paintLines {lines : List (List Piece)}
    (codes : ∀ line ∈ lines, HaveCodes line) :
    (lines.flatMap (paintLine c)).count '\x1b' =
      (lines.flatMap fun line => textOf (expandTabs {} line) ++ ['\n']).count '\x1b' +
        2 * (lines.flatMap (expandTabs {})).countP c.isPainted := by
  induction lines with
  | nil => rfl
  | cons line more ih =>
      rw [List.forall_mem_cons] at codes
      rw [List.flatMap_cons, paintLine, List.count_append, List.count_append,
        count_escape_flatMap_paint (haveCodes_expandTabs codes.1 {}), ih codes.2,
        List.flatMap_cons, List.count_append, List.count_append, List.flatMap_cons,
        List.countP_append]
      omega

/-- Each piece between sequences adds two escape characters, and nothing else adds or drops one. -/
theorem count_escape_render (c : Console) (codes : HaveCodes pieces) :
    (c.render pieces).toList.count '\x1b' =
      (textOf pieces).count '\x1b' + 2 * (written pieces).countP c.isPainted := by
  have codes' : HaveCodes (pieces.map clean) := List.forall_mem_map.2 codes
  rw [toList_render, count_escape_paintLines (haveCodes_linesOf codes'), ← plain_textOf,
    count_escape_plain, written]

/-- Something is set between sequences exactly on a console with colours and in a text that has
more than ends of lines. -/
theorem exists_isPainted_iff (c : Console) (pieces : List Piece) :
    (∃ p ∈ written pieces, c.isPainted p = true) ↔
      c.hasColors = true ∧ ∃ d ∈ plain (textOf pieces), d ≠ '\n' := by
  simp only [written, plain_textOf, List.mem_flatMap, isPainted, Bool.and_eq_true,
    Bool.not_eq_true', List.mem_append, List.mem_singleton]
  constructor
  · rintro ⟨p, ⟨line, split, filled⟩, colors, visible⟩
    obtain ⟨d, member⟩ := List.exists_mem_of_ne_nil p.text fun empty => by
      rw [empty] at visible
      cases visible
    have written : d ∈ textOf (expandTabs {} line) := List.mem_flatMap.2 ⟨p, filled, member⟩
    refine ⟨colors, d, ⟨line, split, .inl written⟩, ?_⟩
    have cut : textOf line ∈ (textOf (pieces.map clean)).splitOn '\n' := by
      rw [← map_textOf_linesOf]
      exact List.mem_map_of_mem split
    rw [textOf_expandTabs] at written
    rcases mem_filledLine written with rfl | member
    · decide
    · exact (Text.mem_and_ne_of_mem_splitOn cut member).2
  · rintro ⟨colors, d, ⟨line, split, written | feed⟩, visible⟩
    · obtain ⟨p, filled, member⟩ := List.mem_flatMap.1 written
      refine ⟨p, ⟨line, split, filled⟩, colors, ?_⟩
      rw [List.isEmpty_eq_false_iff]
      exact List.ne_nil_of_mem member
    · exact absurd feed visible

/-- Escape characters are added exactly if something is set between sequences. -/
theorem count_escape_lt_render_iff (c : Console) (codes : HaveCodes pieces) :
    (textOf pieces).count '\x1b' < (c.render pieces).toList.count '\x1b' ↔
      c.hasColors = true ∧ ∃ d ∈ plain (textOf pieces), d ≠ '\n' := by
  rw [count_escape_render c codes, ← exists_isPainted_iff, ← List.countP_pos_iff]
  omega

end

end LintBridge.Console
