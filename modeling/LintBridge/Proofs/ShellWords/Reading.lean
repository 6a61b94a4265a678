import LintBridge.ShellWords
import Mathlib.Data.List.Induction

/-!
# What a command line says

A command line is made of pieces: separators, characters that stand for themselves, characters that
a backslash quotes, and stretches between apostrophes or between quotation marks. Its words are the
meanings of the pieces between the separators (`split_eq_ok_iff`). A text that is not made of pieces
is pieces up to a quote that is not closed or to a backslash that quotes nothing, and this is what
it is refused for (`split_eq_error_iff`).
-/
set_option autoImplicit false

namespace LintBridge.ShellWords

/-! ## Pieces -/

/-- A character between quotation marks, on its own or behind a backslash. -/
inductive Inner where
  | plain (c : Char) (own : c ≠ '"' ∧ c ≠ '\\')
  | quoted (c : Char)

namespace Inner

def source : Inner → List Char
  | plain c _ => [c]
  | quoted c => ['\\', c]

/-- Between quotation marks a backslash quotes itself and quotation marks only. -/
def meaning : Inner → List Char
  | plain c _ => [c]
  | quoted c => if c = '"' ∨ c = '\\' then [c] else ['\\', c]

end Inner

/-- A character that stands for itself where nothing is quoted. -/
def isBare (c : Char) : Bool := !isSeparator c && c != '\\' && c != '\'' && c != '"'

inductive Piece where
  | separator (c : Char) (separates : isSeparator c = true)
  | bare (c : Char) (own : isBare c = true)
  | quoted (c : Char)
  | apostrophes (body : List Char) (free : '\'' ∉ body)
  | quotationMarks (body : List Inner)

namespace Piece

def source : Piece → List Char
  | separator c _ => [c]
  | bare c _ => [c]
  | quoted c => ['\\', c]
  | apostrophes body _ => '\'' :: (body ++ ['\''])
  | quotationMarks body => '"' :: (body.flatMap Inner.source ++ ['"'])

def isSeparator : Piece → Bool
  | separator _ _ => true
  | _ => false

/-- What a piece adds to the word that it is in. -/
def meaning : Piece → List Char
  | separator _ _ => []
  | bare c _ => [c]
  | quoted c => [c]
  | apostrophes body _ => body
  | quotationMarks body => body.flatMap Inner.meaning

end Piece

/-- The pieces between the separators, word by word; there is no word between two separators. -/
def wordsOf (pieces : List Piece) : List (List Char) :=
  ((pieces.splitOnP Piece.isSeparator).filter fun group => !group.isEmpty).map fun group =>
    group.flatMap Piece.meaning

/-- What stands at the end of a text that is not made of pieces. -/
inductive Opening where
  | backslash
  | apostrophes (body : List Char) (free : '\'' ∉ body)
  | quotationMarks (body : List Inner)
  | quotedBackslash (body : List Inner)

namespace Opening

def source : Opening → List Char
  | backslash => ['\\']
  | apostrophes body _ => '\'' :: body
  | quotationMarks body => '"' :: body.flatMap Inner.source
  | quotedBackslash body => '"' :: (body.flatMap Inner.source ++ ['\\'])

def fault : Opening → Fault
  | backslash => .openEscape
  | apostrophes _ _ => .openQuote
  | quotationMarks _ => .openQuote
  | quotedBackslash _ => .openEscape

end Opening

/-! ## Steps of the reader -/

/-- Adds characters in front of the word that a reader is in. -/
def Rest.prependAll (cs : List Char) (r : Rest) : Rest := { r with word := cs ++ r.word }

theorem map_prependAll_nil (outcome : Except Fault Rest) :
    outcome.map (Rest.prependAll []) = outcome := by
  cases outcome <;> rfl

section

variable {c : Char} (rest : List Char)

theorem scan_between_cons (other : c ≠ '\\') :
    scan .between (c :: rest) =
      if isSeparator c then scan .between rest
      else if c == '\'' then (scan .apostrophes rest).map Rest.start
      else if c == '"' then (scan .quotationMarks rest).map Rest.start
      else (scan .word rest).map fun r => (r.prepend c).start := by
  rw [scan]
  · exact fun same => absurd same other
  · exact fun _ _ same => absurd same other

theorem scan_word_cons (other : c ≠ '\\') :
    scan .word (c :: rest) =
      if isSeparator c then (scan .between rest).map Rest.close
      else if c == '\'' then scan .apostrophes rest
      else if c == '"' then scan .quotationMarks rest
      else (scan .word rest).map (Rest.prepend c) := by
  rw [scan]
  · exact fun same => absurd same other
  · exact fun _ _ same => absurd same other

theorem scan_quotationMarks_cons (other : c ≠ '\\') :
    scan .quotationMarks (c :: rest) =
      if c == '"' then scan .word rest
      else (scan .quotationMarks rest).map (Rest.prepend c) := by
  rw [scan]
  · exact fun same => absurd same other
  · exact fun _ _ same => absurd same other

theorem ne_backslash_of_isSeparator (separates : isSeparator c = true) : c ≠ '\\' := by
  rintro rfl
  exact absurd separates (by decide)

theorem scan_between_of_isSeparator (separates : isSeparator c = true) :
    scan .between (c :: rest) = scan .between rest := by
  rw [scan_between_cons rest (ne_backslash_of_isSeparator separates), if_pos separates]

theorem scan_word_of_isSeparator (separates : isSeparator c = true) :
    scan .word (c :: rest) = (scan .between rest).map Rest.close := by
  rw [scan_word_cons rest (ne_backslash_of_isSeparator separates), if_pos separates]

/-- Anything but a separator starts a word and goes on as if the word had already been there. -/
theorem scan_between_of_not_isSeparator (solid : isSeparator c = false) :
    scan .between (c :: rest) = (scan .word (c :: rest)).map Rest.start := by
  by_cases backslash : c = '\\'
  · subst backslash
    cases rest with
    | nil => rfl
    | cons d rest =>
        rw [scan, scan]
        cases scan .word rest <;> rfl
  · rw [scan_between_cons rest backslash, scan_word_cons rest backslash, solid]
    simp only [Bool.false_eq_true, if_false]
    split_ifs
    · rfl
    · rfl
    · cases scan .word rest <;> rfl

theorem scan_word_of_isBare (own : isBare c = true) :
    scan .word (c :: rest) = (scan .word rest).map (Rest.prepend c) := by
  simp only [isBare, Bool.and_eq_true, Bool.not_eq_true', bne_iff_ne] at own
  obtain ⟨⟨⟨solid, other⟩, noApostrophe⟩, noMark⟩ := own
  rw [scan_word_cons rest other, solid, beq_eq_false_iff_ne.2 noApostrophe,
    beq_eq_false_iff_ne.2 noMark]
  rfl

end

theorem scan_apostrophes_append {body : List Char} (free : '\'' ∉ body) (behind : List Char) :
    scan .apostrophes (body ++ behind) =
      (scan .apostrophes behind).map (Rest.prependAll body) := by
  induction body with
  | nil => rw [List.nil_append, map_prependAll_nil]
  | cons c more ih =>
      rw [List.mem_cons, not_or] at free
      have other : (c == '\'') = false := beq_eq_false_iff_ne.2 (Ne.symm free.1)
      rw [List.cons_append, scan, other, ih free.2]
      cases scan .apostrophes behind <;> rfl

theorem scan_inner (inner : Inner) (behind : List Char) :
    scan .quotationMarks (inner.source ++ behind) =
      (scan .quotationMarks behind).map (Rest.prependAll inner.meaning) := by
  cases inner with
  | plain c own =>
      have open' : (c == '"') = false := beq_eq_false_iff_ne.2 own.1
      rw [Inner.source, List.singleton_append, scan_quotationMarks_cons behind own.2, open']
      rfl
  | quoted c =>
      rw [Inner.source, Inner.meaning, List.cons_append, List.singleton_append, scan]
      simp only [Bool.or_eq_true, beq_iff_eq]
      split <;> rfl

theorem scan_quotationMarks_append (body : List Inner) (behind : List Char) :
    scan .quotationMarks (body.flatMap Inner.source ++ behind) =
      (scan .quotationMarks behind).map (Rest.prependAll (body.flatMap Inner.meaning)) := by
  induction body with
  | nil => exact (map_prependAll_nil _).symm
  | cons inner more ih =>
      rw [List.flatMap_cons, List.append_assoc, scan_inner, ih, List.flatMap_cons]
      cases scan .quotationMarks behind with
      | error fault => rfl
      | ok r => simp [Except.map, Rest.prependAll]

theorem scan_word_apostrophe (behind : List Char) :
    scan .word ('\'' :: behind) = scan .apostrophes behind := rfl

theorem scan_word_quotationMark (behind : List Char) :
    scan .word ('"' :: behind) = scan .quotationMarks behind := rfl

theorem scan_apostrophes_close (behind : List Char) :
    scan .apostrophes ('\'' :: behind) = scan .word behind := rfl

theorem scan_quotationMarks_close (behind : List Char) :
    scan .quotationMarks ('"' :: behind) = scan .word behind := rfl

/-! ## Runs of the reader -/

/-- A separator ends the word that the reader is in. -/
theorem scan_separator_piece {p : Piece} (separates : p.isSeparator = true)
    (behind : List Char) :
    scan .between (p.source ++ behind) = scan .between behind ∧
      scan .word (p.source ++ behind) = (scan .between behind).map Rest.close := by
  cases p with
  | separator c own =>
      exact ⟨scan_between_of_isSeparator behind own, scan_word_of_isSeparator behind own⟩
  | _ => cases separates

/-- A piece in a word adds its meaning to it. -/
theorem scan_word_piece {p : Piece} (solid : p.isSeparator = false) (behind : List Char) :
    scan .word (p.source ++ behind) = (scan .word behind).map (Rest.prependAll p.meaning) := by
  cases p with
  | separator c separates => cases solid
  | bare c own => exact scan_word_of_isBare behind own
  | quoted c => rfl
  | apostrophes body free =>
      rw [Piece.source, List.cons_append, List.append_assoc, List.singleton_append,
        scan_word_apostrophe, scan_apostrophes_append free, scan_apostrophes_close]
      rfl
  | quotationMarks body =>
      rw [Piece.source, List.cons_append, List.append_assoc, List.singleton_append,
        scan_word_quotationMark, scan_quotationMarks_append, scan_quotationMarks_close]
      rfl

theorem Piece.exists_source_eq {p : Piece} (solid : p.isSeparator = false) :
    ∃ c rest, p.source = c :: rest ∧ ShellWords.isSeparator c = false := by
  cases p with
  | separator c separates => cases solid
  | bare c own =>
      simp only [isBare, Bool.and_eq_true, Bool.not_eq_true'] at own
      exact ⟨c, [], rfl, own.1.1.1⟩
  | quoted c => exact ⟨'\\', [c], rfl, by decide⟩
  | apostrophes body free => exact ⟨'\'', _, rfl, by decide⟩
  | quotationMarks body => exact ⟨'"', _, rfl, by decide⟩

/-- A piece between two words starts a word with its meaning. -/
theorem scan_between_piece {p : Piece} (solid : p.isSeparator = false) (behind : List Char) :
    scan .between (p.source ++ behind) =
      (scan .word behind).map fun r => (r.prependAll p.meaning).start := by
  obtain ⟨c, rest, source, other⟩ := p.exists_source_eq solid
  have step := scan_between_of_not_isSeparator (rest ++ behind) other
  rw [← List.cons_append, ← source, scan_word_piece solid] at step
  rw [step]
  cases scan .word behind <;> rfl

/-- The words of groups of pieces, the first of which goes on with a word. -/
def restOf (groups : List (List Piece)) : Rest :=
  ⟨(groups.headD []).flatMap Piece.meaning,
    (groups.tail.filter fun group => !group.isEmpty).map fun group => group.flatMap Piece.meaning⟩

theorem wordsOf_separator {p : Piece} (separates : p.isSeparator = true) (more : List Piece) :
    wordsOf (p :: more) = wordsOf more := by
  rw [wordsOf, List.splitOnP_cons_eq_if_modifyHead, if_pos separates]
  rfl

theorem restOf_separator {p : Piece} (separates : p.isSeparator = true) (more : List Piece) :
    restOf ((p :: more).splitOnP Piece.isSeparator) = ⟨[], wordsOf more⟩ := by
  rw [List.splitOnP_cons_eq_if_modifyHead, if_pos separates]
  rfl

theorem restOf_solid {p : Piece} (solid : p.isSeparator = false) (more : List Piece) :
    restOf ((p :: more).splitOnP Piece.isSeparator) =
      (restOf (more.splitOnP Piece.isSeparator)).prependAll p.meaning := by
  obtain ⟨group, others, split⟩ := List.exists_cons_of_ne_nil
    (List.splitOnP_ne_nil Piece.isSeparator more)
  rw [List.splitOnP_cons_eq_if_modifyHead, solid, split]
  rfl

theorem wordsOf_solid {p : Piece} (solid : p.isSeparator = false) (more : List Piece) :
    (⟨[], wordsOf (p :: more)⟩ : Rest) =
      (restOf ((p :: more).splitOnP Piece.isSeparator)).start := by
  obtain ⟨group, others, split⟩ := List.exists_cons_of_ne_nil
    (List.splitOnP_ne_nil Piece.isSeparator more)
  rw [wordsOf, List.splitOnP_cons_eq_if_modifyHead, solid, split]
  rfl

/-- What is read of pieces depends on whether a word was already there in front of them. -/
theorem scan_pieces (pieces : List Piece) :
    scan .between (pieces.flatMap Piece.source) = .ok ⟨[], wordsOf pieces⟩ ∧
      scan .word (pieces.flatMap Piece.source) =
        .ok (restOf (pieces.splitOnP Piece.isSeparator)) := by
  -- A separator leads from a word to the place between words and any other piece back, so the two
  -- places are read of together.
  induction pieces with
  | nil => exact ⟨rfl, rfl⟩
  | cons p more ih =>
      obtain ⟨ihBetween, ihWord⟩ := ih
      rw [List.flatMap_cons]
      cases kind : p.isSeparator with
      | true =>
          obtain ⟨between, word⟩ := scan_separator_piece kind (more.flatMap Piece.source)
          rw [wordsOf_separator kind, restOf_separator kind, between, word, ihBetween]
          exact ⟨rfl, rfl⟩
      | false =>
          rw [wordsOf_solid kind, restOf_solid kind, scan_between_piece kind,
            scan_word_piece kind, ihWord]
          exact ⟨rfl, rfl⟩

theorem scan_opening (o : Opening) :
    scan .between o.source = .error o.fault ∧ scan .word o.source = .error o.fault := by
  have word : scan .word o.source = .error o.fault := by
    cases o with
    | backslash => rfl
    | apostrophes body free =>
        have whole := scan_apostrophes_append free []
        rw [List.append_nil] at whole
        rw [Opening.source, scan_word_apostrophe, whole]
        rfl
    | quotationMarks body =>
        have whole := scan_quotationMarks_append body []
        rw [List.append_nil] at whole
        rw [Opening.source, scan_word_quotationMark, whole]
        rfl
    | quotedBackslash body =>
        rw [Opening.source, scan_word_quotationMark, scan_quotationMarks_append]
        rfl
  obtain ⟨c, rest, source, solid⟩ :
      ∃ c rest, o.source = c :: rest ∧ isSeparator c = false := by
    cases o <;> exact ⟨_, _, rfl, by decide⟩
  refine ⟨?_, word⟩
  rw [source] at word ⊢
  rw [scan_between_of_not_isSeparator rest solid, word]
  rfl

theorem scan_pieces_opening (pieces : List Piece) (o : Opening) :
    scan .between (pieces.flatMap Piece.source ++ o.source) = .error o.fault ∧
      scan .word (pieces.flatMap Piece.source ++ o.source) = .error o.fault := by
  induction pieces with
  | nil => exact scan_opening o
  | cons p more ih =>
      obtain ⟨ihBetween, ihWord⟩ := ih
      rw [List.flatMap_cons, List.append_assoc]
      cases kind : p.isSeparator with
      | true =>
          obtain ⟨between, word⟩ :=
            scan_separator_piece kind (more.flatMap Piece.source ++ o.source)
          rw [between, word, ihBetween]
          exact ⟨rfl, rfl⟩
      | false =>
          rw [scan_between_piece kind, scan_word_piece kind, ihWord]
          exact ⟨rfl, rfl⟩

/-! ## Every text is made of pieces, up to what is left open -/

/-- The stretch up to an apostrophe that closes, or all of the text. -/
theorem exists_apostrophes (text : List Char) :
    ∃ body, '\'' ∉ body ∧ (text = body ∨ ∃ behind, text = body ++ '\'' :: behind) := by
  induction text with
  | nil => exact ⟨[], List.not_mem_nil, .inl rfl⟩
  | cons c rest ih =>
      by_cases closes : c = '\''
      · exact ⟨[], List.not_mem_nil, .inr ⟨rest, by rw [closes]; rfl⟩⟩
      · obtain ⟨body, free, whole⟩ := ih
        refine ⟨c :: body, ?_, ?_⟩
        · exact List.not_mem_cons_of_ne_of_not_mem (Ne.symm closes) free
        · rcases whole with rfl | ⟨behind, rfl⟩
          · exact .inl rfl
          · exact .inr ⟨behind, rfl⟩

/-- A text that is a stretch up to a quotation mark that closes, or all of which is a stretch up to
a backslash at its end or to its end. -/
def IsStretch (text : List Char) : Prop :=
  ∃ body : List Inner, text = body.flatMap Inner.source ∨
    text = body.flatMap Inner.source ++ ['\\'] ∨
    ∃ behind, text = body.flatMap Inner.source ++ '"' :: behind

theorem IsStretch.cons {text : List Char} (inner : Inner) (rest : IsStretch text) :
    IsStretch (inner.source ++ text) := by
  obtain ⟨body, whole⟩ := rest
  refine ⟨inner :: body, ?_⟩
  rw [List.flatMap_cons]
  rcases whole with rfl | rfl | ⟨behind, rfl⟩
  · exact .inl rfl
  · exact .inr (.inl (List.append_assoc ..).symm)
  · exact .inr (.inr ⟨behind, (List.append_assoc ..).symm⟩)

theorem isStretch (text : List Char) : IsStretch text := by
  induction text using List.twoStepInduction with
  | nil => exact ⟨[], .inl rfl⟩
  | singleton c =>
      by_cases closes : c = '"'
      · exact ⟨[], .inr (.inr ⟨[], by rw [closes]; rfl⟩)⟩
      · by_cases quotes : c = '\\'
        · exact ⟨[], .inr (.inl (by rw [quotes]; rfl))⟩
        · exact ⟨[.plain c ⟨closes, quotes⟩], .inl rfl⟩
  | cons_cons c d rest ihRest ih =>
      by_cases closes : c = '"'
      · exact ⟨[], .inr (.inr ⟨d :: rest, by rw [closes]; rfl⟩)⟩
      · by_cases quotes : c = '\\'
        · rw [quotes]
          exact ihRest.cons (.quoted d)
        · exact (ih d).cons (.plain c ⟨closes, quotes⟩)

/-- A text that is made of pieces up to what it may leave open. -/
def IsMade (text : List Char) : Prop :=
  ∃ pieces : List Piece, text = pieces.flatMap Piece.source ∨
    ∃ o : Opening, text = pieces.flatMap Piece.source ++ o.source

theorem IsMade.opening (o : Opening) : IsMade o.source := ⟨[], .inr ⟨o, rfl⟩⟩

theorem IsMade.cons {text : List Char} (p : Piece) (rest : IsMade text) :
    IsMade (p.source ++ text) := by
  obtain ⟨pieces, whole⟩ := rest
  refine ⟨p :: pieces, ?_⟩
  rw [List.flatMap_cons]
  rcases whole with rfl | ⟨o, rfl⟩
  · exact .inl rfl
  · exact .inr ⟨o, (List.append_assoc ..).symm⟩

theorem isMade_apostrophe {rest : List Char}
    (made : ∀ behind, behind.length < rest.length → IsMade behind) : IsMade ('\'' :: rest) := by
  obtain ⟨body, free, whole⟩ := exists_apostrophes rest
  rcases whole with same | ⟨behind, rfl⟩
  · rw [same]
    exact .opening (.apostrophes body free)
  · have shorter : behind.length < (body ++ '\'' :: behind).length := by
      rw [List.length_append, List.length_cons]
      omega
    have piece := (made behind shorter).cons (.apostrophes body free)
    rw [Piece.source, List.cons_append, List.append_assoc] at piece
    exact piece

theorem isMade_quotationMark {rest : List Char}
    (made : ∀ behind, behind.length < rest.length → IsMade behind) : IsMade ('"' :: rest) := by
  obtain ⟨body, whole⟩ := isStretch rest
  rcases whole with same | same | ⟨behind, rfl⟩
  · rw [same]
    exact .opening (.quotationMarks body)
  · rw [same]
    exact .opening (.quotedBackslash body)
  · have shorter : behind.length < (body.flatMap Inner.source ++ '"' :: behind).length := by
      rw [List.length_append, List.length_cons]
      omega
    have piece := (made behind shorter).cons (.quotationMarks body)
    rw [Piece.source, List.cons_append, List.append_assoc] at piece
    exact piece

theorem isMade (text : List Char) : IsMade text := by
  -- A piece may be of any length, so the induction is on the length of the text.
  induction bound : text.length using Nat.strongRecOn generalizing text with
  | ind n ih =>
      cases text with
      | nil => exact ⟨[], .inl rfl⟩
      | cons c rest =>
          have made (behind : List Char) (shorter : behind.length ≤ rest.length) :
              IsMade behind :=
            ih behind.length (by rw [← bound]; exact Nat.lt_succ_of_le shorter) behind rfl
          have made' (behind : List Char) (shorter : behind.length < rest.length) :
              IsMade behind := made behind (Nat.le_of_lt shorter)
          by_cases separates : isSeparator c = true
          · exact (made rest (Nat.le_refl _)).cons (.separator c separates)
          by_cases apostrophe : c = '\''
          · rw [apostrophe]
            exact isMade_apostrophe made'
          by_cases mark : c = '"'
          · rw [mark]
            exact isMade_quotationMark made'
          by_cases backslash : c = '\\'
          · rw [backslash]
            cases rest with
            | nil => exact .opening .backslash
            | cons d behind => exact (made' behind (Nat.lt_succ_self _)).cons (.quoted d)
          · have own : isBare c = true := by
              simp [isBare, separates, apostrophe, mark, backslash]
            exact (made rest (Nat.le_refl _)).cons (.bare c own)

theorem split_pieces (pieces : List Piece) :
    split (pieces.flatMap Piece.source) = .ok (wordsOf pieces) := by
  rw [split, (scan_pieces pieces).1]
  rfl

theorem split_pieces_opening (pieces : List Piece) (o : Opening) :
    split (pieces.flatMap Piece.source ++ o.source) = .error o.fault := by
  rw [split, (scan_pieces_opening pieces o).1]
  rfl

/-- A text has words exactly if it is made of pieces, and then it has the words of these. -/
theorem split_eq_ok_iff (text : List Char) (words : List (List Char)) :
    split text = .ok words ↔
      ∃ pieces : List Piece, text = pieces.flatMap Piece.source ∧ words = wordsOf pieces := by
  constructor
  · intro read
    obtain ⟨pieces, rfl | ⟨o, rfl⟩⟩ := isMade text
    · rw [split_pieces] at read
      exact ⟨pieces, rfl, (Except.ok.inj read).symm⟩
    · rw [split_pieces_opening] at read
      cases read
  · rintro ⟨pieces, rfl, rfl⟩
    exact split_pieces pieces

/-- A text is refused exactly for what it leaves open behind its pieces. -/
theorem split_eq_error_iff (text : List Char) (fault : Fault) :
    split text = .error fault ↔
      ∃ (pieces : List Piece) (o : Opening),
        text = pieces.flatMap Piece.source ++ o.source ∧ fault = o.fault := by
  constructor
  · intro refused
    obtain ⟨pieces, rfl | ⟨o, rfl⟩⟩ := isMade text
    · rw [split_pieces] at refused
      cases refused
    · rw [split_pieces_opening] at refused
      exact ⟨pieces, o, rfl, (Except.error.inj refused).symm⟩
  · rintro ⟨pieces, o, rfl, rfl⟩
    exact split_pieces_opening pieces o

end LintBridge.ShellWords
