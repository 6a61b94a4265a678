import LintBridge.Number.Reading
import LintBridge.Proofs.Number.Rounding
import LintBridge.Proofs.Text.Runs
import Mathlib

/-!
# What counts as the numeral of a number

A decimal numeral is an optional sign, digits with an optional point among them or at one of their
ends, and an optional exponent (`IsDecimal`). Its digits may be of any script, and single
underscores may stand between digits (`Spells`). Apart from these there are only the words for an
infinity and for no number, so that what is read as a number of the format that is finite and does
not lie below zero is a decimal numeral within the bounds of the format (`exists_ofLocal?_iff`).
-/
set_option autoImplicit false

namespace LintBridge.Binary64

open Text (Stops)

/-! ## Decimal numerals -/

/-- A sign, and whether it makes a number negative. -/
inductive IsSign : List Char → Bool → Prop where
  | none : IsSign [] false
  | plus : IsSign ['+'] false
  | minus : IsSign ['-'] true

def IsDigits (text : List Char) : Prop := text ≠ [] ∧ ∀ c ∈ text, c.isDigit = true

def signed (negative : Bool) (n : Nat) : Int := if negative then -n else n

/-- What stands behind the digits of a number, and the exponent that it means. -/
inductive IsExponent : List Char → Int → Prop where
  | none : IsExponent [] 0
  | power {mark : Char} {sign digits : List Char} {negative : Bool}
      (letter : mark = 'e' ∨ mark = 'E') (isSign : IsSign sign negative)
      (isDigits : IsDigits digits) :
      IsExponent (mark :: (sign ++ digits)) (signed negative (digitsValue digits))

/-- Digits with an optional point, the digits alone, and how many of them stand behind the point. -/
inductive IsMantissa : List Char → List Char → Nat → Prop where
  | whole {digits : List Char} (isDigits : IsDigits digits) : IsMantissa digits digits 0
  | pointed {whole fraction : List Char} (isDigits : IsDigits (whole ++ fraction)) :
      IsMantissa (whole ++ '.' :: fraction) (whole ++ fraction) fraction.length

/-- A numeral without a sign, and the number that it means: digits times a power of ten. -/
inductive IsUnsigned : List Char → Nat → Int → Prop where
  | of {mantissa digits behind : List Char} {places : Nat} {e : Int}
      (isMantissa : IsMantissa mantissa digits places) (isExponent : IsExponent behind e) :
      IsUnsigned (mantissa ++ behind) (digitsValue digits) (e - places)

/-- A numeral in the common form. -/
inductive IsDecimal : List Char → Bool → Nat → Int → Prop where
  | of {sign text : List Char} {negative : Bool} {digits : Nat} {e : Int}
      (isSign : IsSign sign negative) (isUnsigned : IsUnsigned text digits e) :
      IsDecimal (sign ++ text) negative digits e

/-! ## Signs -/

/-- The sign in front of a text and what stands behind it. -/
def readSign : List Char → Bool × List Char
  | '-' :: rest => (true, rest)
  | '+' :: rest => (false, rest)
  | rest => (false, rest)

theorem exists_sign (text : List Char) :
    ∃ sign, IsSign sign (readSign text).1 ∧ text = sign ++ (readSign text).2 := by
  unfold readSign
  split
  · exact ⟨['-'], .minus, rfl⟩
  · exact ⟨['+'], .plus, rfl⟩
  · exact ⟨[], .none, rfl⟩

/-- The characters that signs consist of. -/
def isSignChar (c : Char) : Bool := c == '-' || c == '+'

theorem readSign_append {sign text : List Char} {negative : Bool} (isSign : IsSign sign negative)
    (stops : Stops isSignChar text) : readSign (sign ++ text) = (negative, text) := by
  cases isSign with
  | plus => rfl
  | minus => rfl
  | none =>
      rw [List.nil_append]
      unfold readSign
      split
      · exact absurd (stops '-' rfl) (by decide)
      · exact absurd (stops '+' rfl) (by decide)
      · rfl

/-! ## Reading decimal numerals -/

theorem isDigits_iff (text : List Char) :
    IsDigits text ↔ (text.isEmpty || !text.all Char.isDigit) = false := by
  rw [IsDigits, Bool.or_eq_false_iff, Bool.not_eq_false', List.all_eq_true,
    List.isEmpty_eq_false_iff]

theorem isSignChar_eq_false_of_isDigit {c : Char} (digit : c.isDigit = true) :
    isSignChar c = false := by
  rw [isSignChar, Bool.or_eq_false_iff, beq_eq_false_iff_ne, beq_eq_false_iff_ne]
  constructor <;> rintro rfl <;> exact absurd digit (by decide)

theorem IsDigits.stops_sign {text : List Char} (isDigits : IsDigits text) :
    Stops isSignChar text :=
  fun c first => isSignChar_eq_false_of_isDigit (isDigits.2 c (List.mem_of_head? first))

theorem exponent?_cons (mark : Char) (rest : List Char) :
    exponent? (mark :: rest) =
      if mark = 'e' ∨ mark = 'E' then
        if (readSign rest).2.isEmpty || !(readSign rest).2.all Char.isDigit then none
        else some (signed (readSign rest).1 (digitsValue (readSign rest).2))
      else none := by
  have letter : (mark == 'e' || mark == 'E') = true ↔ mark = 'e' ∨ mark = 'E' := by
    rw [Bool.or_eq_true, beq_iff_eq, beq_iff_eq]
  have read : exponent? (mark :: rest) =
      if mark == 'e' || mark == 'E' then
        if (readSign rest).2.isEmpty || !(readSign rest).2.all Char.isDigit then none
        else some (signed (readSign rest).1 (digitsValue (readSign rest).2))
      else none := rfl
  rw [read]
  simp only [letter]

theorem exponent?_eq_some_iff (text : List Char) (e : Int) :
    exponent? text = some e ↔ IsExponent text e := by
  constructor
  · intro read
    cases text with
    | nil =>
        obtain rfl := Option.some.inj read
        exact .none
    | cons mark rest =>
        rw [exponent?_cons] at read
        split_ifs at read with letter faulty
        obtain ⟨sign, isSign, whole⟩ := exists_sign rest
        have isDigits := (isDigits_iff _).2 (Bool.of_not_eq_true faulty)
        rw [whole, ← Option.some.inj read]
        exact .power letter isSign isDigits
  · intro isExponent
    cases isExponent with
    | none => rfl
    | power letter isSign isDigits =>
        rw [exponent?_cons, if_pos letter, readSign_append isSign isDigits.stops_sign,
          (isDigits_iff _).1 isDigits]
        rfl

/-- The characters in front of which digits with a point among them do not end. -/
def isMantissaChar (c : Char) : Bool := c.isDigit || c == '.'

theorem IsExponent.stops {text : List Char} {e : Int} (isExponent : IsExponent text e) :
    Stops isMantissaChar text := by
  cases isExponent with
  | none => exact Text.stops_nil
  | power letter isSign isDigits =>
      rcases letter with rfl | rfl <;> exact Text.stops_cons (by decide)

/-- The digits behind a point in front of a text, and what stands behind them. -/
def readFraction : List Char → List Char × List Char
  | '.' :: rest => (rest.takeWhile Char.isDigit, rest.dropWhile Char.isDigit)
  | rest => ([], rest)

theorem readFraction_of_ne {rest : List Char} (other : ∀ more, rest ≠ '.' :: more) :
    readFraction rest = ([], rest) := by
  unfold readFraction
  split
  · exact absurd rfl (other _)
  · rfl

theorem unsigned?_eq (negative : Bool) (text : List Char) :
    unsigned? negative text =
      let whole := text.takeWhile Char.isDigit
      let (fraction, behind) := readFraction (text.dropWhile Char.isDigit)
      if whole.isEmpty && fraction.isEmpty then none
      else
        (exponent? behind).map fun e =>
          ofDecimal negative (digitsValue (whole ++ fraction)) (e - fraction.length) := rfl

theorem isDigits_append {whole fraction : List Char}
    (solid : ¬ (whole.isEmpty && fraction.isEmpty) = true)
    (digit : ∀ c ∈ whole, c.isDigit = true) (digit' : ∀ c ∈ fraction, c.isDigit = true) :
    IsDigits (whole ++ fraction) := by
  refine ⟨fun empty => solid ?_, fun c member => ?_⟩
  · obtain ⟨rfl, rfl⟩ := List.append_eq_nil_iff.1 empty
    rfl
  · exact (List.mem_append.1 member).elim (digit c) (digit' c)

/-- Digits and what the reader takes behind them are digits with an optional point. -/
theorem exists_mantissa {whole rest fraction behind : List Char}
    (digit : ∀ c ∈ whole, c.isDigit = true) (read : readFraction rest = (fraction, behind))
    (solid : ¬ (whole.isEmpty && fraction.isEmpty) = true) :
    ∃ mantissa, IsMantissa mantissa (whole ++ fraction) fraction.length ∧
      whole ++ rest = mantissa ++ behind := by
  by_cases point : ∃ more, rest = '.' :: more
  · obtain ⟨more, rfl⟩ := point
    obtain ⟨rfl, rfl⟩ := Prod.mk.inj read
    refine ⟨_, .pointed (isDigits_append solid digit fun c => List.mem_takeWhile_imp), ?_⟩
    rw [List.append_assoc, List.cons_append, List.takeWhile_append_dropWhile]
  · obtain ⟨rfl, rfl⟩ := Prod.mk.inj
      ((readFraction_of_ne (not_exists.1 point)).symm.trans read)
    have isDigits := isDigits_append solid digit (List.forall_mem_nil _)
    rw [List.append_nil] at isDigits ⊢
    exact ⟨whole, .whole isDigits, rfl⟩

/-- What is read of digits with an optional point, in front of something else. -/
theorem IsMantissa.read {mantissa digits behind : List Char} {places : Nat}
    (isMantissa : IsMantissa mantissa digits places) (stops : Stops isMantissaChar behind) :
    ∃ whole fraction, (mantissa ++ behind).takeWhile Char.isDigit = whole ∧
      readFraction ((mantissa ++ behind).dropWhile Char.isDigit) = (fraction, behind) ∧
      whole ++ fraction = digits ∧ fraction.length = places ∧ IsDigits digits := by
  have stops' : Stops Char.isDigit behind := fun c first => by
    have other := stops c first
    rw [isMantissaChar, Bool.or_eq_false_iff] at other
    exact other.1
  cases isMantissa with
  | whole isDigits =>
      refine ⟨mantissa, [], Text.takeWhile_run isDigits.2 stops', ?_, List.append_nil _, rfl,
        isDigits⟩
      rw [Text.dropWhile_run isDigits.2 stops']
      apply readFraction_of_ne
      rintro more rfl
      exact absurd (stops '.' rfl) (by decide)
  | @pointed whole fraction isDigits =>
      have digit : ∀ c ∈ whole, c.isDigit = true :=
        fun c member => isDigits.2 c (List.mem_append_left _ member)
      have digit' : ∀ c ∈ fraction, c.isDigit = true :=
        fun c member => isDigits.2 c (List.mem_append_right _ member)
      have point : Stops Char.isDigit ('.' :: (fraction ++ behind)) :=
        Text.stops_cons (by decide)
      refine ⟨whole, fraction, ?_, ?_, rfl, rfl, isDigits⟩
      · rw [List.append_assoc, List.cons_append, Text.takeWhile_run digit point]
      · rw [List.append_assoc, List.cons_append, Text.dropWhile_run digit point, readFraction,
          Text.takeWhile_run digit' stops', Text.dropWhile_run digit' stops']

theorem unsigned?_eq_some_iff (negative : Bool) (text : List Char) (x : Binary64) :
    unsigned? negative text = some x ↔
      ∃ digits e, IsUnsigned text digits e ∧ x = ofDecimal negative digits e := by
  rw [unsigned?_eq]
  constructor
  · intro read
    have parts : text.takeWhile Char.isDigit ++ text.dropWhile Char.isDigit = text :=
      List.takeWhile_append_dropWhile
    have digit : ∀ c ∈ text.takeWhile Char.isDigit, c.isDigit = true :=
      fun c => List.mem_takeWhile_imp
    cases taken : readFraction (text.dropWhile Char.isDigit) with
    | mk fraction behind =>
        simp only [taken] at read
        split_ifs at read with solid
        obtain ⟨e, power, rfl⟩ := Option.map_eq_some_iff.1 read
        obtain ⟨mantissa, isMantissa, whole⟩ := exists_mantissa digit taken solid
        have isUnsigned := IsUnsigned.of isMantissa ((exponent?_eq_some_iff _ _).1 power)
        rw [← whole, parts] at isUnsigned
        exact ⟨_, _, isUnsigned, rfl⟩
  · rintro ⟨_, _, ⟨isMantissa, isExponent⟩, rfl⟩
    obtain ⟨whole, fraction, taken, taken', rfl, rfl, isDigits⟩ :=
      isMantissa.read isExponent.stops
    have solid : (whole.isEmpty && fraction.isEmpty) = false := by
      rw [Bool.and_eq_false_iff, List.isEmpty_eq_false_iff, List.isEmpty_eq_false_iff]
      by_contra empty
      rw [not_or, not_not, not_not] at empty
      exact isDigits.1 (List.append_eq_nil_iff.2 empty)
    simp only [taken, taken', solid, (exponent?_eq_some_iff _ _).2 isExponent]
    rfl

/-- A numeral without a sign starts with a digit or a point. -/
theorem IsUnsigned.exists_eq_cons {text : List Char} {digits : Nat} {e : Int}
    (isUnsigned : IsUnsigned text digits e) :
    ∃ c rest, text = c :: rest ∧ isMantissaChar c = true := by
  have digit {c : Char} (d : c.isDigit = true) : isMantissaChar c = true := by
    rw [isMantissaChar, d, Bool.true_or]
  cases isUnsigned with
  | of isMantissa isExponent =>
      cases isMantissa with
      | whole isDigits =>
          obtain ⟨c, rest, rfl⟩ := List.exists_cons_of_ne_nil isDigits.1
          exact ⟨c, _, rfl, digit (isDigits.2 c (List.mem_cons_self ..))⟩
      | @pointed whole fraction isDigits =>
          cases whole with
          | nil => exact ⟨'.', _, rfl, by decide⟩
          | cons c rest => exact ⟨c, _, rfl, digit (isDigits.2 c (List.mem_cons_self ..))⟩

theorem isSignChar_eq_false_of_isMantissaChar {c : Char} (own : isMantissaChar c = true) :
    isSignChar c = false := by
  rw [isMantissaChar, Bool.or_eq_true, beq_iff_eq] at own
  rcases own with digit | rfl
  · exact isSignChar_eq_false_of_isDigit digit
  · decide

theorem IsUnsigned.stops_sign {text : List Char} {digits : Nat} {e : Int}
    (isUnsigned : IsUnsigned text digits e) : Stops isSignChar text := by
  obtain ⟨c, rest, rfl, own⟩ := isUnsigned.exists_eq_cons
  exact Text.stops_cons (isSignChar_eq_false_of_isMantissaChar own)

theorem isAlpha_eq_false_of_isMantissaChar {c : Char} (own : isMantissaChar c = true) :
    c.isAlpha = false := by
  rw [isMantissaChar, Bool.or_eq_true, beq_iff_eq] at own
  rcases own with digit | rfl
  · have top : c.toNat ≤ 57 := (Char.isDigit_iff_toNat.1 digit).2
    rw [Bool.eq_false_iff]
    intro letter
    simp only [Char.isAlpha, Char.isUpper, Char.isLower, Bool.or_eq_true, Bool.and_eq_true,
      decide_eq_true_eq, ge_iff_le, UInt32.le_iff_toNat_le] at letter
    have least : 65 ≤ c.toNat :=
      letter.elim (fun upper => upper.1) fun lower => le_trans (by decide) lower.1
    omega
  · decide

/-- The spellings of an infinity and of what is no number, in lower case. -/
def namedWords : List (List Char) := ["inf".toList, "infinity".toList, "nan".toList]

/-- A numeral without a sign is none of the words. -/
theorem IsUnsigned.map_toLower_not_mem {text : List Char} {digits : Nat} {e : Int}
    (isUnsigned : IsUnsigned text digits e) : text.map Char.toLower ∉ namedWords := by
  obtain ⟨c, rest, rfl, own⟩ := isUnsigned.exists_eq_cons
  intro named
  have letters : ∀ word ∈ namedWords, word.head?.all Char.isAlpha = true := by decide
  have letter : c.toLower.isAlpha = true := letters _ named
  rw [Char.isAlpha_toLower_eq_isAlpha, isAlpha_eq_false_of_isMantissaChar own] at letter
  cases letter

theorem ofPlain?_eq (text : List Char) :
    ofPlain? text =
      let word := (readSign text).2.map Char.toLower
      if word == "inf".toList || word == "infinity".toList then some (infinity (readSign text).1)
      else if word == "nan".toList then some notANumber
      else unsigned? (readSign text).1 (readSign text).2 := rfl

/-- A text is read as a finite number exactly if it is a decimal numeral of one. -/
theorem ofPlain?_eq_some_iff (text : List Char) {x : Binary64} (finite : x.isFinite = true) :
    ofPlain? text = some x ↔
      ∃ negative digits e, IsDecimal text negative digits e ∧ x = ofDecimal negative digits e := by
  constructor
  · intro read
    rw [ofPlain?_eq] at read
    dsimp only at read
    split_ifs at read
    · obtain rfl := Option.some.inj read
      exact absurd finite (by simp [infinity, isFinite])
    · obtain rfl := Option.some.inj read
      exact absurd finite (by decide)
    · obtain ⟨sign, isSign, whole⟩ := exists_sign text
      obtain ⟨digits, e, isUnsigned, same⟩ := (unsigned?_eq_some_iff _ _ _).1 read
      have isDecimal := IsDecimal.of isSign isUnsigned
      rw [← whole] at isDecimal
      exact ⟨_, digits, e, isDecimal, same⟩
  · rintro ⟨negative, digits, e, ⟨isSign, isUnsigned⟩, rfl⟩
    have stops := isUnsigned.stops_sign
    have unnamed := isUnsigned.map_toLower_not_mem
    simp only [namedWords, List.mem_cons, List.not_mem_nil, or_false, not_or] at unnamed
    rw [ofPlain?_eq, readSign_append isSign stops]
    simp only [beq_eq_false_iff_ne.2 unnamed.1, beq_eq_false_iff_ne.2 unnamed.2.1,
      beq_eq_false_iff_ne.2 unnamed.2.2]
    exact (unsigned?_eq_some_iff _ _ _).2 ⟨_, _, isUnsigned, rfl⟩

/-! ## Digits of every script, and underscores -/

def StartsWithDigit (text : List Char) : Prop := ∃ c, text.head? = some c ∧ c.isDigit = true

/-- Every underscore in a text that stands behind a character is between two ASCII digits. -/
def SplitsDigits (before : Char) (text : List Char) : Prop :=
  ∀ front behind, text = front ++ '_' :: behind →
    (front.getLast?.getD before).isDigit = true ∧ StartsWithDigit behind

theorem splitsDigits_nil (before : Char) : SplitsDigits before [] := by
  intro front behind split
  exact absurd split.symm (List.append_ne_nil_of_right_ne_nil _ (List.cons_ne_nil _ _))

theorem splitsDigits_cons_iff (before c : Char) (rest : List Char) :
    SplitsDigits before (c :: rest) ↔
      (c = '_' → before.isDigit = true ∧ StartsWithDigit rest) ∧ SplitsDigits c rest := by
  constructor
  · intro splits
    refine ⟨fun same => splits [] rest (by rw [same]; rfl), fun front behind split => ?_⟩
    have place := splits (c :: front) behind (by rw [split]; rfl)
    rw [List.getLast?_cons, Option.getD_some] at place
    exact place
  · rintro ⟨first, splits⟩ front behind split
    cases front with
    | nil =>
        obtain ⟨same, rfl⟩ := List.cons.inj split
        exact first same
    | cons d front =>
        obtain ⟨rfl, rfl⟩ := List.cons.inj split
        rw [List.getLast?_cons, Option.getD_some]
        exact splits front behind rfl

theorem startsWithDigit_cons_iff (c : Char) (rest : List Char) :
    StartsWithDigit (c :: rest) ↔ c.isDigit = true := by
  constructor
  · rintro ⟨d, first, digit⟩
    rw [List.head?_cons, Option.some.injEq] at first
    exact first ▸ digit
  · exact fun digit => ⟨c, rfl, digit⟩

/-- Joining digits takes the underscores out of a text all of which are between digits. -/
theorem joinDigits?_eq_some_iff (before : Char) (text plain : List Char) :
    joinDigits? before text = some plain ↔
      plain = text.filter (· != '_') ∧ (before = '_' → StartsWithDigit text) ∧
        SplitsDigits before text := by
  -- Each character is judged by the one in front of it, which changes from step to step.
  induction text generalizing before plain with
  | nil =>
      have noDigit : ¬ StartsWithDigit [] := by
        rintro ⟨c, first, -⟩
        cases first
      rw [joinDigits?]
      by_cases behind : before = '_'
      · rw [if_pos (beq_iff_eq.2 behind)]
        exact iff_of_false (Option.some_ne_none plain).symm fun spec => noDigit (spec.2.1 behind)
      · rw [if_neg (mt beq_iff_eq.1 behind), Option.some.injEq, eq_comm]
        exact (and_iff_left ⟨fun same => absurd same behind, splitsDigits_nil before⟩).symm
  | cons c rest ih =>
      rw [joinDigits?, splitsDigits_cons_iff, startsWithDigit_cons_iff]
      by_cases underscore : c = '_'
      · subst underscore
        rw [if_pos (beq_self_eq_true _), List.filter_cons_of_neg (by decide)]
        by_cases digit : before.isDigit = true
        · have other : before ≠ '_' := by
            rintro rfl
            exact absurd digit (by decide)
          rw [if_pos digit, ih]
          simp only [other, digit, true_and, forall_const, false_imp_iff]
        · rw [if_neg digit]
          exact iff_of_false (Option.some_ne_none plain).symm
            fun spec => digit (spec.2.2.1 rfl).1
      · have kept : (c != '_') = true := bne_iff_ne.2 underscore
        rw [if_neg (mt beq_iff_eq.1 underscore), List.filter_cons, if_pos kept]
        by_cases broken : before = '_' ∧ ¬ c.isDigit = true
        · rw [if_pos (by simpa using broken)]
          exact iff_of_false (Option.some_ne_none plain).symm
            fun spec => broken.2 (spec.2.1 broken.1)
        · rw [if_neg (by simpa using broken), Option.map_eq_some_iff]
          simp only [ih, underscore, false_imp_iff, true_and]
          have starts : before = '_' → c.isDigit = true :=
            fun same => by_contra fun other => broken ⟨same, other⟩
          constructor
          · rintro ⟨joined, ⟨rfl, splits⟩, rfl⟩
            exact ⟨rfl, starts, splits⟩
          · rintro ⟨rfl, -, splits⟩
            exact ⟨_, ⟨rfl, splits⟩, rfl⟩

theorem isDigit_asciiDigit (c : Char) :
    (asciiDigit c).isDigit = (Text.digitValue? c).isSome := by
  rw [asciiDigit]
  cases value : Text.digitValue? c with
  | some n =>
      have small : ∀ n : Fin 10, (Char.ofNat (48 + n.val)).isDigit = true := by decide
      exact small ⟨n, Text.digitValue?_lt value⟩
  | none =>
      rw [Option.isSome_none, Bool.eq_false_iff]
      intro digit
      have range := Char.isDigit_iff_toNat.1 digit
      have unmatched := List.find?_eq_none.1 (Option.map_eq_none_iff.1 value) 0x30 (by decide)
      rw [Bool.and_eq_true, decide_eq_true_iff, decide_eq_true_iff] at unmatched
      exact unmatched ⟨range.1, Nat.lt_succ_of_le range.2⟩

theorem asciiDigit_eq_underscore_iff (c : Char) : asciiDigit c = '_' ↔ c = '_' := by
  rw [asciiDigit]
  cases value : Text.digitValue? c with
  | some n =>
      have apart : ∀ n : Fin 10, Char.ofNat (48 + n.val) ≠ '_' := by decide
      refine iff_of_false (apart ⟨n, Text.digitValue?_lt value⟩) ?_
      rintro rfl
      have noDigit : Text.digitValue? '_' = none := by decide
      rw [noDigit] at value
      cases value
  | none => exact Iff.rfl

/-- A text whose digits may be of any script, with single underscores between digits, and the text
in ASCII digits and without underscores that it spells. -/
structure Spells (text plain : List Char) : Prop where
  plain_eq : plain = (text.filter (· != '_')).map asciiDigit
  between : ∀ front behind, text = front ++ '_' :: behind →
    (∃ c, front.getLast? = some c ∧ (Text.digitValue? c).isSome = true) ∧
      ∃ c, behind.head? = some c ∧ (Text.digitValue? c).isSome = true

theorem startsWithDigit_map_iff (text : List Char) :
    StartsWithDigit (text.map asciiDigit) ↔
      ∃ c, text.head? = some c ∧ (Text.digitValue? c).isSome = true := by
  simp only [StartsWithDigit, List.head?_map, Option.map_eq_some_iff, ← isDigit_asciiDigit]
  constructor
  · rintro ⟨_, ⟨c, first, rfl⟩, digit⟩
    exact ⟨c, first, digit⟩
  · rintro ⟨c, first, digit⟩
    exact ⟨_, ⟨c, first, rfl⟩, digit⟩

theorem isDigit_getLast?_map_iff (text : List Char) :
    (((text.map asciiDigit).getLast?).getD ' ').isDigit = true ↔
      ∃ c, text.getLast? = some c ∧ (Text.digitValue? c).isSome = true := by
  rw [List.getLast?_map]
  cases text.getLast? with
  | none => simp
  | some c => simp [isDigit_asciiDigit]

theorem joinDigits?_map_eq_some_iff (text plain : List Char) :
    joinDigits? ' ' (text.map asciiDigit) = some plain ↔ Spells text plain := by
  have kept : (fun c => c != '_') ∘ asciiDigit = fun c => c != '_' := by
    funext c
    rw [Function.comp_apply, Bool.eq_iff_iff, bne_iff_ne, bne_iff_ne, ne_eq, ne_eq,
      asciiDigit_eq_underscore_iff]
  have underscore : asciiDigit '_' = '_' := (asciiDigit_eq_underscore_iff '_').2 rfl
  rw [joinDigits?_eq_some_iff, List.filter_map, kept]
  constructor
  · rintro ⟨plain_eq, -, splits⟩
    refine ⟨plain_eq, fun front behind split => ?_⟩
    have place := splits (front.map asciiDigit) (behind.map asciiDigit)
      (by rw [split, List.map_append, List.map_cons, underscore])
    rw [isDigit_getLast?_map_iff, startsWithDigit_map_iff] at place
    exact place
  · rintro ⟨plain_eq, between⟩
    refine ⟨plain_eq, fun same => absurd same (by decide), fun front behind split => ?_⟩
    obtain ⟨front, rest, rfl, rfl, mark⟩ := List.map_eq_append_iff.1 split
    obtain ⟨c, behind, rfl, same, rfl⟩ := List.map_eq_cons_iff.1 mark
    obtain rfl := (asciiDigit_eq_underscore_iff c).1 same
    rw [isDigit_getLast?_map_iff, startsWithDigit_map_iff]
    exact between front behind rfl

/-! ## Numerals and the bounds of the format -/

/-- The number that a sign and digits times a power of ten mean. -/
def decimalValue (negative : Bool) (digits : Nat) (e : Int) : ℚ :=
  (if negative then -1 else 1) * (digits * 10 ^ e)

/-- A text is a decimal numeral of a number, in any script and with underscores. -/
def Denotes (text : List Char) (v : ℚ) : Prop :=
  ∃ plain negative digits e, Spells text plain ∧ IsDecimal plain negative digits e ∧
    v = decimalValue negative digits e

/-- The number that is read of a numeral is finite and not below zero exactly if what the numeral
means lies between the bounds at which the format leaves off. -/
theorem ofDecimal_isFinite_and_not_isBelowZero_iff (negative : Bool) (digits : Nat) (e : Int) :
    (ofDecimal negative digits e).isFinite = true ∧
        (ofDecimal negative digits e).isBelowZero = false ↔
      -underflowBound ≤ decimalValue negative digits e ∧
        decimalValue negative digits e < overflowBound := by
  have bounds : underflowBound < overflowBound := underflowBound_lt_overflowBound
  have zero : 0 < underflowBound := zpow_pos two_pos _
  have value : (0 : ℚ) ≤ digits * 10 ^ e := by positivity
  rw [← Bool.not_eq_true, ofDecimal_isFinite_iff, ofDecimal_isBelowZero_iff, decimalValue]
  generalize (digits : ℚ) * 10 ^ e = v at *
  cases negative
  · simp only [Bool.false_eq_true, false_and, not_false_iff, and_true, if_false, one_mul]
    exact ⟨fun finite => ⟨by linarith, finite⟩, fun spec => spec.2⟩
  · simp only [true_and, if_true, not_lt]
    constructor
    · exact fun spec => ⟨by linarith, by linarith⟩
    · exact fun spec => ⟨by linarith, by linarith⟩

/-- A text is read as a finite number that does not lie below zero exactly if it is the decimal
numeral of a number between the bounds of the format. -/
theorem exists_ofLocal?_iff (text : List Char) :
    (∃ x, ofLocal? text = some x ∧ x.isFinite = true ∧ x.isBelowZero = false) ↔
      ∃ v, Denotes text v ∧ -underflowBound ≤ v ∧ v < overflowBound := by
  constructor
  · rintro ⟨x, read, finite, above⟩
    obtain ⟨plain, joined, read⟩ := Option.bind_eq_some_iff.1 read
    obtain ⟨negative, digits, e, isDecimal, rfl⟩ := (ofPlain?_eq_some_iff plain finite).1 read
    have spells := (joinDigits?_map_eq_some_iff text plain).1 joined
    exact ⟨_, ⟨plain, negative, digits, e, spells, isDecimal, rfl⟩,
      (ofDecimal_isFinite_and_not_isBelowZero_iff ..).1 ⟨finite, above⟩⟩
  · rintro ⟨_, ⟨plain, negative, digits, e, spells, isDecimal, rfl⟩, within⟩
    obtain ⟨finite, above⟩ := (ofDecimal_isFinite_and_not_isBelowZero_iff ..).2 within
    refine ⟨_, ?_, finite, above⟩
    rw [ofLocal?, (joinDigits?_map_eq_some_iff text plain).2 spells, Option.bind_some]
    exact (ofPlain?_eq_some_iff plain finite).2 ⟨_, _, _, isDecimal, rfl⟩

end LintBridge.Binary64
