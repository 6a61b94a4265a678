import LintBridge.Dialect.Directive
import LintBridge.Proofs.Text.Lines

/-!
# The grammar of directives

A directive is a comment that starts with `shellcheck`, and its settings are what stands behind that
word (`HasSettings`). Settings offer a name wherever `shell=` stands behind a blank with a name
behind it (`Offers`); a directive gives the name of its last offer (`Gives`). The header of a script
names the shell that its first directive gives (`first_directive_names_shell`).

The grammar is that of a pattern that is matched with backtracking (`matched?`): a repetition takes
as many characters as it can and gives back one at a time while the rest of the pattern fails. The
scan for the last name finds what the pattern finds (`matched?_eq_ofLine?`).
-/
set_option autoImplicit false

namespace LintBridge.Directive

open Text (isBlank trim trimStart Stops)

/-- A line of code is neither blank nor a comment. -/
def IsCode (line : List Char) : Prop := ∃ c rest, trim line = c :: rest ∧ c ≠ '#'

instance : DecidablePred IsCode := fun line =>
  match trimmed : trim line with
  | [] => .isFalse (by rintro ⟨c, rest, same, -⟩; rw [trimmed] at same; cases same)
  | c :: rest =>
    if comment : c = '#' then
      .isFalse (by
        rintro ⟨d, more, same, code⟩
        rw [trimmed] at same
        exact code ((List.cons.inj same).1.symm.trans comment))
    else .isTrue ⟨c, rest, trimmed, comment⟩

/-- The lines in front of the first line of code. -/
def headerLines (text : List Char) : List (List Char) :=
  (Text.splitLines text).takeWhile fun line => !decide (IsCode line)

/-- A line is a comment that starts with `shellcheck`, behind which the settings stand; they start
with a blank. -/
structure HasSettings (line settings : List Char) : Prop where
  exists_space : ∃ space, (∀ c ∈ space, isBlank c = true) ∧
    line = '#' :: (space ++ ("shellcheck".toList ++ settings))
  exists_blank : ∃ c rest, settings = c :: rest ∧ isBlank c = true

/-- At index `p` of the settings, behind a blank, stands `shell=` and then the name, which ends
where the characters of names do. -/
def Offers (settings : List Char) (p : Nat) (name : List Char) : Prop :=
  ∃ front blank behind, settings = front ++ blank :: ("shell=".toList ++ (name ++ behind)) ∧
    p = front.length + 1 ∧ isBlank blank = true ∧ name ≠ [] ∧
    (∀ c ∈ name, isNameChar c = true) ∧ Stops isNameChar behind

def IsDirective (line : List Char) : Prop :=
  ∃ settings, HasSettings line settings ∧ ∃ p name, Offers settings p name

/-- No name is offered at a greater index. -/
def IsLastOffer (settings : List Char) (p : Nat) (name : List Char) : Prop :=
  Offers settings p name ∧ ∀ q other, Offers settings q other → q ≤ p

def Gives (line name : List Char) : Prop :=
  ∃ settings, HasSettings line settings ∧ ∃ p, IsLastOffer settings p name

/-! ## Characters and words -/

/-- The codes of all blanks. -/
def blankCodes : List Nat :=
  [9, 10, 11, 12, 13, 28, 29, 30, 31, 32, 0x85, 0xA0, 0x1680, 0x2000, 0x2001, 0x2002, 0x2003,
    0x2004, 0x2005, 0x2006, 0x2007, 0x2008, 0x2009, 0x200A, 0x2028, 0x2029, 0x202F, 0x205F, 0x3000]

theorem toNat_mem_blankCodes {c : Char} (blank : isBlank c = true) : c.toNat ∈ blankCodes := by
  simp only [isBlank, Bool.or_eq_true, Bool.and_eq_true, decide_eq_true_eq, beq_iff_eq] at blank
  simp only [blankCodes, List.mem_cons, List.not_mem_nil, or_false]
  omega

theorem isNameChar_of_isBlank {c : Char} (blank : isBlank c = true) : isNameChar c = false := by
  have apart : ∀ n ∈ blankCodes, isNameChar (Char.ofNat n) = false := by decide +kernel
  rw [← Char.ofNat_toNat c]
  exact apart _ (toNat_mem_blankCodes blank)

theorem isBlank_eq_false_of_mem {c : Char} (member : c ∈ "shell=".toList) : isBlank c = false := by
  have apart : "shell=".toList.all (fun c => !isBlank c) = true := by decide
  have solid := List.all_eq_true.1 apart c member
  rwa [Bool.not_eq_true'] at solid

theorem after?_eq_some_iff (word text behind : List Char) :
    after? word text = some behind ↔ text = word ++ behind := by
  induction word generalizing text with
  | nil => simp [after?]
  | cons w word ih =>
      cases text with
      | nil => simp [after?]
      | cons c text =>
          by_cases same : w = c
          · simp [after?, same, ih]
          · simp [after?, same, Ne.symm same]

/-- A character that a word does not hold ends the text in which the word is looked for. -/
theorem after?_append {word : List Char} {c : Char} (apart : c ∉ word) (front behind : List Char) :
    after? word (front ++ c :: behind) = (after? word front).map (· ++ c :: behind) := by
  induction word generalizing front with
  | nil => simp [after?]
  | cons w word ih =>
      rw [List.mem_cons, not_or] at apart
      cases front with
      | nil => simp [after?, Ne.symm apart.1]
      | cons d front =>
          by_cases same : w = d
          · simp [after?, same, ih apart.2]
          · simp [after?, same]

/-! ## Offers -/

theorem nameAt?_eq (text : List Char) :
    nameAt? text = (after? "shell=".toList text).bind fun behind =>
      let name := behind.takeWhile isNameChar
      if name.isEmpty then none else some name := rfl

theorem nameAt?_eq_some_iff (text name : List Char) :
    nameAt? text = some name ↔
      ∃ behind, text = "shell=".toList ++ (name ++ behind) ∧ name ≠ [] ∧
        (∀ c ∈ name, isNameChar c = true) ∧ Stops isNameChar behind := by
  have found : nameAt? text = some name ↔ ∃ rest, text = "shell=".toList ++ rest ∧
      rest.takeWhile isNameChar = name ∧ name ≠ [] := by
    rw [nameAt?_eq, Option.bind_eq_some_iff]
    refine exists_congr fun rest => and_congr (after?_eq_some_iff ..) ?_
    by_cases empty : rest.takeWhile isNameChar = []
    · simp only [empty, List.isEmpty_nil, if_true, reduceCtorEq, false_iff]
      exact fun nothing => nothing.2 nothing.1.symm
    · simp only [List.isEmpty_iff, empty, if_false, Option.some.injEq]
      exact ⟨fun same => ⟨same, same ▸ empty⟩, And.left⟩
  rw [found]
  constructor
  · rintro ⟨rest, rfl, rfl, given⟩
    refine ⟨rest.dropWhile isNameChar, ?_, given, fun c => List.mem_takeWhile_imp,
      Text.stops_dropWhile _ _⟩
    rw [List.takeWhile_append_dropWhile]
  · rintro ⟨behind, rfl, given, all, stops⟩
    exact ⟨name ++ behind, rfl, Text.takeWhile_run all stops, given⟩

theorem nameAt?_of_isBlank {c : Char} (blank : isBlank c = true) (rest : List Char) :
    nameAt? (c :: rest) = none := by
  have other : 's' ≠ c := by
    rintro rfl
    exact absurd blank (by decide)
  rw [nameAt?_eq]
  simp [after?, other]

/-- A name ends in front of a blank. -/
theorem nameAt?_append {c : Char} (blank : isBlank c = true) (front behind : List Char) :
    nameAt? (front ++ c :: behind) = nameAt? front := by
  have apart : c ∉ "shell=".toList := by
    intro member
    rw [isBlank_eq_false_of_mem member] at blank
    cases blank
  have stops : Stops isNameChar (c :: behind) := Text.stops_cons (isNameChar_of_isBlank blank)
  have run : ∀ rest : List Char,
      (rest ++ c :: behind).takeWhile isNameChar = rest.takeWhile isNameChar := by
    intro rest
    induction rest with
    | nil => exact Text.takeWhile_of_stops stops
    | cons d rest ih => rw [List.cons_append, List.takeWhile_cons, List.takeWhile_cons, ih]
  rw [nameAt?_eq, nameAt?_eq, after?_append apart]
  cases after? "shell=".toList front with
  | none => rfl
  | some rest =>
      rw [Option.map_some, Option.bind_some, Option.bind_some]
      simp only [run]

theorem not_offers_nil (p : Nat) (name : List Char) : ¬ Offers [] p name := by
  rintro ⟨front, blank, behind, same, -⟩
  simp at same

theorem offers_cons_iff (c : Char) (rest : List Char) (p : Nat) (name : List Char) :
    Offers (c :: rest) p name ↔
      (p = 1 ∧ isBlank c = true ∧ nameAt? rest = some name) ∨
        ∃ q, p = q + 1 ∧ Offers rest q name := by
  constructor
  · rintro ⟨front, blank, behind, same, rfl, isBlank', given, all, stops⟩
    cases front with
    | nil =>
        obtain ⟨rfl, rfl⟩ := List.cons.inj same
        exact .inl ⟨rfl, isBlank', (nameAt?_eq_some_iff ..).2 ⟨behind, rfl, given, all, stops⟩⟩
    | cons d front =>
        obtain ⟨rfl, rfl⟩ := List.cons.inj same
        exact .inr ⟨front.length + 1, rfl, front, blank, behind, rfl, rfl, isBlank', given, all,
          stops⟩
  · rintro (⟨rfl, isBlank', found⟩ | ⟨q, rfl, front, blank, behind, rfl, rfl, others⟩)
    · obtain ⟨behind, rfl, given, all, stops⟩ := (nameAt?_eq_some_iff ..).1 found
      exact ⟨[], c, behind, rfl, rfl, isBlank', given, all, stops⟩
    · exact ⟨c :: front, blank, behind, rfl, rfl, others⟩

theorem Offers.unique {settings name name' : List Char} {p : Nat}
    (offers : Offers settings p name) (offers' : Offers settings p name') : name = name' := by
  obtain ⟨front, blank, behind, rfl, rfl, -, -, all, stops⟩ := offers
  obtain ⟨front', blank', behind', same, length, -, -, all', stops'⟩ := offers'
  obtain ⟨-, same⟩ := List.append_inj same (Nat.succ.inj length)
  exact (Text.run_unique (List.append_cancel_left (List.cons.inj same).2) all stops all' stops').1

theorem lastName?_cons (c : Char) (rest : List Char) :
    lastName? (c :: rest) =
      (lastName? rest).or (if isBlank c then nameAt? rest else none) := by
  rw [lastName?]
  cases lastName? rest <;> rfl

/-- The scan finds nothing where nothing is offered, and else the last offer. -/
theorem lastName?_cases (settings : List Char) :
    (lastName? settings = none ∧ ∀ p name, ¬ Offers settings p name) ∨
      ∃ p name, lastName? settings = some name ∧ IsLastOffer settings p name := by
  induction settings with
  | nil => exact .inl ⟨rfl, not_offers_nil⟩
  | cons c rest ih =>
      rcases ih with ⟨scanned, silent⟩ | ⟨p, name, scanned, offers, last⟩
      · -- Nothing is offered behind the first character.
        have first : ∀ p name, Offers (c :: rest) p name ↔
            p = 1 ∧ isBlank c = true ∧ nameAt? rest = some name := by
          intro p name
          rw [offers_cons_iff]
          exact or_iff_left fun ⟨q, _, offers⟩ => silent q name offers
        simp only [lastName?, scanned, first, IsLastOffer]
        by_cases blank : isBlank c = true
        · cases found : nameAt? rest with
          | none => simp [blank]
          | some name =>
              refine .inr ⟨1, name, by simp [blank], ⟨rfl, blank, rfl⟩, ?_⟩
              exact fun q other offered => Nat.le_of_eq offered.1
        · simp [blank]
      · refine .inr ⟨p + 1, name, by simp [lastName?, scanned],
          (offers_cons_iff ..).2 (.inr ⟨p, rfl, offers⟩), ?_⟩
        intro q other offered
        rcases (offers_cons_iff ..).1 offered with ⟨rfl, -⟩ | ⟨q, rfl, behind⟩
        · omega
        · exact Nat.succ_le_succ (last q other behind)

theorem lastName?_eq_some_iff (settings name : List Char) :
    lastName? settings = some name ↔ ∃ p, IsLastOffer settings p name := by
  rcases lastName?_cases settings with ⟨scanned, silent⟩ | ⟨p, last, scanned, offers, greatest⟩
  · rw [scanned]
    exact ⟨fun found => (by cases found), fun ⟨p, offers, _⟩ => absurd offers (silent p name)⟩
  · rw [scanned, Option.some.injEq]
    constructor
    · rintro rfl
      exact ⟨p, offers, greatest⟩
    · rintro ⟨q, offers', greatest'⟩
      obtain rfl : p = q := Nat.le_antisymm (greatest' p last offers) (greatest q name offers')
      exact offers.unique offers'

theorem lastName?_eq_none {text : List Char} (solid : ∀ c ∈ text, isBlank c = false) :
    lastName? text = none := by
  induction text with
  | nil => rfl
  | cons c rest ih =>
      rw [List.forall_mem_cons] at solid
      rw [lastName?_cons, ih solid.2, solid.1]
      rfl

/-- What stands behind a blank is looked at first. -/
theorem lastName?_append {c : Char} (blank : isBlank c = true) (front behind : List Char) :
    lastName? (front ++ c :: behind) = (lastName? (c :: behind)).or (lastName? front) := by
  induction front with
  | nil => simp [lastName?]
  | cons d front ih =>
      rw [List.cons_append, lastName?_cons, ih, nameAt?_append blank, Option.or_assoc,
        ← lastName?_cons]

/-! ## Lines -/

theorem hasSettings_iff (line settings : List Char) :
    HasSettings line settings ↔ ∃ comment, after? ['#'] line = some comment ∧
      after? "shellcheck".toList (trimStart comment) = some settings ∧
      (settings.head?.map isBlank).getD false = true := by
  have blank_iff : (settings.head?.map isBlank).getD false = true ↔
      ∃ c rest, settings = c :: rest ∧ isBlank c = true := by
    cases settings <;> simp
  rw [blank_iff]
  simp only [after?_eq_some_iff]
  constructor
  · rintro ⟨⟨space, all, rfl⟩, blank⟩
    refine ⟨_, rfl, ?_, blank⟩
    exact Text.dropWhile_run all (Text.stops_cons (by decide))
  · rintro ⟨comment, rfl, trimmed, blank⟩
    refine ⟨⟨comment.takeWhile isBlank, fun c => List.mem_takeWhile_imp, ?_⟩, blank⟩
    rw [← trimmed, trimStart, List.takeWhile_append_dropWhile]
    rfl

theorem ofLine?_eq_some_iff (line name : List Char) :
    ofLine? line = some name ↔ Gives line name := by
  simp only [Gives, ← lastName?_eq_some_iff, hasSettings_iff, ofLine?, Option.bind_eq_bind,
    Option.bind_eq_some_iff]
  constructor
  · rintro ⟨comment, started, settings, behind, found⟩
    split at found
    · rename_i blank
      exact ⟨settings, ⟨comment, started, behind, blank⟩, found⟩
    · cases found
  · rintro ⟨settings, ⟨comment, started, behind, blank⟩, found⟩
    exact ⟨comment, started, settings, behind, by rw [if_pos blank, found]⟩

theorem isDirective_iff (line : List Char) : IsDirective line ↔ ∃ name, Gives line name := by
  constructor
  · rintro ⟨settings, has, p, name, offers⟩
    rcases lastName?_cases settings with ⟨-, silent⟩ | ⟨q, last, -, isLast⟩
    · exact absurd offers (silent p name)
    · exact ⟨last, settings, has, q, isLast⟩
  · rintro ⟨name, settings, has, p, offers, -⟩
    exact ⟨settings, has, p, name, offers⟩

theorem ofLine?_eq_none_iff (line : List Char) : ofLine? line = none ↔ ¬ IsDirective line := by
  rw [isDirective_iff, Option.eq_none_iff_forall_ne_some]
  simp only [ne_eq, ofLine?_eq_some_iff, not_exists]

/-- An offer that is put behind a directive wins over those in front of it, but not without a
name. -/
theorem gives_append {line name : List Char} (gives : Gives line name) {c : Char}
    (blank : isBlank c = true) :
    Gives (line ++ c :: "shell=".toList) name ∧
      ∀ other, other ≠ [] → (∀ c ∈ other, isNameChar c = true) →
        Gives (line ++ c :: ("shell=".toList ++ other)) other := by
  obtain ⟨settings, ⟨⟨space, all, rfl⟩, d, rest, rfl, isBlank'⟩, offered⟩ := gives
  have longer (behind : List Char) :
      HasSettings ('#' :: (space ++ ("shellcheck".toList ++ d :: rest)) ++ c :: behind)
        (d :: rest ++ c :: behind) :=
    ⟨⟨space, all, by simp only [List.cons_append, List.append_assoc]⟩, d, _, rfl, isBlank'⟩
  have scanned := (lastName?_eq_some_iff _ _).2 offered
  constructor
  · refine ⟨_, longer _, (lastName?_eq_some_iff _ _).1 ?_⟩
    have empty : nameAt? "shell=".toList = none := by decide
    have silent : lastName? (c :: "shell=".toList) = none := by
      rw [lastName?_cons, if_pos blank, empty,
        lastName?_eq_none fun _ => isBlank_eq_false_of_mem, Option.none_or]
    rw [lastName?_append blank, silent, Option.none_or, scanned]
  · intro other given all'
    refine ⟨_, longer _, (lastName?_eq_some_iff _ _).1 ?_⟩
    have solid : ∀ x ∈ "shell=".toList ++ other, isBlank x = false := by
      intro x member
      rcases List.mem_append.1 member with member | member
      · exact isBlank_eq_false_of_mem member
      · by_contra blank'
        have noName := isNameChar_of_isBlank (Bool.of_not_eq_false blank')
        rw [all' x member] at noName
        cases noName
    have found : nameAt? ("shell=".toList ++ other) = some other :=
      (nameAt?_eq_some_iff _ _).2 ⟨[], by rw [List.append_nil], given, all', Text.stops_nil⟩
    rw [lastName?_append blank, lastName?_cons, lastName?_eq_none solid, if_pos blank, found]
    rfl

theorem not_isDirective_of_solid {c : Char} (solid : isBlank c = false) (behind : List Char) :
    ¬ IsDirective ("#shellcheck".toList ++ c :: behind) := by
  rintro ⟨settings, has, -⟩
  have start : "#shellcheck".toList = '#' :: "shellcheck".toList := by decide
  obtain ⟨comment, started, word, blank⟩ := (hasSettings_iff _ _).1 has
  rw [after?_eq_some_iff, start, List.cons_append, List.singleton_append] at started
  have letters : Stops isBlank ("shellcheck".toList ++ c :: behind) := Text.stops_cons (by decide)
  rw [← (List.cons.inj started).2, trimStart, Text.dropWhile_of_stops letters,
    after?_eq_some_iff] at word
  rw [← List.append_cancel_left word, List.head?_cons, Option.map_some, solid] at blank
  cases blank

/-! ## Matching with backtracking -/

section

variable (holds : Char → Bool) (next : List Char → Option (List Char))

/-- One character of a kind, and then what `next` matches. -/
def one : List Char → Option (List Char)
  | [] => none
  | c :: rest => if holds c then next rest else none

/-- Characters of a kind, as many as possible with what `next` matches behind them. -/
def many : List Char → Option (List Char)
  | [] => next []
  | c :: rest => (if holds c then many rest else none).or (next (c :: rest))

end

/-- A pattern or nothing at all, and then what `next` matches. -/
def optional (pattern : (List Char → Option (List Char)) → List Char → Option (List Char))
    (next : List Char → Option (List Char)) (text : List Char) : Option (List Char) :=
  (pattern next text).or (next text)

/-- The name that the pattern `\s*#\s*shellcheck\s+(.*\s)?shell=([\w-]+)` finds in a line, where a
point stands for any character but a line feed. -/
def matched? : List Char → Option (List Char) :=
  many isBlank fun line => (after? ['#'] line).bind <|
    many isBlank fun comment => (after? "shellcheck".toList comment).bind <|
      one isBlank <| many isBlank <|
        optional (fun next => many (· != '\n') (one isBlank next)) nameAt?

/-- Nothing needs to be given back if nothing else matches where a character of the kind stands. -/
theorem many_of_disjoint {holds : Char → Bool} {next : List Char → Option (List Char)}
    (disjoint : ∀ c rest, holds c = true → next (c :: rest) = none) (text : List Char) :
    many holds next text = next (text.dropWhile holds) := by
  induction text with
  | nil => rfl
  | cons c rest ih =>
      rw [many, List.dropWhile_cons]
      by_cases kind : holds c = true
      · rw [if_pos kind, if_pos kind, disjoint c rest kind, Option.or_none, ih]
      · rw [if_neg kind, if_neg kind, Option.none_or]

/-- The part of a pattern that may be left out is first tried where it takes the most. -/
theorem many_one_nameAt? {text : List Char} (single : '\n' ∉ text) :
    many (· != '\n') (one isBlank nameAt?) text = lastName? text := by
  induction text with
  | nil => rfl
  | cons c rest ih =>
      rw [List.mem_cons, not_or] at single
      rw [many, if_pos (by simpa using Ne.symm single.1), ih single.2, one, lastName?_cons]

theorem many_optional {text : List Char} (single : '\n' ∉ text) :
    many isBlank (optional (fun next => many (· != '\n') (one isBlank next)) nameAt?) text =
      (lastName? text).or (nameAt? text) := by
  induction text with
  | nil => rfl
  | cons c rest ih =>
      have behind := List.not_mem_of_not_mem_cons single
      rw [many, optional, many_one_nameAt? single, ih behind]
      by_cases blank : isBlank c = true
      · -- The optional part takes this blank as well, and finds the same name behind it.
        rw [if_pos blank, nameAt?_of_isBlank blank, Option.or_none, lastName?_cons, if_pos blank,
          Option.or_self]
      · rw [if_neg blank, Option.none_or]

theorem matched?_eq_ofLine? {line : List Char} (single : '\n' ∉ line) :
    matched? line = ofLine? (trimStart line) := by
  have disjoint {word : List Char} {next : List Char → Option (List Char)} {w : Char}
      {rest : List Char} (first : word = w :: rest) (solid : isBlank w = false) :
      ∀ c text, isBlank c = true → ((after? word (c :: text)).bind next) = none := by
    rintro c text blank
    have other : w ≠ c := by
      rintro rfl
      rw [solid] at blank
      cases blank
    simp [first, after?, other]
  rw [matched?, many_of_disjoint (disjoint rfl (by decide)), ofLine?, trimStart]
  simp only [Option.bind_eq_bind]
  cases started : after? ['#'] (line.dropWhile isBlank) with
  | none => rfl
  | some comment =>
      rw [Option.bind_some, Option.bind_some, many_of_disjoint (disjoint rfl (by decide)),
        trimStart]
      cases named : after? "shellcheck".toList (comment.dropWhile isBlank) with
      | none => rfl
      | some settings =>
          have single' : '\n' ∉ settings := by
            intro member
            have inComment : '\n' ∈ comment.dropWhile isBlank := by
              rw [(after?_eq_some_iff ..).1 named]
              exact List.mem_append_right _ member
            have inLine : '\n' ∈ line.dropWhile isBlank := by
              rw [(after?_eq_some_iff ..).1 started]
              exact List.mem_cons_of_mem _ ((List.dropWhile_sublist _).mem inComment)
            exact single ((List.dropWhile_sublist _).mem inLine)
          rw [Option.bind_some, Option.bind_some]
          cases settings with
          | nil => rfl
          | cons c rest =>
              have behind := List.not_mem_of_not_mem_cons single'
              rw [one, many_optional behind, lastName?_cons]
              by_cases blank : isBlank c = true <;> simp [blank]

/-! ## Texts -/

theorem endsHeader_trim (line : List Char) : endsHeader (trim line) = decide (IsCode line) := by
  rw [endsHeader, Bool.eq_iff_iff, decide_eq_true_iff, IsCode]
  cases trim line <;> simp

theorem ofLines?_eq (lines : List (List Char)) :
    ofLines? lines =
      (lines.takeWhile fun line => !decide (IsCode line)).findSome? fun line =>
        ofLine? (trim line) := by
  induction lines with
  | nil => rfl
  | cons line more ih =>
      rw [ofLines?, endsHeader_trim, List.takeWhile_cons]
      by_cases code : IsCode line
      · simp [code]
      · rw [ih]
        cases found : ofLine? (trim line) <;> simp [code, found]

theorem ofText?_eq (text : List Char) :
    ofText? text =
      ((headerLines text).findSome? fun line => ofLine? (trim line)).map String.ofList := by
  rw [ofText?, ofLines?_eq]
  rfl

theorem findSome?_congr {α β : Type} {f g : α → Option β} {xs : List α}
    (same : ∀ x ∈ xs, f x = g x) : xs.findSome? f = xs.findSome? g := by
  induction xs with
  | nil => rfl
  | cons x xs ih =>
      rw [List.forall_mem_cons] at same
      rw [List.findSome?_cons, List.findSome?_cons, same.1, ih same.2]

/-- A line of a text is matched with backtracking as it is scanned. -/
theorem matched?_of_mem_headerLines {text line : List Char} (member : line ∈ headerLines text) :
    matched? (trim line) = ofLine? (trim line) := by
  have isLine : line ∈ Text.splitLines text := (List.takeWhile_sublist _).mem member
  have single : '\n' ∉ trim line := by
    intro held
    have ends := Text.forall_not_ends_of_mem isLine '\n' (Text.mem_of_mem_trim held)
    exact absurd ends (by decide)
  rw [matched?_eq_ofLine? single, Text.trimStart_trim]

/-- The header of a text names a shell exactly if one of its lines is a directive, and then the
shell is the one that the first of these gives; the pattern finds it there. Of the offers of a
directive the last counts, and one without a name is none. There is none behind a character that is
not blank, and settings that no blank starts are none. -/
theorem first_directive_names_shell (text : String) :
    ((ofText? text.toList).isSome = true ↔
        ∃ line ∈ headerLines text.toList, IsDirective (trim line)) ∧
      (∀ shell, ofText? text.toList = some shell ↔
        ∃ front line behind, headerLines text.toList = front ++ line :: behind ∧
          (∀ other ∈ front, ¬ IsDirective (trim other)) ∧ Gives (trim line) shell.toList) ∧
      ofText? text.toList =
        ((headerLines text.toList).findSome? fun line => matched? (trim line)).map String.ofList ∧
      (∀ line name c, Gives line name → isBlank c = true →
        Gives (line ++ c :: "shell=".toList) name ∧
          ∀ other, other ≠ [] → (∀ c ∈ other, isNameChar c = true) →
            Gives (line ++ c :: ("shell=".toList ++ other)) other) ∧
      (∀ front c behind name, isBlank c = false →
        ¬ Offers (front ++ c :: ("shell=".toList ++ behind)) (front.length + 1) name) ∧
      ∀ c behind, isBlank c = false → ¬ IsDirective ("#shellcheck".toList ++ c :: behind) := by
  have named (shell : String) (found : Option (List Char)) :
      found.map String.ofList = some shell ↔ found = some shell.toList := by
    rw [Option.map_eq_some_iff]
    constructor
    · rintro ⟨name, rfl, rfl⟩
      rw [String.toList_ofList]
    · rintro rfl
      exact ⟨shell.toList, rfl, String.ofList_toList⟩
  refine ⟨?_, fun shell => ?_, ?_, fun line name c gives blank => gives_append gives blank, ?_, ?_⟩
  · rw [ofText?_eq, Option.isSome_map, List.isSome_findSome?, List.any_eq_true]
    simp only [Option.isSome_iff_exists, ofLine?_eq_some_iff, isDirective_iff]
  · rw [ofText?_eq, named, List.findSome?_eq_some_iff]
    simp only [ofLine?_eq_some_iff, ofLine?_eq_none_iff]
    constructor
    · rintro ⟨front, line, behind, split, gives, silent⟩
      exact ⟨front, line, behind, split, silent, gives⟩
    · rintro ⟨front, line, behind, split, silent, gives⟩
      exact ⟨front, line, behind, split, gives, silent⟩
  · have same : (headerLines text.toList).findSome? (fun line => matched? (trim line)) =
        (headerLines text.toList).findSome? fun line => ofLine? (trim line) :=
      findSome?_congr fun line member => matched?_of_mem_headerLines member
    rw [ofText?_eq, same]
  · rintro front c behind name solid ⟨front', blank, behind', same, length, isBlank', -⟩
    obtain ⟨-, same⟩ := List.append_inj same (Nat.succ.inj length)
    rw [← (List.cons.inj same).1, solid] at isBlank'
    cases isBlank'
  · exact fun c behind solid => not_isDirective_of_solid solid behind

example :
    ofText? "# shellcheck disable=SC1 shell=sh  shell=\nfoo=1\n# shellcheck shell=dash\n".toList =
      some "sh" := by
  decide +kernel

end LintBridge.Directive
