import LintBridge.Proofs.Entries
import LintBridge.Proofs.Sorting
import LintBridge.Report
import Mathlib.Data.List.Forall2

/-!
# What counts as a report

`Report.IsIn` says what a report looks like as a value, and a value is read exactly as the report
that it is (`ofJson_eq_ok_iff`). `Report.Offends` says which places keep a value from being one: the
value itself, its list of comments, an item of that list, or a field of a comment. These places are
what is reported (`mem_violations_iff`), in the order of the items and, within an item, of the
fields. Entries under any other key do not count (`ofJson_essence`).
-/
set_option autoImplicit false

namespace LintBridge

/-! ## The fields of a comment -/

/-- What a field holds. -/
inductive FieldKind where
  | text
  | integer
  /-- A suggested replacement, which may be absent but must be mentioned. -/
  | replacement
  deriving DecidableEq, Repr

namespace FieldKind

def allows : FieldKind → Json → Bool
  | .text, .str _ => true
  | .integer, .int _ => true
  | .replacement, .null => true
  | .replacement, .obj _ => true
  | _, _ => false

def expected : FieldKind → Expectation
  | .text => .string
  | .integer => .integer
  | .replacement => .dictionary

end FieldKind

/-- A field of a comment: its key, another key that stands in for a missing one, and what the field
holds. -/
structure FieldRule where
  key : String
  other : Option String
  kind : FieldKind

namespace FieldRule

def keys (f : FieldRule) : List String := f.key :: f.other.toList

/-- The entry that a field is read from, with the key that it is found under. -/
def given? (f : FieldRule) (entries : List (String × Json)) : Option (String × Json) :=
  ((entries.lookup f.key).map fun value => (f.key, value)).or
    (f.other.bind fun key => (entries.lookup key).map fun value => (key, value))

/-- What is wrong with a field, and the key that the fault is found under. -/
inductive Breaks (f : FieldRule) (entries : List (String × Json)) :
    String → Expectation → Prop where
  | missing (absent : f.given? entries = none) : Breaks f entries f.key .present
  | illTyped (key : String) (value : Json) (used : f.given? entries = some (key, value))
      (refused : f.kind.allows value = false) : Breaks f entries key f.kind.expected

end FieldRule

namespace Comment

/-- The fields of a comment, in order. -/
def rules : List FieldRule :=
  [⟨"file", none, .text⟩, ⟨"line", none, .integer⟩, ⟨"endLine", some "end_line", .integer⟩,
    ⟨"column", none, .integer⟩, ⟨"endColumn", some "end_column", .integer⟩, ⟨"level", none, .text⟩,
    ⟨"code", none, .integer⟩, ⟨"message", none, .text⟩, ⟨"fix", none, .replacement⟩]

/-- The keys that a comment is read from. -/
def keys : List String := rules.flatMap FieldRule.keys

/-- The place in the order of the fields of the one that is read under a key. -/
def fieldRank (key : String) : Nat := rules.findIdx fun f => f.keys.contains key

/-- A comment as the entries of an object. The keys of the ends of its range have two spellings, of
which the second only counts where the first is missing. -/
structure IsIn (c : Comment) (entries : List (String × Json)) : Prop where
  file : entries.lookup "file" = some (.str c.file)
  line : entries.lookup "line" = some (.int c.line)
  endLine : (entries.lookup "endLine").or (entries.lookup "end_line") = some (.int c.endLine)
  column : entries.lookup "column" = some (.int c.column)
  endColumn :
    (entries.lookup "endColumn").or (entries.lookup "end_column") = some (.int c.endColumn)
  level : entries.lookup "level" = some (.str c.level)
  code : entries.lookup "code" = some (.int c.code)
  message : entries.lookup "message" = some (.str c.message)
  fix : entries.lookup "fix" = some (c.fix.elim .null .obj)

end Comment

namespace Report

/-- A report as a value: an object with a list of comments. -/
def IsIn (r : Report) (v : Json) : Prop :=
  ∃ entries items, v = .obj entries ∧ entries.lookup "comments" = some (.arr items) ∧
    List.Forall₂ (fun item c => ∃ fields, item = .obj fields ∧ Comment.IsIn c fields) items
      r.comments

/-- An item of the list of comments in a value, with its index. -/
def HasItem (v : Json) (i : Nat) (item : Json) : Prop :=
  ∃ entries items, v = .obj entries ∧ entries.lookup "comments" = some (.arr items) ∧
    items[i]? = some item

/-- The places that keep a value from being a report, and what is wrong there. -/
inductive Offends (v : Json) : Violation → Prop where
  | root (other : ∀ entries, v ≠ .obj entries) : Offends v ⟨[], .record "ShellCheckResult"⟩
  | missing (entries : List (String × Json)) (object : v = .obj entries)
      (absent : entries.lookup "comments" = none) : Offends v ⟨[.key "comments"], .present⟩
  | noList (entries : List (String × Json)) (value : Json) (object : v = .obj entries)
      (given : entries.lookup "comments" = some value) (other : ∀ items, value ≠ .arr items) :
      Offends v ⟨[.key "comments"], .list⟩
  | item (i : Nat) (item : Json) (listed : HasItem v i item)
      (other : ∀ fields, item ≠ .obj fields) :
      Offends v ⟨[.key "comments", .index i], .record "ShellCheckComment"⟩
  | field (i : Nat) (fields : List (String × Json)) (f : FieldRule) (key : String)
      (expected : Expectation) (listed : HasItem v i (.obj fields)) (known : f ∈ Comment.rules)
      (broken : f.Breaks fields key expected) :
      Offends v ⟨[.key "comments", .index i, .key key], expected⟩

/-- The order of violations: that of the items, and within an item that of the fields. -/
inductive Before : Violation → Violation → Prop where
  | item (i j : Nat) (rest rest' : List Step) (e e' : Expectation) (lt : i < j) :
      Before ⟨.key "comments" :: .index i :: rest, e⟩ ⟨.key "comments" :: .index j :: rest', e'⟩
  | field (i : Nat) (key key' : String) (e e' : Expectation)
      (lt : Comment.fieldRank key < Comment.fieldRank key') :
      Before ⟨[.key "comments", .index i, .key key], e⟩ ⟨[.key "comments", .index i, .key key'], e'⟩

/-- An item without the entries that a comment is not read from. -/
def itemEssence : Json → Json
  | .obj fields => .obj (fields.filter fun entry => Comment.keys.contains entry.1)
  | item => item

def listEssence : Json → Json
  | .arr items => .arr (items.map itemEssence)
  | value => value

/-- A value without the entries that a report is not read from. -/
def essence : Json → Json
  | .obj entries =>
    .obj ((entries.filter fun entry => entry.1 == "comments").map fun entry =>
      (entry.1, listEssence entry.2))
  | value => value

end Report

/-! ## Outcomes of checks -/

/-- A check that fails only if it has something to report. -/
def Checked.IsHonest {α : Type} (outcome : Checked α) : Prop := outcome ≠ .error []

theorem Checked.IsHonest.exists_ok {α : Type} {outcome : Checked α} (honest : outcome.IsHonest)
    (silent : outcome.violations = []) : ∃ a, outcome = .ok a := by
  cases outcome with
  | ok a => exact ⟨a, rfl⟩
  | error vs =>
      simp only [violations] at silent
      exact absurd (congrArg Except.error silent) honest

theorem Checked.all_eq_ok_iff {α : Type} (outcomes : List (Checked α)) (xs : List α) :
    Checked.all outcomes = .ok xs ↔
      List.Forall₂ (fun outcome x => outcome = .ok x) outcomes xs := by
  induction outcomes generalizing xs with
  | nil =>
      rw [List.forall₂_nil_left_iff, Checked.all, Except.ok.injEq]
      exact eq_comm
  | cons outcome more ih =>
      rw [List.forall₂_cons_left_iff]
      cases outcome with
      | error vs => simp [Checked.all]
      | ok x =>
          cases rest : Checked.all more with
          | error vs =>
              have none : ∀ ys, ¬ List.Forall₂ (fun outcome x => outcome = .ok x) more ys := by
                intro ys paired
                rw [← ih, rest] at paired
                cases paired
              simp [Checked.all, rest, Except.map, none]
          | ok ys =>
              have only : ∀ zs,
                  List.Forall₂ (fun outcome x => outcome = .ok x) more zs ↔ ys = zs := by
                intro zs
                rw [← ih, rest, Except.ok.injEq]
              simp [Checked.all, rest, Except.map, only, eq_comm]

theorem Checked.all_isHonest {α : Type} {outcomes : List (Checked α)}
    (honest : ∀ outcome ∈ outcomes, outcome.IsHonest) : (Checked.all outcomes).IsHonest := by
  induction outcomes with
  | nil => simp [IsHonest, Checked.all]
  | cons outcome more ih =>
      have first := honest outcome (List.mem_cons_self ..)
      have later := ih fun other member => honest other (List.mem_cons_of_mem _ member)
      cases outcome with
      | error vs =>
          simp only [IsHonest, ne_eq, Except.error.injEq] at first
          simp [IsHonest, Checked.all, first]
      | ok x =>
          cases rest : Checked.all more with
          | ok xs => simp [IsHonest, Checked.all, rest, Except.map]
          | error vs =>
              simp only [IsHonest, rest, ne_eq, Except.error.injEq] at later
              simp [IsHonest, Checked.all, rest, Except.map, later]

theorem Checked.IsHonest.map {α β : Type} {outcome : Checked α} (honest : outcome.IsHonest)
    (f : α → β) : Checked.IsHonest (outcome.map f) := by
  cases outcome with
  | ok a => simp [IsHonest, Except.map]
  | error vs =>
      simp only [IsHonest, ne_eq, Except.error.injEq] at honest
      simp [IsHonest, Except.map, honest]

/-! ## Fields -/

/-- A check that reads what a kind of field holds, each value as it is spelled, and refuses the
rest. -/
structure FieldKind.IsCheckedBy {α : Type} (k : FieldKind) (check : List Step → Json → Checked α)
    (spell : α → Json) : Prop where
  ok_iff : ∀ place v a, check place v = .ok a ↔ v = spell a
  violations_eq : ∀ place v,
    (check place v).violations = if k.allows v then [] else [⟨place, k.expected⟩]
  honest : ∀ place v, (check place v).IsHonest

theorem FieldKind.isCheckedBy_text : FieldKind.text.IsCheckedBy Json.text .str where
  ok_iff := by intro place v a; cases v <;> simp [Json.text, violation]
  violations_eq := by intro place v; cases v <;> rfl
  honest := by intro place v; cases v <;> simp [Checked.IsHonest, Json.text, violation]

theorem FieldKind.isCheckedBy_integer : FieldKind.integer.IsCheckedBy Json.integer .int where
  ok_iff := by intro place v a; cases v <;> simp [Json.integer, violation]
  violations_eq := by intro place v; cases v <;> rfl
  honest := by intro place v; cases v <;> simp [Checked.IsHonest, Json.integer, violation]

theorem FieldKind.isCheckedBy_checkFix :
    FieldKind.replacement.IsCheckedBy Comment.checkFix fun fix => fix.elim .null .obj where
  ok_iff := by
    intro place v a
    cases v <;> cases a <;> simp [Comment.checkFix, violation, eq_comm]
  violations_eq := by intro place v; cases v <;> rfl
  honest := by intro place v; cases v <;> simp [Checked.IsHonest, Comment.checkFix, violation]

namespace FieldRule

/-- The violation of a field of the object at a place, if it has one. -/
def violations (f : FieldRule) (place : List Step) (entries : List (String × Json)) :
    List Violation :=
  match f.given? entries with
  | none => [⟨place ++ [.key f.key], .present⟩]
  | some (key, value) =>
    if f.kind.allows value then [] else [⟨place ++ [.key key], f.kind.expected⟩]

theorem mem_violations_iff (f : FieldRule) (place : List Step) (entries : List (String × Json))
    (x : Violation) :
    x ∈ f.violations place entries ↔
      ∃ key expected, f.Breaks entries key expected ∧ x = ⟨place ++ [.key key], expected⟩ := by
  unfold violations
  constructor
  · intro member
    split at member
    · rename_i absent
      exact ⟨_, _, .missing absent, List.mem_singleton.1 member⟩
    · rename_i key value used
      split at member
      · cases member
      · rename_i refused
        exact ⟨key, _, .illTyped key value used (Bool.eq_false_iff.2 refused),
          List.mem_singleton.1 member⟩
  · rintro ⟨key, expected, broken, rfl⟩
    cases broken with
    | missing absent => simp [absent]
    | illTyped key value used refused => simp [used, refused]

/-- A field breaks under one of its own keys. -/
theorem Breaks.key_mem {f : FieldRule} {entries : List (String × Json)} {key : String}
    {expected : Expectation} (broken : f.Breaks entries key expected) : key ∈ f.keys := by
  cases broken with
  | missing absent => exact List.mem_cons_self ..
  | illTyped key value used refused =>
      rw [given?, Option.or_eq_some_iff] at used
      simp only [Option.map_eq_some_iff, Option.bind_eq_some_iff, Prod.mk.injEq] at used
      rcases used with ⟨_, _, rfl, _⟩ | ⟨_, other, alternative, _, _, rfl, _⟩
      · exact List.mem_cons_self ..
      · exact List.mem_cons_of_mem _ (by simp [alternative])

section

variable {α : Type} {kind : FieldKind} {check : List Step → Json → Checked α} {spell : α → Json}

theorem violations_field (checked : kind.IsCheckedBy check spell) (place : List Step)
    (entries : List (String × Json)) (key : String) :
    (Json.field entries place key check).violations =
      violations ⟨key, none, kind⟩ place entries := by
  unfold Json.field violations given?
  cases entries.lookup key with
  | none => rfl
  | some value => exact checked.violations_eq _ _

theorem violations_fieldOr (checked : kind.IsCheckedBy check spell) (place : List Step)
    (entries : List (String × Json)) (key other : String) :
    (Json.fieldOr entries place key other check).violations =
      violations ⟨key, some other, kind⟩ place entries := by
  unfold Json.fieldOr violations given?
  cases entries.lookup key with
  | none =>
      cases found : entries.lookup other with
      | none => simp [found, violation, Checked.violations]
      | some value => simpa [found] using checked.violations_eq _ _
  | some value => exact checked.violations_eq _ _

theorem field_isHonest (checked : kind.IsCheckedBy check spell) (place : List Step)
    (entries : List (String × Json)) (key : String) :
    (Json.field entries place key check).IsHonest := by
  unfold Json.field
  cases entries.lookup key with
  | none => simp [Checked.IsHonest, violation]
  | some value => exact checked.honest _ _

theorem fieldOr_isHonest (checked : kind.IsCheckedBy check spell) (place : List Step)
    (entries : List (String × Json)) (key other : String) :
    (Json.fieldOr entries place key other check).IsHonest := by
  unfold Json.fieldOr
  cases entries.lookup key with
  | none =>
      cases entries.lookup other with
      | none => simp [Checked.IsHonest, violation]
      | some value => exact checked.honest _ _
  | some value => exact checked.honest _ _

theorem field_eq_ok_iff (checked : kind.IsCheckedBy check spell) (place : List Step)
    (entries : List (String × Json)) (key : String) (a : α) :
    Json.field entries place key check = .ok a ↔ entries.lookup key = some (spell a) := by
  unfold Json.field
  cases entries.lookup key with
  | none => simp [violation]
  | some value => simp [checked.ok_iff]

theorem fieldOr_eq_ok_iff (checked : kind.IsCheckedBy check spell) (place : List Step)
    (entries : List (String × Json)) (key other : String) (a : α) :
    Json.fieldOr entries place key other check = .ok a ↔
      (entries.lookup key).or (entries.lookup other) = some (spell a) := by
  unfold Json.fieldOr
  cases entries.lookup key with
  | none =>
      cases entries.lookup other with
      | none => simp [violation]
      | some value => simp [checked.ok_iff]
  | some value => simp [checked.ok_iff]

end

end FieldRule

/-! ## Comments -/

namespace Comment

theorem violations_ofJson (place : List Step) (fields : List (String × Json)) :
    (ofJson place (.obj fields)).violations =
      rules.flatMap fun f => f.violations place fields := by
  have text := FieldKind.isCheckedBy_text
  have integer := FieldKind.isCheckedBy_integer
  have fix := FieldKind.isCheckedBy_checkFix
  simp only [rules, List.flatMap_cons, List.flatMap_nil, List.append_nil, ← List.append_assoc,
    ← FieldRule.violations_field text, ← FieldRule.violations_field integer,
    ← FieldRule.violations_field fix, ← FieldRule.violations_fieldOr integer]
  unfold ofJson
  dsimp only
  split
  · rename_i h1 h2 h3 h4 h5 h6 h7 h8 h9
    simp only [h1, h2, h3, h4, h5, h6, h7, h8, h9, Checked.violations, List.append_nil]
  · rfl

theorem ofJson_obj_eq_ok_iff (place : List Step) (fields : List (String × Json)) (c : Comment) :
    ofJson place (.obj fields) = .ok c ↔ c.IsIn fields := by
  have text := @FieldRule.field_eq_ok_iff _ _ _ _ FieldKind.isCheckedBy_text place fields
  have integer := @FieldRule.field_eq_ok_iff _ _ _ _ FieldKind.isCheckedBy_integer place fields
  have either := @FieldRule.fieldOr_eq_ok_iff _ _ _ _ FieldKind.isCheckedBy_integer place fields
  have fix := @FieldRule.field_eq_ok_iff _ _ _ _ FieldKind.isCheckedBy_checkFix place fields
  constructor
  · intro read
    unfold ofJson at read
    dsimp only at read
    split at read
    · rename_i h1 h2 h3 h4 h5 h6 h7 h8 h9
      obtain rfl := Except.ok.inj read
      exact ⟨(text _ _).1 h1, (integer _ _).1 h2, (either _ _ _).1 h3, (integer _ _).1 h4,
        (either _ _ _).1 h5, (text _ _).1 h6, (integer _ _).1 h7, (text _ _).1 h8, (fix _ _).1 h9⟩
    · cases read
  · intro is
    unfold ofJson
    simp only [(text _ _).2 is.file, (integer _ _).2 is.line, (either _ _ _).2 is.endLine,
      (integer _ _).2 is.column, (either _ _ _).2 is.endColumn, (text _ _).2 is.level,
      (integer _ _).2 is.code, (text _ _).2 is.message, (fix _ _).2 is.fix]

theorem ofJson_eq_ok_iff (place : List Step) (item : Json) (c : Comment) :
    ofJson place item = .ok c ↔ ∃ fields, item = .obj fields ∧ c.IsIn fields := by
  cases item with
  | obj fields => simp [ofJson_obj_eq_ok_iff]
  | _ => simp [ofJson, violation]

theorem ofJson_isHonest (place : List Step) (item : Json) : (ofJson place item).IsHonest := by
  cases item with
  | obj fields =>
      have text := @FieldRule.field_isHonest _ _ _ _ FieldKind.isCheckedBy_text place fields
      have integer := @FieldRule.field_isHonest _ _ _ _ FieldKind.isCheckedBy_integer place fields
      have either := @FieldRule.fieldOr_isHonest _ _ _ _ FieldKind.isCheckedBy_integer place fields
      have fix := @FieldRule.field_isHonest _ _ _ _ FieldKind.isCheckedBy_checkFix place fields
      unfold ofJson
      dsimp only
      split
      · simp [Checked.IsHonest]
      · -- without violations every field would have been read
        rename_i refused
        intro silent
        simp only [Except.error.injEq, List.append_eq_nil_iff] at silent
        obtain ⟨⟨⟨⟨⟨⟨⟨⟨s1, s2⟩, s3⟩, s4⟩, s5⟩, s6⟩, s7⟩, s8⟩, s9⟩ := silent
        obtain ⟨a1, h1⟩ := (text _).exists_ok s1
        obtain ⟨a2, h2⟩ := (integer _).exists_ok s2
        obtain ⟨a3, h3⟩ := (either _ _).exists_ok s3
        obtain ⟨a4, h4⟩ := (integer _).exists_ok s4
        obtain ⟨a5, h5⟩ := (either _ _).exists_ok s5
        obtain ⟨a6, h6⟩ := (text _).exists_ok s6
        obtain ⟨a7, h7⟩ := (integer _).exists_ok s7
        obtain ⟨a8, h8⟩ := (text _).exists_ok s8
        obtain ⟨a9, h9⟩ := (fix _).exists_ok s9
        exact refused a1 a2 a3 a4 a5 a6 a7 a8 a9 h1 h2 h3 h4 h5 h6 h7 h8 h9
  | _ => simp [Checked.IsHonest, ofJson, violation]

theorem rank_lt_of_rules : rules.Pairwise fun f g =>
    ∀ key ∈ f.keys, ∀ key' ∈ g.keys, fieldRank key < fieldRank key' := by
  decide

theorem pairwise_violations (i : Nat) (fields : List (String × Json)) :
    (rules.flatMap fun f => f.violations [.key "comments", .index i] fields).Pairwise
      Report.Before := by
  rw [List.pairwise_flatMap]
  constructor
  · intro f member
    unfold FieldRule.violations
    split
    · exact List.pairwise_singleton _ _
    · split
      · exact List.Pairwise.nil
      · exact List.pairwise_singleton _ _
  · refine rank_lt_of_rules.imp ?_
    intro f g lt x faultOfF y faultOfG
    obtain ⟨key, e, broken, rfl⟩ := (f.mem_violations_iff _ _ _).1 faultOfF
    obtain ⟨key', e', broken', rfl⟩ := (g.mem_violations_iff _ _ _).1 faultOfG
    exact .field i key key' e e' (lt key broken.key_mem key' broken'.key_mem)

end Comment

/-! ## Reports -/

namespace Report

theorem checkComments_eq (n : Nat) (items : List Json) :
    checkComments n items =
      (items.zipIdx n).map fun e => Comment.ofJson [.key "comments", .index e.2] e.1 := by
  induction items generalizing n with
  | nil => rfl
  | cons item more ih => rw [checkComments, ih, List.zipIdx_cons, List.map_cons]

theorem ofJson_of_no_object {v : Json} (other : ∀ entries, v ≠ .obj entries) :
    ofJson v = violation [] (.record "ShellCheckResult") := by
  cases v with
  | obj entries => exact absurd rfl (other entries)
  | _ => rfl

section

variable {entries : List (String × Json)}

theorem ofJson_of_absent (absent : entries.lookup "comments" = none) :
    ofJson (.obj entries) = violation [.key "comments"] .present := by
  simp only [ofJson, Json.field, absent]
  rfl

theorem ofJson_of_no_list {value : Json} (given : entries.lookup "comments" = some value)
    (other : ∀ items, value ≠ .arr items) :
    ofJson (.obj entries) = violation [.key "comments"] .list := by
  simp only [ofJson, Json.field, given]
  cases value with
  | arr items => exact absurd rfl (other items)
  | _ => rfl

theorem ofJson_of_list {items : List Json} (given : entries.lookup "comments" = some (.arr items)) :
    ofJson (.obj entries) = (Checked.all (checkComments 0 items)).map Report.mk := by
  simp only [ofJson, Json.field, given]

end

/-- What can be found where a value should have its list of comments. -/
theorem shape_cases (v : Json) :
    (∀ entries, v ≠ .obj entries) ∨ ∃ entries, v = .obj entries ∧
      (entries.lookup "comments" = none ∨
        (∃ value, entries.lookup "comments" = some value ∧ ∀ items, value ≠ .arr items) ∨
        ∃ items, entries.lookup "comments" = some (.arr items)) := by
  cases v with
  | obj entries =>
      refine Or.inr ⟨entries, rfl, ?_⟩
      cases entries.lookup "comments" with
      | none => simp
      | some value => cases value <;> simp
  | _ => simp

theorem refused_or_list (v : Json) :
    (∃ place expected, ofJson v = violation place expected) ∨
      ∃ entries items, v = .obj entries ∧ entries.lookup "comments" = some (.arr items) := by
  rcases shape_cases v with other | ⟨entries, rfl, absent | ⟨value, given, other⟩ | ⟨items, given⟩⟩
  · exact Or.inl ⟨_, _, ofJson_of_no_object other⟩
  · exact Or.inl ⟨_, _, ofJson_of_absent absent⟩
  · exact Or.inl ⟨_, _, ofJson_of_no_list given other⟩
  · exact Or.inr ⟨entries, items, rfl, given⟩

theorem violations_map {α β : Type} (outcome : Checked α) (f : α → β) :
    Checked.violations (outcome.map f) = outcome.violations := by
  cases outcome <;> rfl

/-- The violations of a list of comments. -/
theorem violations_checkComments (items : List Json) :
    (Checked.all (checkComments 0 items)).violations =
      items.zipIdx.flatMap fun e =>
        (Comment.ofJson [.key "comments", .index e.2] e.1).violations := by
  rw [violations_all, checkComments_eq, List.flatMap_map]

/-- What is wrong with an item of the list. -/
theorem mem_violations_item_iff (i : Nat) (item : Json) (x : Violation) :
    x ∈ (Comment.ofJson [.key "comments", .index i] item).violations ↔
      ((∀ fields, item ≠ .obj fields) ∧
          x = ⟨[.key "comments", .index i], .record "ShellCheckComment"⟩) ∨
        ∃ fields f key expected, item = .obj fields ∧ f ∈ Comment.rules ∧
          f.Breaks fields key expected ∧ x = ⟨[.key "comments", .index i, .key key], expected⟩ := by
  cases item with
  | obj fields =>
      rw [Comment.violations_ofJson, List.mem_flatMap]
      simp [FieldRule.mem_violations_iff]
  | _ => simp [Comment.ofJson, violation, Checked.violations]

theorem mem_violations_ofJson_of_list {entries : List (String × Json)} {items : List Json}
    (given : entries.lookup "comments" = some (.arr items)) (x : Violation) :
    x ∈ (ofJson (.obj entries)).violations ↔ ∃ i item, items[i]? = some item ∧
      x ∈ (Comment.ofJson [.key "comments", .index i] item).violations := by
  rw [ofJson_of_list given, violations_map, violations_checkComments, List.mem_flatMap]
  constructor
  · rintro ⟨⟨item, i⟩, member, fault⟩
    exact ⟨i, item, List.mem_zipIdx_iff_getElem?.1 member, fault⟩
  · rintro ⟨i, item, at', fault⟩
    exact ⟨(item, i), List.mem_zipIdx_iff_getElem?.2 at', fault⟩

/-- The violations that are reported are the places that offend. -/
theorem mem_violations_iff (v : Json) (x : Violation) :
    x ∈ (ofJson v).violations ↔ Offends v x := by
  constructor
  · intro member
    rcases shape_cases v with
      other | ⟨entries, rfl, absent | ⟨value, given, other⟩ | ⟨items, given⟩⟩
    · rw [ofJson_of_no_object other] at member
      rw [List.mem_singleton.1 member]
      exact .root other
    · rw [ofJson_of_absent absent] at member
      rw [List.mem_singleton.1 member]
      exact .missing entries rfl absent
    · rw [ofJson_of_no_list given other] at member
      rw [List.mem_singleton.1 member]
      exact .noList entries value rfl given other
    · obtain ⟨i, item, at', fault⟩ := (mem_violations_ofJson_of_list given x).1 member
      have listed : HasItem (.obj entries) i item := ⟨entries, items, rfl, given, at'⟩
      rcases (mem_violations_item_iff i item x).1 fault with
        ⟨other, rfl⟩ | ⟨fields, f, key, expected, rfl, known, broken, rfl⟩
      · exact .item i item listed other
      · exact .field i fields f key expected listed known broken
  · intro offends
    cases offends with
    | root other =>
        rw [ofJson_of_no_object other]
        exact List.mem_singleton_self _
    | missing entries object absent =>
        rw [object, ofJson_of_absent absent]
        exact List.mem_singleton_self _
    | noList entries value object given other =>
        rw [object, ofJson_of_no_list given other]
        exact List.mem_singleton_self _
    | item i item listed other =>
        obtain ⟨entries, items, rfl, given, at'⟩ := listed
        exact (mem_violations_ofJson_of_list given _).2
          ⟨i, item, at', (mem_violations_item_iff i item _).2 (Or.inl ⟨other, rfl⟩)⟩
    | field i fields f key expected listed known broken =>
        obtain ⟨entries, items, rfl, given, at'⟩ := listed
        exact (mem_violations_ofJson_of_list given _).2 ⟨i, .obj fields, at',
          (mem_violations_item_iff i _ _).2
            (Or.inr ⟨fields, f, key, expected, rfl, known, broken, rfl⟩)⟩

theorem pairwise_item (i : Nat) (item : Json) :
    (Comment.ofJson [.key "comments", .index i] item).violations.Pairwise Before := by
  cases item with
  | obj fields =>
      rw [Comment.violations_ofJson]
      exact Comment.pairwise_violations i fields
  | _ => exact List.pairwise_singleton _ _

theorem before_of_items {i j : Nat} (lt : i < j) {item item' : Json} {x y : Violation}
    (first : x ∈ (Comment.ofJson [.key "comments", .index i] item).violations)
    (second : y ∈ (Comment.ofJson [.key "comments", .index j] item').violations) : Before x y := by
  rcases (mem_violations_item_iff i item x).1 first with
    ⟨-, rfl⟩ | ⟨_, _, key, e, -, -, -, rfl⟩ <;>
  rcases (mem_violations_item_iff j item' y).1 second with
    ⟨-, rfl⟩ | ⟨_, _, key', e', -, -, -, rfl⟩ <;>
  exact .item i j _ _ _ _ lt

/-- The violations are reported in order. -/
theorem pairwise_violations (v : Json) : (ofJson v).violations.Pairwise Before := by
  rcases refused_or_list v with ⟨place, expected, refused⟩ | ⟨entries, items, rfl, given⟩
  · rw [refused]
    exact List.pairwise_singleton _ _
  · rw [ofJson_of_list given, violations_map, violations_checkComments, List.pairwise_flatMap]
    refine ⟨fun e _ => pairwise_item e.2 e.1, (zipIdx_pairwise_lt items).imp ?_⟩
    intro e e' lt x first y second
    exact before_of_items lt first second

theorem Before.place_ne {x y : Violation} (before : Before x y) : x.place ≠ y.place := by
  intro same
  cases before with
  | item i j rest rest' e e' lt =>
      simp only [List.cons.injEq, Step.index.injEq] at same
      omega
  | field i key key' e e' lt =>
      simp only [List.cons.injEq, Step.key.injEq, true_and, and_true] at same
      rw [same] at lt
      exact Nat.lt_irrefl _ lt

theorem ofJson_isHonest (v : Json) : Checked.IsHonest (ofJson v) := by
  rcases refused_or_list v with ⟨place, expected, refused⟩ | ⟨entries, items, rfl, given⟩
  · rw [refused]
    simp [Checked.IsHonest, violation]
  · rw [ofJson_of_list given, checkComments_eq]
    apply Checked.IsHonest.map
    apply Checked.all_isHonest
    intro outcome member
    obtain ⟨e, -, rfl⟩ := List.mem_map.1 member
    exact Comment.ofJson_isHonest _ _

/-- A value is read as a report exactly if it is that report. -/
theorem ofJson_eq_ok_iff (v : Json) (r : Report) : ofJson v = .ok r ↔ r.IsIn v := by
  have list {entries : List (String × Json)} {items : List Json}
      (given : entries.lookup "comments" = some (.arr items)) :
      ofJson (.obj entries) = .ok r ↔
        List.Forall₂ (fun item c => ∃ fields, item = .obj fields ∧ Comment.IsIn c fields) items
          r.comments := by
    have mapped : ∀ outcome : Checked (List Comment),
        outcome.map Report.mk = .ok r ↔ outcome = .ok r.comments := by
      obtain ⟨comments⟩ := r
      intro outcome
      cases outcome <;> simp [Except.map]
    rw [ofJson_of_list given, mapped, Checked.all_eq_ok_iff, checkComments_eq,
      List.forall₂_map_left_iff]
    conv_rhs => rw [← List.zipIdx_map_fst 0 items, List.forall₂_map_left_iff]
    simp only [Comment.ofJson_eq_ok_iff]
  constructor
  · intro read
    rcases refused_or_list v with ⟨place, expected, refused⟩ | ⟨entries, items, rfl, given⟩
    · rw [refused] at read
      cases read
    · exact ⟨entries, items, rfl, given, (list given).1 read⟩
  · rintro ⟨entries, items, rfl, given, paired⟩
    exact (list given).2 paired

/-! ## Entries under other keys -/

theorem ofJson_itemEssence (place : List Step) (item : Json) :
    Comment.ofJson place (itemEssence item) = Comment.ofJson place item := by
  cases item with
  | obj fields =>
      have kept (key : String) (known : Comment.keys.contains key = true) :
          (fields.filter fun entry => Comment.keys.contains entry.1).lookup key =
            fields.lookup key := lookup_filter known fields
      simp only [itemEssence, Comment.ofJson, Json.field, Json.fieldOr, kept "file" (by decide),
        kept "line" (by decide), kept "endLine" (by decide), kept "end_line" (by decide),
        kept "column" (by decide), kept "endColumn" (by decide), kept "end_column" (by decide),
        kept "level" (by decide), kept "code" (by decide), kept "message" (by decide),
        kept "fix" (by decide)]
  | _ => rfl

theorem checkComments_map_itemEssence (n : Nat) (items : List Json) :
    checkComments n (items.map itemEssence) = checkComments n items := by
  rw [checkComments_eq, checkComments_eq, List.zipIdx_map, List.map_map]
  apply List.map_congr_left
  intro e _
  exact ofJson_itemEssence _ _

/-- Entries under keys that a report is not read from do not count. -/
theorem ofJson_essence (v : Json) : ofJson (essence v) = ofJson v := by
  cases v with
  | obj entries =>
      have found : ((entries.filter fun entry => entry.1 == "comments").map fun entry =>
          (entry.1, listEssence entry.2)).lookup "comments" =
            (entries.lookup "comments").map listEssence := by
        rw [lookup_map, lookup_filter (p := (· == "comments")) (by decide)]
      simp only [essence, ofJson, Json.field, found]
      cases entries.lookup "comments" with
      | none => rfl
      | some value =>
          cases value with
          | arr items => simp only [Option.map_some, listEssence, checkComments_map_itemEssence]
          | _ => rfl
  | _ => rfl

/-- A value is read as a report exactly if it is that report, and it is one exactly if no place of
it offends. If some do, each of them is reported once: by the index of its item first, then by the
order of the fields. Entries under other keys never matter. -/
theorem accepts_exactly_and_reports_every_fault (v : Json) :
    (∀ r, ofJson v = .ok r ↔ r.IsIn v) ∧
      ((∃ r, ofJson v = .ok r) ↔ ∀ x, ¬ Offends v x) ∧
      (∀ vs, ofJson v = .error vs →
        vs ≠ [] ∧ (∀ x, x ∈ vs ↔ Offends v x) ∧ (vs.map Violation.place).Nodup ∧
          vs.Pairwise Before) ∧
      ofJson (essence v) = ofJson v := by
  have accepted : (∃ r, ofJson v = .ok r) ↔ ∀ x, ¬ Offends v x := by
    simp only [← mem_violations_iff]
    constructor
    · rintro ⟨r, read⟩ x
      rw [read]
      exact List.not_mem_nil
    · intro none
      exact (ofJson_isHonest v).exists_ok (List.eq_nil_iff_forall_not_mem.2 none)
  refine ⟨ofJson_eq_ok_iff v, accepted, fun vs refused => ?_, ofJson_essence v⟩
  have reported : (ofJson v).violations = vs := by rw [refused]; rfl
  have ordered : vs.Pairwise Before := reported ▸ pairwise_violations v
  refine ⟨fun silent => ?_, fun x => ?_, ?_, ordered⟩
  · exact ofJson_isHonest v (refused.trans (congrArg Except.error silent))
  · rw [← mem_violations_iff, reported]
  · rw [List.nodup_iff_pairwise_ne, List.pairwise_map]
    exact ordered.imp Before.place_ne

/-- The first spelling of a key hides the second, and every other field is missing. -/
example :
    let fields := [("end_line", Json.int 3), ("endLine", .null), ("fix", .null), ("line", .int 1)]
    (ofJson (.obj [("comments", .arr [.obj fields, .int 1])])).violations.map Violation.place =
      (["file", "endLine", "column", "endColumn", "level", "code", "message"].map fun key =>
        [.key "comments", .index 0, .key key]) ++ [[.key "comments", .index 1]] := by
  decide

end Report

end LintBridge
