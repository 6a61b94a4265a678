import LintBridge.Proofs.Json.Layout
import Mathlib.Data.List.Nodup

/-!
# What is written of a value is read as that value

The parser takes the text of a value in as many steps as the text has characters, and stops right
behind it (`isReadBack_of_distinct`). Objects have to have distinct keys, since of two entries with
one key only the last is kept. A text as a whole reads as the value that was written, with or
without a line feed behind it (`parse_written`).
-/
set_option autoImplicit false

namespace LintBridge.Json

/-! ## Space -/

theorem skipSpace_newline (level place : Nat) (rest : List Char) :
    ∃ place', Cursor.skipSpace ⟨place, (newline level).toList ++ rest⟩ =
      Cursor.skipSpace ⟨place', rest⟩ := by
  refine ⟨place + (newline level).toList.length, ?_⟩
  have space : ∀ c ∈ (newline level).toList,
      (c == ' ' || c == '\t' || c == '\n' || c == '\r') = true := by
    intro c member
    rw [toList_newline, List.mem_cons] at member
    rcases member with rfl | member
    · decide
    · rw [List.eq_of_mem_replicate member]
      decide
  simp only [Cursor.skipSpace, List.takeWhile_append_of_pos space,
    List.dropWhile_append_of_pos space, List.length_append, Nat.add_assoc]

theorem skipSpace_of_solid {c : Char}
    (solid : (c == ' ' || c == '\t' || c == '\n' || c == '\r') = false) (place : Nat)
    (more : List Char) : Cursor.skipSpace ⟨place, c :: more⟩ = ⟨place, c :: more⟩ := by
  simp only [Cursor.skipSpace, List.takeWhile_cons, List.dropWhile_cons, solid,
    Bool.false_eq_true, if_false, List.length_nil, Nat.add_zero]

theorem skipSpace_blank (place : Nat) (rest : List Char) :
    Cursor.skipSpace ⟨place, ' ' :: rest⟩ = Cursor.skipSpace ⟨place + 1, rest⟩ := by
  have blank : (' ' == ' ' || ' ' == '\t' || ' ' == '\n' || ' ' == '\r') = true := by decide
  simp only [Cursor.skipSpace, List.takeWhile_cons, List.dropWhile_cons, blank, if_true,
    List.length_cons, Cursor.mk.injEq, and_true]
  omega

/-- There is a step for the text of a value in as many as it has characters. -/
theorem exists_step {value : Json} {level : Nat} {text : String}
    (written : write level value = .ok text) {steps : Nat} (enough : text.toList.length ≤ steps) :
    ∃ k, steps = k + 1 := by
  obtain ⟨c, more, text_eq, -⟩ := exists_start_of_write written
  rw [text_eq, List.length_cons] at enough
  exact Nat.exists_eq_add_one.2 (by omega)

/-! ## Steps of the parser -/

/-- A text that is read as a value in as many steps as it has characters, whatever stands behind it
unless that goes on with a numeral. -/
def Reads (text : List Char) (v : Json) : Prop :=
  ∀ steps place rest, text.length ≤ steps → endsNumeral rest = true →
    ∃ place', value steps ⟨place, text ++ rest⟩ = .ok (v, ⟨place', rest⟩)

theorem value_of_scalar {c : Char} (quote : c ≠ '"') (bracket : c ≠ '[') (brace : c ≠ '{')
    (steps place : Nat) (more : List Char) :
    value (steps + 1) ⟨place, c :: more⟩ = scalar ⟨place, c :: more⟩ := by
  rw [value]
  split
  · rename_i found
    exact absurd (List.cons.inj found).1 quote
  · rename_i found
    exact absurd (List.cons.inj found).1 bracket
  · rename_i found
    exact absurd (List.cons.inj found).1 brace
  · rfl

theorem items_last {steps place : Nat} {taken : List Json} {cur : Cursor} {item : Json}
    {behind rest : List Char} (read : value steps cur = .ok (item, ⟨place, behind⟩))
    {place' : Nat} (closes : Cursor.skipSpace ⟨place, behind⟩ = ⟨place', ']' :: rest⟩) :
    items (steps + 1) taken cur = .ok ((item :: taken).reverse, ⟨place' + 1, rest⟩) := by
  rw [items, read]
  simp only [closes]
  rfl

theorem items_next {steps place : Nat} {taken : List Json} {cur : Cursor} {item : Json}
    {behind rest : List Char} (read : value steps cur = .ok (item, ⟨place, behind⟩))
    {place' : Nat} (goesOn : Cursor.skipSpace ⟨place, behind⟩ = ⟨place', ',' :: rest⟩) :
    items (steps + 1) taken cur =
      items steps (item :: taken) (Cursor.skipSpace ⟨place' + 1, rest⟩) := by
  rw [items, read]
  simp only [goesOn]
  rfl

theorem value_arr {steps place place' : Nat} {inner more : List Char} {c : Char}
    (opens : Cursor.skipSpace ⟨place + 1, inner⟩ = ⟨place', c :: more⟩) (some' : c ≠ ']') :
    value (steps + 1) ⟨place, '[' :: inner⟩ =
      (items steps [] ⟨place', c :: more⟩).map fun (values, cur) => (.arr values, cur) := by
  rw [value]
  simp only [Cursor.advance, List.drop_one, List.tail_cons, opens]
  split
  · rename_i found
    exact absurd (List.cons.inj found).1 some'
  · rfl

theorem entries_last {steps place place' after : Nat} {taken : List (String × Json)}
    {text inner behind rest : List Char} {key : String} {item : Json}
    (named : string ⟨place, '"' :: text⟩ = .ok (key, ⟨place', ':' :: inner⟩))
    (read : value steps (Cursor.skipSpace ⟨place' + 1, inner⟩) = .ok (item, ⟨after, behind⟩))
    {close : Nat} (closes : Cursor.skipSpace ⟨after, behind⟩ = ⟨close, '}' :: rest⟩) :
    entries (steps + 1) taken ⟨place, '"' :: text⟩ =
      .ok (((key, item) :: taken).reverse, ⟨close + 1, rest⟩) := by
  rw [entries]
  simp only [named, skipSpace_of_solid (c := ':') (by decide), Cursor.advance, List.drop_one,
    List.tail_cons, read, closes]

theorem entries_next {steps place place' after : Nat} {taken : List (String × Json)}
    {text inner behind rest : List Char} {key : String} {item : Json}
    (named : string ⟨place, '"' :: text⟩ = .ok (key, ⟨place', ':' :: inner⟩))
    (read : value steps (Cursor.skipSpace ⟨place' + 1, inner⟩) = .ok (item, ⟨after, behind⟩))
    {next : Nat} (goesOn : Cursor.skipSpace ⟨after, behind⟩ = ⟨next, ',' :: rest⟩) :
    entries (steps + 1) taken ⟨place, '"' :: text⟩ =
      entries steps ((key, item) :: taken) (Cursor.skipSpace ⟨next + 1, rest⟩) := by
  rw [entries]
  simp only [named, skipSpace_of_solid (c := ':') (by decide), Cursor.advance, List.drop_one,
    List.tail_cons, read, goesOn]

theorem value_obj {steps place place' : Nat} {inner more : List Char} {c : Char}
    (opens : Cursor.skipSpace ⟨place + 1, inner⟩ = ⟨place', c :: more⟩) (some' : c ≠ '}') :
    value (steps + 1) ⟨place, '{' :: inner⟩ =
      (entries steps [] ⟨place', c :: more⟩).map fun (pairs, cur) => (ofEntries pairs, cur) := by
  rw [value]
  simp only [Cursor.advance, List.drop_one, List.tail_cons, opens]
  split
  · rename_i found
    exact absurd (List.cons.inj found).1 some'
  · rfl

/-! ## Values without parts -/

theorem scalar_of_digit {c : Char} (digit : c.isDigit = true) (place : Nat) (more : List Char) :
    scalar ⟨place, c :: more⟩ = numeral place false ⟨place, c :: more⟩ := by
  have other : ∀ d, d.isDigit = false → (d == c) = false := by
    intro d plain
    exact beq_eq_false_iff_ne.2 (ne_of_kind digit plain).symm
  have start : ∀ (d : Char) (word : List Char), d.isDigit = false →
      (d :: word).isPrefixOf (c :: more) = false := by
    intro d word plain
    rw [List.isPrefixOf_cons_cons, other d plain, Bool.false_and]
  have null : "null".toList.isPrefixOf (c :: more) = false := start 'n' _ (by decide)
  have true' : "true".toList.isPrefixOf (c :: more) = false := start 't' _ (by decide)
  have false' : "false".toList.isPrefixOf (c :: more) = false := start 'f' _ (by decide)
  have nan : "NaN".toList.isPrefixOf (c :: more) = false := start 'N' _ (by decide)
  have infinity : "Infinity".toList.isPrefixOf (c :: more) = false := start 'I' _ (by decide)
  have infinity' : "-Infinity".toList.isPrefixOf (c :: more) = false := start '-' _ (by decide)
  simp only [scalar, null, true', false', nan, infinity, infinity', Bool.false_eq_true, if_false]
  split
  · rename_i minus
    exact absurd (List.cons.inj minus).1 (ne_of_kind digit (by decide))
  · rfl

theorem scalar_of_minus {c : Char} (digit : c.isDigit = true) (place : Nat) (more : List Char) :
    scalar ⟨place, '-' :: c :: more⟩ = numeral place true ⟨place + 1, c :: more⟩ := by
  have other : ('I' == c) = false := beq_eq_false_iff_ne.2 (ne_of_kind digit (by decide)).symm
  have infinity : "-Infinity".toList.isPrefixOf ('-' :: c :: more) = false := by
    have letters : "-Infinity".toList = '-' :: 'I' :: "nfinity".toList := by decide
    rw [letters, List.isPrefixOf_cons_cons, List.isPrefixOf_cons_cons, other, Bool.false_and,
      Bool.and_false]
  have null : "null".toList.isPrefixOf ('-' :: c :: more) = false := rfl
  have true' : "true".toList.isPrefixOf ('-' :: c :: more) = false := rfl
  have false' : "false".toList.isPrefixOf ('-' :: c :: more) = false := rfl
  have nan : "NaN".toList.isPrefixOf ('-' :: c :: more) = false := rfl
  have infinity' : "Infinity".toList.isPrefixOf ('-' :: c :: more) = false := rfl
  simp only [scalar, null, true', false', nan, infinity, infinity', Bool.false_eq_true, if_false]
  rfl

theorem reads_int {n : Int} {text : String} (written : write 0 (.int n) = .ok text) :
    Reads text.toList (.int n) := by
  intro steps place rest enough ends
  obtain ⟨steps, rfl⟩ := exists_step written enough
  obtain ⟨short, text_eq⟩ := of_writeInt written
  have digits := all_isDigit_toDigits n.natAbs
  have some' : (Nat.toDigits 10 n.natAbs) ≠ [] := Nat.toDigits_ne_nil
  obtain ⟨c, more, first⟩ := List.exists_cons_of_ne_nil some'
  have digit := digits c (first ▸ List.mem_cons_self ..)
  by_cases negative : n < 0
  · obtain ⟨place', read⟩ := numeral_toDigits place true n.natAbs short (place + 1) ends
    have same : (if true = true then -(n.natAbs : Int) else n.natAbs) = n := by
      rw [if_pos rfl]
      omega
    rw [same] at read
    refine ⟨place', ?_⟩
    rw [text_eq, if_pos negative, List.append_assoc, List.singleton_append,
      value_of_scalar (by decide) (by decide) (by decide), ← read, first, List.cons_append,
      scalar_of_minus digit]
  · obtain ⟨place', read⟩ := numeral_toDigits place false n.natAbs short place ends
    have same : (if false = true then -(n.natAbs : Int) else n.natAbs) = n := by
      rw [if_neg Bool.false_ne_true]
      omega
    rw [same] at read
    refine ⟨place', ?_⟩
    rw [text_eq, if_neg negative, List.nil_append, ← read, first, List.cons_append,
      value_of_scalar (ne_of_kind digit (by decide)) (ne_of_kind digit (by decide))
        (ne_of_kind digit (by decide)), scalar_of_digit digit]

theorem reads_str (s : String) : Reads (writeString s).toList (.str s) := by
  intro steps place rest enough ends
  have written : write 0 (.str s) = .ok (writeString s) := rfl
  obtain ⟨steps, rfl⟩ := exists_step written enough
  have quoted := toList_writeString s
  obtain ⟨place', read⟩ := string_written s place rest
  refine ⟨place', ?_⟩
  rw [quoted, List.cons_append] at read ⊢
  rw [value, read]
  rfl

/-! ## Values with parts -/

/-- A value in which no object has two entries with one key. -/
inductive HasDistinctKeys : Json → Prop where
  | null : HasDistinctKeys .null
  | bool (b : Bool) : HasDistinctKeys (.bool b)
  | int (n : Int) : HasDistinctKeys (.int n)
  | float (x : Binary64) : HasDistinctKeys (.float x)
  | str (s : String) : HasDistinctKeys (.str s)
  | arr (items : List Json) (each : ∀ item ∈ items, HasDistinctKeys item) :
      HasDistinctKeys (.arr items)
  | obj (entries : List (String × Json)) (distinct : (entries.map Prod.fst).Nodup)
      (each : ∀ entry ∈ entries, HasDistinctKeys entry.2) : HasDistinctKeys (.obj entries)

/-- A value whose text, whatever the level of its first line is, is read as the value. -/
def IsReadBack (v : Json) : Prop :=
  ∀ level text, write level v = .ok text → Reads text.toList v

theorem put_of_fresh {entries : List (String × Json)} {key : String}
    (fresh : key ∉ entries.map Prod.fst) (value : Json) :
    put entries key value = entries ++ [(key, value)] := by
  induction entries with
  | nil => rfl
  | cons entry more ih =>
      rw [List.map_cons, List.mem_cons, not_or] at fresh
      rw [put, if_neg (Ne.symm fresh.1), ih fresh.2, List.cons_append]

theorem ofEntries_of_nodup {entries : List (String × Json)}
    (distinct : (entries.map Prod.fst).Nodup) : ofEntries entries = .obj entries := by
  have kept : ∀ (more front : List (String × Json)), ((front ++ more).map Prod.fst).Nodup →
      more.foldl (fun kept entry => put kept entry.1 entry.2) front = front ++ more := by
    intro more
    induction more with
    | nil =>
        intro front _
        rw [List.foldl_nil, List.append_nil]
    | cons entry more ih =>
        intro front distinct
        have fresh : entry.1 ∉ front.map Prod.fst := by
          rw [List.map_append, List.nodup_append] at distinct
          intro member
          exact distinct.2.2 _ member _ (List.mem_cons_self ..) rfl
        have split : front ++ entry :: more = (front ++ [entry]) ++ more := by simp
        rw [List.foldl_cons, put_of_fresh fresh, split]
        exact ih (front ++ [entry]) (split ▸ distinct)
  rw [ofEntries, kept entries [] distinct, List.nil_append]

/-- What stands behind an item or entry: a comma if there are more, these, and the last line with
the mark that closes all. -/
def behindItem {α : Type} (more : List α) (others : String) (closing : Nat) (close : Char)
    (rest : List Char) : List Char :=
  comma more ++ (others.toList ++ ((newline closing).toList ++ close :: rest))

theorem endsNumeral_behindItem {α : Type} {more : List α} {others : String}
    (without : more = [] → others = "") (closing : Nat) (close : Char) (rest : List Char) :
    endsNumeral (behindItem more others closing close rest) = true := by
  cases more with
  | nil =>
      rw [behindItem, without rfl, toList_newline]
      rfl
  | cons _ _ => rfl

theorem skipSpace_behindItem_nil {α : Type} {others : String}
    (without : ([] : List α) = [] → others = "") (close : Char)
    (solid : (close == ' ' || close == '\t' || close == '\n' || close == '\r') = false)
    (closing place : Nat) (rest : List Char) :
    ∃ place', Cursor.skipSpace ⟨place, behindItem ([] : List α) others closing close rest⟩ =
      ⟨place', close :: rest⟩ := by
  obtain ⟨place', closes⟩ := skipSpace_newline closing place (close :: rest)
  rw [skipSpace_of_solid solid] at closes
  refine ⟨place', ?_⟩
  rw [behindItem, without rfl]
  exact closes

theorem skipSpace_behindItem_cons {α : Type} (next : α) (more : List α) (others : String)
    (closing : Nat) (close : Char) (place : Nat) (rest : List Char) :
    Cursor.skipSpace ⟨place, behindItem (next :: more) others closing close rest⟩ =
      ⟨place, ',' :: (others.toList ++ ((newline closing).toList ++ close :: rest))⟩ :=
  skipSpace_of_solid (by decide) _ _

/-- The first of some lines of an array is read up to what stands behind the item in it. -/
theorem item_of_write {item : Json} {more : List Json} (readBack : IsReadBack item) {level : Nat}
    {lines : String} (written : writeItems level (item :: more) = .ok lines) :
    ∃ others, writeItems level more = .ok others ∧
      others.toList.length < lines.toList.length ∧
      ∀ place closing rest, ∃ place₁ c behind,
        Cursor.skipSpace ⟨place, lines.toList ++ ((newline closing).toList ++ ']' :: rest)⟩ =
          ⟨place₁, c :: behind⟩ ∧ startsValue c = true ∧
        ∀ steps, lines.toList.length ≤ steps + 1 → ∃ place₂,
          value steps ⟨place₁, c :: behind⟩ =
            .ok (item, ⟨place₂, behindItem more others closing ']' rest⟩) := by
  obtain ⟨first, others, written, written', lines_eq⟩ := of_writeItems written
  obtain ⟨c, behind, first_eq, starts⟩ := exists_start_of_write written
  have without : more = [] → others = "" := by
    rintro rfl
    exact (Except.ok.inj written').symm
  have length_eq := congrArg List.length lines_eq
  simp only [toList_newline, List.length_append, List.length_cons] at length_eq
  refine ⟨others, written', by omega, ?_⟩
  intro place closing rest
  have whole : lines.toList ++ ((newline closing).toList ++ ']' :: rest) =
      (newline level).toList ++ (first.toList ++ behindItem more others closing ']' rest) := by
    rw [lines_eq, behindItem]
    simp only [List.append_assoc]
  have ends := endsNumeral_behindItem without closing ']' rest
  generalize behindItem more others closing ']' rest = tail at whole ends ⊢
  obtain ⟨place₁, opens⟩ := skipSpace_newline level place (first.toList ++ tail)
  have solid := skipSpace_of_solid (solid_of_startsValue starts) place₁ (behind ++ tail)
  rw [← List.cons_append, ← first_eq] at solid
  refine ⟨place₁, c, behind ++ tail, ?_, starts, ?_⟩
  · rw [whole, opens, solid, first_eq, List.cons_append]
  · intro steps enough
    obtain ⟨place₂, read⟩ := readBack level first written steps place₁ tail (by omega) ends
    rw [first_eq, List.cons_append] at read
    exact ⟨place₂, read⟩

/-- The lines of an array are read item by item, from the first character of the first one to the
bracket. -/
theorem items_of_write {item : Json} {more : List Json}
    (each : ∀ v ∈ item :: more, IsReadBack v) {level : Nat} {lines : String}
    (written : writeItems level (item :: more) = .ok lines) (steps : Nat)
    (enough : lines.toList.length ≤ steps) (taken : List Json) (place closing : Nat)
    (rest : List Char) :
    ∃ place' c behind,
      Cursor.skipSpace ⟨place, lines.toList ++ ((newline closing).toList ++ ']' :: rest)⟩ =
        ⟨place', c :: behind⟩ ∧ startsValue c = true ∧
      ∃ place'', items steps taken ⟨place', c :: behind⟩ =
        .ok (taken.reverse ++ item :: more, ⟨place'', rest⟩) := by
  obtain ⟨others, written', fewer, opens⟩ :=
    item_of_write (each item (List.mem_cons_self ..)) written
  obtain ⟨steps, rfl⟩ : ∃ k, steps = k + 1 := Nat.exists_eq_add_one.2 (by omega)
  obtain ⟨place₁, c, behind, opens, starts, read⟩ := opens place closing rest
  obtain ⟨place₂, read⟩ := read steps enough
  refine ⟨place₁, c, behind, opens, starts, ?_⟩
  cases more with
  | nil =>
      have without : ([] : List Json) = [] → others = "" := fun _ => (Except.ok.inj written').symm
      obtain ⟨place₃, closes⟩ :=
        skipSpace_behindItem_nil without ']' (by decide) closing place₂ rest
      refine ⟨place₃ + 1, ?_⟩
      rw [items_last read closes, List.reverse_cons]
  | cons next more =>
      have each' : ∀ v ∈ next :: more, IsReadBack v :=
        fun v member => each v (List.mem_cons_of_mem _ member)
      obtain ⟨place₃, d, behind', opens', -, place₄, others_read⟩ :=
        items_of_write each' written' steps (by omega) (item :: taken) (place₂ + 1) closing rest
      refine ⟨place₄, ?_⟩
      rw [items_next read (skipSpace_behindItem_cons ..), opens', others_read, List.reverse_cons,
        List.append_assoc, List.singleton_append]

theorem isReadBack_arr {items : List Json} (each : ∀ v ∈ items, IsReadBack v) :
    IsReadBack (.arr items) := by
  intro level text written steps place rest enough ends
  obtain ⟨steps, rfl⟩ := exists_step written enough
  cases items with
  | nil =>
      obtain rfl := Except.ok.inj written
      exact ⟨place + 2, rfl⟩
  | cons item more =>
      obtain ⟨lines, inner, text_eq⟩ := of_write_arr written
      rw [text_eq, List.length_cons, List.length_append] at enough
      obtain ⟨place', c, behind, opens, starts, place'', read⟩ :=
        items_of_write each inner steps (by omega) [] (place + 1) level rest
      refine ⟨place'', ?_⟩
      rw [text_eq]
      simp only [List.cons_append, List.append_assoc, List.nil_append]
      rw [value_arr opens (ne_of_kind starts (by decide)), read]
      rfl

/-- The first of some lines of an object is read up to what stands behind the entry in it. -/
theorem entry_of_write {key : String} {item : Json} {more : List (String × Json)}
    (readBack : IsReadBack item) {level : Nat} {lines : String}
    (written : writeEntries level ((key, item) :: more) = .ok lines) :
    ∃ others, writeEntries level more = .ok others ∧
      others.toList.length < lines.toList.length ∧
      ∀ place closing rest, ∃ place₁ name place₂ inner,
        Cursor.skipSpace ⟨place, lines.toList ++ ((newline closing).toList ++ '}' :: rest)⟩ =
          ⟨place₁, '"' :: name⟩ ∧
        string ⟨place₁, '"' :: name⟩ = .ok (key, ⟨place₂, ':' :: inner⟩) ∧
        ∀ steps, lines.toList.length ≤ steps + 1 → ∃ place₃,
          value steps (Cursor.skipSpace ⟨place₂ + 1, inner⟩) =
            .ok (item, ⟨place₃, behindItem more others closing '}' rest⟩) := by
  obtain ⟨first, others, written, written', lines_eq⟩ := of_writeEntries written
  obtain ⟨c, behind, first_eq, starts⟩ := exists_start_of_write written
  have without : more = [] → others = "" := by
    rintro rfl
    exact (Except.ok.inj written').symm
  have length_eq := congrArg List.length lines_eq
  simp only [toList_newline, List.length_append, List.length_cons] at length_eq
  refine ⟨others, written', by omega, ?_⟩
  intro place closing rest
  have quoted := toList_writeString key
  generalize key.toList.flatMap writeChar ++ ['"'] = name at quoted
  have whole : lines.toList ++ ((newline closing).toList ++ '}' :: rest) =
      (newline level).toList ++ ('"' :: (name ++ ':' :: ' ' ::
        (first.toList ++ behindItem more others closing '}' rest))) := by
    rw [lines_eq, quoted, behindItem]
    simp only [List.append_assoc, List.cons_append]
  have ends := endsNumeral_behindItem without closing '}' rest
  generalize behindItem more others closing '}' rest = tail at whole ends ⊢
  obtain ⟨place₁, opens⟩ :=
    skipSpace_newline level place ('"' :: (name ++ ':' :: ' ' :: (first.toList ++ tail)))
  rw [skipSpace_of_solid (by decide)] at opens
  obtain ⟨place₂, named⟩ := string_written key place₁ (':' :: ' ' :: (first.toList ++ tail))
  rw [quoted, List.cons_append] at named
  refine ⟨place₁, name ++ ':' :: ' ' :: (first.toList ++ tail), place₂,
    ' ' :: (first.toList ++ tail), whole ▸ opens, named, ?_⟩
  intro steps enough
  have solid := skipSpace_of_solid (solid_of_startsValue starts) (place₂ + 1 + 1) (behind ++ tail)
  rw [← List.cons_append, ← first_eq] at solid
  rw [skipSpace_blank, solid]
  exact readBack level first written steps (place₂ + 1 + 1) tail (by omega) ends

/-- The lines of an object are read entry by entry, from the first key to the brace. -/
theorem entries_of_write {entry : String × Json} {more : List (String × Json)}
    (each : ∀ e ∈ entry :: more, IsReadBack e.2) {level : Nat} {lines : String}
    (written : writeEntries level (entry :: more) = .ok lines) (steps : Nat)
    (enough : lines.toList.length ≤ steps) (taken : List (String × Json)) (place closing : Nat)
    (rest : List Char) :
    ∃ place' name,
      Cursor.skipSpace ⟨place, lines.toList ++ ((newline closing).toList ++ '}' :: rest)⟩ =
        ⟨place', '"' :: name⟩ ∧
      ∃ place'', entries steps taken ⟨place', '"' :: name⟩ =
        .ok (taken.reverse ++ entry :: more, ⟨place'', rest⟩) := by
  obtain ⟨others, written', fewer, opens⟩ :=
    entry_of_write (each entry (List.mem_cons_self ..)) written
  obtain ⟨steps, rfl⟩ : ∃ k, steps = k + 1 := Nat.exists_eq_add_one.2 (by omega)
  obtain ⟨place₁, name, place₂, inner, opens, named, read⟩ := opens place closing rest
  obtain ⟨place₃, read⟩ := read steps enough
  refine ⟨place₁, name, opens, ?_⟩
  cases more with
  | nil =>
      have without : ([] : List (String × Json)) = [] → others = "" :=
        fun _ => (Except.ok.inj written').symm
      obtain ⟨place₄, closes⟩ :=
        skipSpace_behindItem_nil without '}' (by decide) closing place₃ rest
      refine ⟨place₄ + 1, ?_⟩
      rw [entries_last named read closes, List.reverse_cons]
  | cons next more =>
      have each' : ∀ e ∈ next :: more, IsReadBack e.2 :=
        fun e member => each e (List.mem_cons_of_mem _ member)
      obtain ⟨place₄, name', opens', place₅, others_read⟩ :=
        entries_of_write each' written' steps (by omega) (entry :: taken) (place₃ + 1) closing rest
      refine ⟨place₅, ?_⟩
      rw [entries_next named read (skipSpace_behindItem_cons ..), opens', others_read,
        List.reverse_cons, List.append_assoc, List.singleton_append]

theorem isReadBack_obj {entries : List (String × Json)} (distinct : (entries.map Prod.fst).Nodup)
    (each : ∀ e ∈ entries, IsReadBack e.2) : IsReadBack (.obj entries) := by
  intro level text written steps place rest enough ends
  obtain ⟨steps, rfl⟩ := exists_step written enough
  cases entries with
  | nil =>
      obtain rfl := Except.ok.inj written
      exact ⟨place + 2, rfl⟩
  | cons entry more =>
      obtain ⟨lines, inner, text_eq⟩ := of_write_obj written
      rw [text_eq, List.length_cons, List.length_append] at enough
      obtain ⟨place', name, opens, place'', read⟩ :=
        entries_of_write each inner steps (by omega) [] (place + 1) level rest
      refine ⟨place'', ?_⟩
      rw [text_eq]
      simp only [List.cons_append, List.append_assoc, List.nil_append]
      rw [value_obj opens (by decide), read]
      simp only [Except.map, List.reverse_nil, List.nil_append, ofEntries_of_nodup distinct]

/-- A value is read back from its text if no object in it has two entries with one key. -/
theorem isReadBack_of_distinct {v : Json} (distinct : HasDistinctKeys v) : IsReadBack v := by
  induction distinct with
  | null =>
      intro level text written steps place rest enough _
      obtain ⟨steps, rfl⟩ := exists_step written enough
      obtain rfl := Except.ok.inj written
      exact ⟨place + 4, rfl⟩
  | bool b =>
      intro level text written steps place rest enough _
      obtain ⟨steps, rfl⟩ := exists_step written enough
      obtain rfl := Except.ok.inj written
      cases b with
      | true => exact ⟨place + 4, rfl⟩
      | false => exact ⟨place + 5, rfl⟩
  | int n =>
      intro level text written
      exact reads_int written
  | float x =>
      intro level text written
      cases written
  | str s =>
      intro level text written
      obtain rfl := Except.ok.inj written
      exact reads_str s
  | arr items each ih => exact isReadBack_arr ih
  | obj entries distinct each ih => exact isReadBack_obj distinct ih

/-! ## Texts -/

theorem startsValue_not_byteOrderMark {c : Char} (starts : startsValue c = true) :
    (some c == some (Char.ofNat 0xFEFF)) = false := by
  rw [beq_eq_false_iff_ne]
  intro same
  exact ne_of_kind starts (d := Char.ofNat 0xFEFF) (by decide) (Option.some.inj same)

/-- What was written of a value reads as the value, with or without a line feed behind it. -/
theorem parse_written {v : Json} (distinct : HasDistinctKeys v) {text : String}
    (written : render v = .ok text) {behind : String} (plain : behind = "" ∨ behind = "\n") :
    parse (text ++ behind) = .ok v := by
  obtain ⟨c, more, text_eq, starts⟩ := exists_start_of_write written
  have ends : endsNumeral behind.toList = true := by
    rcases plain with rfl | rfl <;> decide
  have nothing : ∀ place, (Cursor.skipSpace ⟨place, behind.toList⟩).rest = [] := by
    intro place
    rcases plain with rfl | rfl
    · rfl
    · rfl
  obtain ⟨place, read⟩ := isReadBack_of_distinct distinct 0 text written
    ((text ++ behind).toList.length + 1) 0 behind.toList
    (by rw [String.toList_append, List.length_append]; omega) ends
  have parsed : parseText (text ++ behind).toList = .ok v := by
    rw [String.toList_append] at read ⊢
    rw [parseText, text_eq, List.cons_append, List.head?_cons,
      startsValue_not_byteOrderMark starts, skipSpace_of_solid (solid_of_startsValue starts)]
    rw [text_eq, List.cons_append] at read
    simp only [read, nothing, Bool.false_eq_true, if_false, List.isEmpty_nil, if_true]
  rw [parse, parsed]

end LintBridge.Json
