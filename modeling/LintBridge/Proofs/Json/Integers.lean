import LintBridge.Json.Parser
import Mathlib.Data.List.TakeWhile

/-!
# Integers that were read

No integer of a value that was read from text has more digits than an integer may be written with
(`hasShortIntegers_of_parse`). The value is built step by step as the parser goes on, and each part
of it comes from a numeral that passed the limit.
-/
set_option autoImplicit false

namespace LintBridge.Json

/-- A value all integers in which can be written. -/
inductive HasShortIntegers : Json → Prop where
  | null : HasShortIntegers .null
  | bool (b : Bool) : HasShortIntegers (.bool b)
  | int (n : Int) (short : isWritable n = true) : HasShortIntegers (.int n)
  | float (x : Binary64) : HasShortIntegers (.float x)
  | str (s : String) : HasShortIntegers (.str s)
  | arr (items : List Json) (each : ∀ item ∈ items, HasShortIntegers item) :
      HasShortIntegers (.arr items)
  | obj (entries : List (String × Json)) (each : ∀ entry ∈ entries, HasShortIntegers entry.2) :
      HasShortIntegers (.obj entries)

namespace HasShortIntegers

theorem isWritable {n : Int} : HasShortIntegers (.int n) → isWritable n = true
  | .int _ short => short

theorem of_mem {items : List Json} {item : Json} (member : item ∈ items) :
    HasShortIntegers (.arr items) → HasShortIntegers item
  | .arr _ each => each item member

theorem of_lookup {entries : List (String × Json)} {key : String} {v : Json}
    (found : entries.lookup key = some v) : HasShortIntegers (.obj entries) → HasShortIntegers v
  | .obj _ each => by
      obtain ⟨front, behind, rfl, -⟩ := List.lookup_eq_some_iff.1 found
      exact each (key, v) (List.mem_append_right _ (List.mem_cons_self ..))

end HasShortIntegers

/-! ## Numerals -/

theorem tenTo_succ (n : Nat) : tenTo (n + 1) = 10 * tenTo n := Nat.mul_comm _ _

theorem foldl_digits_lt {digits : List Char} (all : ∀ c ∈ digits, c.isDigit = true) (n : Nat) :
    digits.foldl (fun n c => n * 10 + (c.toNat - 48)) n < (n + 1) * tenTo digits.length := by
  induction digits generalizing n with
  | nil => exact Nat.lt_of_lt_of_eq (Nat.lt_succ_self n) (Nat.mul_one _).symm
  | cons c more ih =>
      rw [List.forall_mem_cons] at all
      have digit : c.toNat - 48 < 10 := by
        have top : c.toNat ≤ 57 := (Char.isDigit_iff_toNat.1 all.1).2
        omega
      calc (c :: more).foldl (fun n c => n * 10 + (c.toNat - 48)) n
          < (n * 10 + (c.toNat - 48) + 1) * tenTo more.length := ih all.2 _
        _ ≤ ((n + 1) * 10) * tenTo more.length := Nat.mul_le_mul_right _ (by omega)
        _ = (n + 1) * tenTo (c :: more).length := by
          rw [List.length_cons, tenTo_succ, Nat.mul_assoc]

theorem digitsValue_lt {digits : List Char} (all : ∀ c ∈ digits, c.isDigit = true) :
    Binary64.digitsValue digits < tenTo digits.length := by
  have bound := foldl_digits_lt all 0
  rw [Nat.zero_add, Nat.one_mul] at bound
  exact bound

theorem isDigit_of_mem_wholePart {rest : List Char} {c : Char} (member : c ∈ wholePart rest) :
    c.isDigit = true := by
  unfold wholePart at member
  split at member
  · obtain rfl := List.mem_singleton.1 member
    rfl
  · exact List.mem_takeWhile_imp member

/-- The integer that digits stand for can be written if there are few enough of them. -/
theorem isWritable_of_digits {digits : List Char} (all : ∀ c ∈ digits, c.isDigit = true)
    (short : digits.length ≤ maxIntegerDigits) (negative : Bool) :
    isWritable (if negative then -(Binary64.digitsValue digits : Int)
      else Binary64.digitsValue digits) = true := by
  have limit {m n : Nat} (le : m ≤ n) : tenTo m ≤ tenTo n := Nat.pow_le_pow_right (by decide) le
  have small := Nat.lt_of_lt_of_le (digitsValue_lt all) (limit short)
  rw [isWritable, decide_eq_true_iff]
  cases negative <;> simpa using small

theorem hasShortIntegers_of_numeral {start : Nat} {negative : Bool} {cur cur' : Cursor} {v : Json}
    (read : numeral start negative cur = .ok (v, cur')) : HasShortIntegers v := by
  simp only [numeral] at read
  split at read
  · cases read
  · split at read
    · split at read
      · cases read
      · rename_i short
        cases read
        exact .int _ (isWritable_of_digits (fun c => isDigit_of_mem_wholePart)
          (Nat.le_of_not_lt short) negative)
    · cases read
      exact .float _

theorem hasShortIntegers_of_scalar {cur cur' : Cursor} {v : Json}
    (read : scalar cur = .ok (v, cur')) : HasShortIntegers v := by
  unfold scalar at read
  -- Six words, and then a numeral with or without a sign.
  iterate 6
    split at read
    · cases read
      constructor
  split at read <;> exact hasShortIntegers_of_numeral read

/-! ## Objects -/

theorem hasShortIntegers_put {entries : List (String × Json)} {key : String} {v : Json}
    (each : ∀ entry ∈ entries, entry.2.HasShortIntegers) (short : v.HasShortIntegers) :
    ∀ entry ∈ put entries key v, entry.2.HasShortIntegers := by
  induction entries with
  | nil =>
      rw [put, List.forall_mem_singleton]
      exact short
  | cons first more ih =>
      rw [List.forall_mem_cons] at each
      rw [put]
      split
      · exact List.forall_mem_cons.2 ⟨short, each.2⟩
      · exact List.forall_mem_cons.2 ⟨each.1, ih each.2⟩

theorem hasShortIntegers_ofEntries {entries : List (String × Json)}
    (each : ∀ entry ∈ entries, entry.2.HasShortIntegers) :
    HasShortIntegers (ofEntries entries) := by
  have kept : ∀ (entries taken : List (String × Json)),
      (∀ entry ∈ entries, entry.2.HasShortIntegers) →
        (∀ entry ∈ taken, entry.2.HasShortIntegers) →
          ∀ entry ∈ entries.foldl (fun kept entry => put kept entry.1 entry.2) taken,
            entry.2.HasShortIntegers := by
    intro entries
    induction entries with
    | nil => exact fun taken _ each => each
    | cons first more ih =>
        intro taken each each'
        rw [List.forall_mem_cons] at each
        exact ih _ each.2 (hasShortIntegers_put each' each.1)
  exact .obj _ (kept entries [] each (List.forall_mem_nil _))

/-! ## Values -/

/-- What the parser has read so far, and what it reads next, has short integers. -/
structure ReadsShort (steps : Nat) : Prop where
  value : ∀ cur v cur', value steps cur = .ok (v, cur') → v.HasShortIntegers
  items : ∀ taken cur vs cur', (∀ v ∈ taken, v.HasShortIntegers) →
    items steps taken cur = .ok (vs, cur') → ∀ v ∈ vs, v.HasShortIntegers
  entries : ∀ taken cur pairs cur', (∀ entry ∈ taken, entry.2.HasShortIntegers) →
    entries steps taken cur = .ok (pairs, cur') → ∀ entry ∈ pairs, entry.2.HasShortIntegers

theorem map_eq_ok {ε α β : Type} {x : Except ε α} {f : α → β} {b : β} (mapped : x.map f = .ok b) :
    ∃ a, x = .ok a ∧ f a = b := by
  cases x with
  | error e => cases mapped
  | ok a => exact ⟨a, rfl, Except.ok.inj mapped⟩

theorem ReadsShort.value_succ {steps : Nat} (reads : ReadsShort steps) (cur : Cursor) (v : Json)
    (cur' : Cursor) (read : Json.value (steps + 1) cur = .ok (v, cur')) : v.HasShortIntegers := by
  rw [Json.value] at read
  split at read
  · obtain ⟨⟨s, behind⟩, -, same⟩ := map_eq_ok read
    cases same
    exact .str s
  · dsimp only at read
    split at read
    · cases read
      exact .arr _ (List.forall_mem_nil _)
    · obtain ⟨⟨vs, behind⟩, items, same⟩ := map_eq_ok read
      cases same
      exact .arr vs (reads.items [] _ vs behind (List.forall_mem_nil _) items)
  · dsimp only at read
    split at read
    · cases read
      exact .obj _ (List.forall_mem_nil _)
    · obtain ⟨⟨pairs, behind⟩, entries, same⟩ := map_eq_ok read
      cases same
      exact hasShortIntegers_ofEntries
        (reads.entries [] _ pairs behind (List.forall_mem_nil _) entries)
  · exact hasShortIntegers_of_scalar read

theorem ReadsShort.items_succ {steps : Nat} (reads : ReadsShort steps) (taken : List Json)
    (cur : Cursor) (vs : List Json) (cur' : Cursor) (each : ∀ v ∈ taken, v.HasShortIntegers)
    (read : Json.items (steps + 1) taken cur = .ok (vs, cur')) : ∀ v ∈ vs, v.HasShortIntegers := by
  rw [Json.items] at read
  split at read
  · cases read
  · rename_i item behind first
    have each' := List.forall_mem_cons.2 ⟨reads.value _ item behind first, each⟩
    dsimp only at read
    split at read
    · cases read
      exact fun v member => each' v (List.mem_reverse.1 member)
    · exact reads.items _ _ vs cur' each' read
    · cases read

theorem ReadsShort.entries_succ {steps : Nat} (reads : ReadsShort steps)
    (taken : List (String × Json)) (cur : Cursor) (pairs : List (String × Json)) (cur' : Cursor)
    (each : ∀ entry ∈ taken, entry.2.HasShortIntegers)
    (read : Json.entries (steps + 1) taken cur = .ok (pairs, cur')) :
    ∀ entry ∈ pairs, entry.2.HasShortIntegers := by
  rw [Json.entries] at read
  split at read
  · split at read
    · cases read
    · rename_i key behind name
      dsimp only at read
      split at read
      · split at read
        · cases read
        · rename_i item behind' first
          have each' : ∀ entry ∈ (key, item) :: taken, entry.2.HasShortIntegers :=
            List.forall_mem_cons.2 ⟨reads.value _ item behind' first, each⟩
          split at read
          · cases read
            exact fun v member => each' v (List.mem_reverse.1 member)
          · exact reads.entries _ _ pairs cur' each' read
          · cases read
      · cases read
  · cases read

theorem readsShort (steps : Nat) : ReadsShort steps := by
  induction steps with
  | zero =>
      refine ⟨fun cur v cur' read => ?_, fun taken cur vs cur' _ read => ?_,
        fun taken cur pairs cur' _ read => ?_⟩
      · rw [Json.value] at read
        cases read
      · rw [Json.items] at read
        cases read
      · rw [Json.entries] at read
        cases read
  | succ steps ih => exact ⟨ih.value_succ, ih.items_succ, ih.entries_succ⟩

theorem hasShortIntegers_of_parse {text : String} {v : Json} (parsed : parse text = .ok v) :
    v.HasShortIntegers := by
  unfold parse at parsed
  split at parsed
  · rename_i result read
    cases parsed
    unfold parseText at read
    split at read
    · cases read
    · split at read
      · cases read
      · rename_i value cur first
        dsimp only at read
        split at read
        · cases read
          exact (readsShort _).value _ _ cur first
        · cases read
  · cases parsed

end LintBridge.Json
