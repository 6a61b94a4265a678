import LintBridge.Proofs.Json.Tokens

/-!
# How values are laid out

The text of a value is taken apart by the constructor of the value: the marks around its items or
entries, each of them on a line of its own, and the commas between them (`of_writeItems`,
`of_writeEntries`). It is in printable characters of ASCII and line feeds (`isWritten_of_write`),
and its first character tells it from white space and from the marks that close
(`exists_start_of_write`).
-/
set_option autoImplicit false

namespace LintBridge.Json

/-! ## Parts -/

theorem bind_eq_ok_iff {ε α β : Type} {x : Except ε α} {f : α → Except ε β} {b : β} :
    (x >>= f) = .ok b ↔ ∃ a, x = .ok a ∧ f a = .ok b := by
  cases x <;> simp [bind, Except.bind]

theorem of_write_arr {level : Nat} {item : Json} {more : List Json} {text : String}
    (written : write level (.arr (item :: more)) = .ok text) :
    ∃ lines, writeItems (level + 1) (item :: more) = .ok lines ∧
      text.toList = '[' :: (lines.toList ++ ((newline level).toList ++ [']'])) := by
  rw [write] at written
  obtain ⟨lines, inner, whole⟩ := bind_eq_ok_iff.1 written
  refine ⟨lines, inner, ?_⟩
  rw [← Except.ok.inj whole]
  simp

theorem of_write_obj {level : Nat} {entry : String × Json} {more : List (String × Json)}
    {text : String} (written : write level (.obj (entry :: more)) = .ok text) :
    ∃ lines, writeEntries (level + 1) (entry :: more) = .ok lines ∧
      text.toList = '{' :: (lines.toList ++ ((newline level).toList ++ ['}'])) := by
  rw [write] at written
  obtain ⟨lines, inner, whole⟩ := bind_eq_ok_iff.1 written
  refine ⟨lines, inner, ?_⟩
  rw [← Except.ok.inj whole]
  simp

/-- The comma between an item and others behind it. -/
def comma {α : Type} (more : List α) : List Char := if more.isEmpty then [] else [',']

theorem of_writeItems {level : Nat} {item : Json} {more : List Json} {lines : String}
    (written : writeItems level (item :: more) = .ok lines) :
    ∃ first others, write level item = .ok first ∧ writeItems level more = .ok others ∧
      lines.toList = (newline level).toList ++ (first.toList ++ (comma more ++ others.toList)) := by
  rw [writeItems] at written
  obtain ⟨first, written, rest⟩ := bind_eq_ok_iff.1 written
  obtain ⟨others, written', whole⟩ := bind_eq_ok_iff.1 rest
  refine ⟨first, others, written, written', ?_⟩
  rw [← Except.ok.inj whole]
  cases more <;> simp [comma]

theorem of_writeEntries {level : Nat} {key : String} {item : Json} {more : List (String × Json)}
    {lines : String} (written : writeEntries level ((key, item) :: more) = .ok lines) :
    ∃ first others, write level item = .ok first ∧ writeEntries level more = .ok others ∧
      lines.toList = (newline level).toList ++ ((writeString key).toList ++
        (':' :: ' ' :: (first.toList ++ (comma more ++ others.toList)))) := by
  rw [writeEntries] at written
  obtain ⟨first, written, rest⟩ := bind_eq_ok_iff.1 written
  obtain ⟨others, written', whole⟩ := bind_eq_ok_iff.1 rest
  refine ⟨first, others, written, written', ?_⟩
  rw [← Except.ok.inj whole]
  cases more <;> simp [comma]

theorem length_toDigits_le {n k : Nat} (positive : 0 < k) (small : n < tenTo k) :
    (Nat.toDigits 10 n).length ≤ k :=
  (Nat.length_toDigits_le_iff (by decide) positive).2 small

/-- The text of an integer: its digits, behind a minus sign if it is below zero. -/
theorem toList_toString (n : Int) :
    (toString n).toList = (if n < 0 then ['-'] else []) ++ Nat.toDigits 10 n.natAbs := by
  rw [Int.toString_eq_repr, Int.repr_eq_if]
  by_cases negative : n < 0
  · have same : (-n).toNat = n.natAbs := by omega
    have minus : "-".toList = ['-'] := by decide
    rw [if_neg (Int.not_le.2 negative), if_pos negative, String.toList_append, Nat.toList_repr,
      same, minus]
  · have same : n.toNat = n.natAbs := by omega
    rw [if_pos (Int.not_lt.1 negative), if_neg negative, Nat.toList_repr, same, List.nil_append]

theorem of_writeInt {n : Int} {text : String} (written : writeInt n = .ok text) :
    (Nat.toDigits 10 n.natAbs).length ≤ maxIntegerDigits ∧
      text.toList = (if n < 0 then ['-'] else []) ++ Nat.toDigits 10 n.natAbs := by
  unfold writeInt at written
  split at written
  · rename_i short
    refine ⟨length_toDigits_le (by decide) (of_decide_eq_true short), ?_⟩
    rw [← Except.ok.inj written, toList_toString]
  · cases written

/-! ## Characters -/

/-- A character that values are written in: a printable one of ASCII, or a line feed. -/
def isWritten (c : Char) : Bool := (0x20 ≤ c.toNat && c.toNat < 0x7F) || c == '\n'

theorem isWritten_of_isDigit {c : Char} (digit : c.isDigit = true) : isWritten c = true := by
  simp only [Char.isDigit, Bool.and_eq_true, decide_eq_true_eq, UInt32.le_iff_toNat_le] at digit
  simp only [isWritten, Bool.or_eq_true, Bool.and_eq_true, decide_eq_true_eq, Char.toNat]
  have low : '0'.val.toNat = 48 := rfl
  have high : '9'.val.toNat = 57 := rfl
  omega

theorem toList_newline (level : Nat) :
    (newline level).toList = '\n' :: List.replicate (2 * level) ' ' := by
  simp [newline]

theorem isWritten_of_mem_newline {level : Nat} {c : Char} (member : c ∈ (newline level).toList) :
    isWritten c = true := by
  rw [toList_newline, List.mem_cons] at member
  rcases member with rfl | member
  · decide
  · rw [List.eq_of_mem_replicate member]
    decide

theorem isWritten_of_mem_hexDigits {width n : Nat} {c : Char}
    (member : c ∈ Text.hexDigits width n) : isWritten c = true := by
  induction width generalizing n with
  | zero => cases member
  | succ width ih =>
      rw [Text.hexDigits, List.mem_append, List.mem_singleton] at member
      rcases member with member | rfl
      · exact ih member
      · have all : ∀ k : Fin 16, isWritten (Text.hexDigit k) = true := by decide
        exact all ⟨n % 16, Nat.mod_lt n (by decide)⟩

theorem isWritten_of_mem_unitEscape {unit : Nat} {c : Char} (member : c ∈ unitEscape unit) :
    isWritten c = true := by
  rw [unitEscape, List.mem_cons, List.mem_cons] at member
  rcases member with rfl | rfl | member
  · decide
  · decide
  · exact isWritten_of_mem_hexDigits member

theorem isWritten_of_mem_writeChar {c d : Char} (member : d ∈ writeChar c) :
    isWritten d = true := by
  have pairs : ∀ letter ∈ ['"', '\\', 'n', 'r', 't', 'b', 'f'], d ∈ ['\\', letter] →
      isWritten d = true := by
    intro letter listed member
    simp only [List.mem_cons, List.not_mem_nil, or_false] at listed member
    rcases member with rfl | rfl
    · decide
    · rcases listed with rfl | rfl | rfl | rfl | rfl | rfl | rfl <;> decide
  unfold writeChar at member
  simp only at member
  split at member
  · exact pairs '"' (by simp) member
  split at member
  · exact pairs '\\' (by simp) member
  split at member
  · exact pairs 'n' (by simp) member
  split at member
  · exact pairs 'r' (by simp) member
  split at member
  · exact pairs 't' (by simp) member
  split at member
  · exact pairs 'b' (by simp) member
  split at member
  · exact pairs 'f' (by simp) member
  split at member
  · rename_i printable
    rw [List.mem_singleton.1 member, isWritten, printable, Bool.true_or]
  split at member
  · exact isWritten_of_mem_unitEscape member
  · rcases List.mem_append.1 member with member | member
    · exact isWritten_of_mem_unitEscape member
    · exact isWritten_of_mem_unitEscape member

theorem isWritten_of_mem_writeString {s : String} {c : Char}
    (member : c ∈ (writeString s).toList) : isWritten c = true := by
  rw [toList_writeString, List.mem_cons, List.mem_append, List.mem_singleton,
    List.mem_flatMap] at member
  rcases member with rfl | ⟨d, -, member⟩ | rfl
  · decide
  · exact isWritten_of_mem_writeChar member
  · decide

theorem isWritten_of_mem_comma {α : Type} {more : List α} {c : Char} (member : c ∈ comma more) :
    isWritten c = true := by
  unfold comma at member
  split at member
  · cases member
  · rw [List.mem_singleton.1 member]
    decide

mutual

/-- A value is written in printable characters of ASCII and line feeds. -/
theorem isWritten_of_write (value : Json) {level : Nat} {text : String}
    (written : write level value = .ok text) : ∀ c ∈ text.toList, isWritten c = true := by
  cases value with
  | null =>
      rw [← Except.ok.inj written]
      exact List.all_eq_true.1 (by decide)
  | bool b =>
      rw [← Except.ok.inj written]
      cases b with
      | true => exact List.all_eq_true.1 (by decide)
      | false => exact List.all_eq_true.1 (by decide)
  | int n =>
      obtain ⟨-, text_eq⟩ := of_writeInt written
      rw [text_eq]
      intro c member
      rcases List.mem_append.1 member with sign | digit
      · split at sign
        · rw [List.mem_singleton.1 sign]
          decide
        · cases sign
      · exact isWritten_of_isDigit (all_isDigit_toDigits _ c digit)
  | float x => cases written
  | str s =>
      rw [← Except.ok.inj written]
      intro c member
      exact isWritten_of_mem_writeString member
  | arr items =>
      cases items with
      | nil =>
          rw [← Except.ok.inj written]
          exact List.all_eq_true.1 (by decide)
      | cons item more =>
          obtain ⟨lines, inner, text_eq⟩ := of_write_arr written
          have others := isWritten_of_writeItems (item :: more) inner
          rw [text_eq]
          intro c member
          simp only [List.mem_cons, List.mem_append, List.not_mem_nil, or_false] at member
          rcases member with rfl | member | member | rfl
          · decide
          · exact others c member
          · exact isWritten_of_mem_newline member
          · decide
  | obj entries =>
      cases entries with
      | nil =>
          rw [← Except.ok.inj written]
          exact List.all_eq_true.1 (by decide)
      | cons entry more =>
          obtain ⟨lines, inner, text_eq⟩ := of_write_obj written
          have others := isWritten_of_writeEntries (entry :: more) inner
          rw [text_eq]
          intro c member
          simp only [List.mem_cons, List.mem_append, List.not_mem_nil, or_false] at member
          rcases member with rfl | member | member | rfl
          · decide
          · exact others c member
          · exact isWritten_of_mem_newline member
          · decide

theorem isWritten_of_writeItems (items : List Json) {level : Nat} {lines : String}
    (written : writeItems level items = .ok lines) : ∀ c ∈ lines.toList, isWritten c = true := by
  cases items with
  | nil =>
      rw [← Except.ok.inj written]
      exact List.all_eq_true.1 (by decide)
  | cons item more =>
      obtain ⟨first, others, written, written', lines_eq⟩ := of_writeItems written
      have own := isWritten_of_write item written
      have rest := isWritten_of_writeItems more written'
      rw [lines_eq]
      intro c member
      simp only [List.mem_append] at member
      rcases member with member | member | member | member
      · exact isWritten_of_mem_newline member
      · exact own c member
      · exact isWritten_of_mem_comma member
      · exact rest c member

theorem isWritten_of_writeEntries (entries : List (String × Json)) {level : Nat} {lines : String}
    (written : writeEntries level entries = .ok lines) :
    ∀ c ∈ lines.toList, isWritten c = true := by
  cases entries with
  | nil =>
      rw [← Except.ok.inj written]
      exact List.all_eq_true.1 (by decide)
  | cons entry more =>
      obtain ⟨first, others, written, written', lines_eq⟩ := of_writeEntries written
      have own := isWritten_of_write entry.2 written
      have rest := isWritten_of_writeEntries more written'
      rw [lines_eq]
      intro c member
      simp only [List.mem_append, List.mem_cons] at member
      rcases member with member | member | rfl | rfl | member | member | member
      · exact isWritten_of_mem_newline member
      · exact isWritten_of_mem_writeString member
      · decide
      · decide
      · exact own c member
      · exact isWritten_of_mem_comma member
      · exact rest c member

end

/-! ## The first character -/

/-- A character that a written value can start with. -/
def startsValue (c : Char) : Bool := c.isDigit || ['n', 't', 'f', '-', '"', '[', '{'].contains c

theorem ne_of_kind {kind : Char → Bool} {c d : Char} (own : kind c = true)
    (other : kind d = false) :
    c ≠ d := by
  rintro rfl
  rw [own] at other
  cases other

theorem solid_of_startsValue {c : Char} (starts : startsValue c = true) :
    (c == ' ' || c == '\t' || c == '\n' || c == '\r') = false := by
  simp only [Bool.or_eq_false_iff, beq_eq_false_iff_ne]
  exact ⟨⟨⟨ne_of_kind starts (by decide), ne_of_kind starts (by decide)⟩,
    ne_of_kind starts (by decide)⟩, ne_of_kind starts (by decide)⟩

theorem exists_start_of_write {value : Json} {level : Nat} {text : String}
    (written : write level value = .ok text) :
    ∃ c more, text.toList = c :: more ∧ startsValue c = true := by
  cases value with
  | null =>
      rw [← Except.ok.inj written]
      exact ⟨'n', _, rfl, by decide⟩
  | bool b =>
      rw [← Except.ok.inj written]
      cases b with
      | true => exact ⟨'t', _, rfl, by decide⟩
      | false => exact ⟨'f', _, rfl, by decide⟩
  | int n =>
      obtain ⟨-, text_eq⟩ := of_writeInt written
      split at text_eq
      · exact ⟨'-', _, text_eq, by decide⟩
      · cases digits : Nat.toDigits 10 n.natAbs with
        | nil => exact absurd digits Nat.toDigits_ne_nil
        | cons c more =>
            have digit := all_isDigit_toDigits n.natAbs c (digits ▸ List.mem_cons_self ..)
            exact ⟨c, more, by rw [text_eq, digits, List.nil_append], by simp [startsValue, digit]⟩
  | float x => cases written
  | str s =>
      rw [← Except.ok.inj written]
      exact ⟨'"', _, toList_writeString s, by decide⟩
  | arr items =>
      cases items with
      | nil =>
          rw [← Except.ok.inj written]
          exact ⟨'[', _, rfl, by decide⟩
      | cons item more =>
          obtain ⟨lines, -, text_eq⟩ := of_write_arr written
          exact ⟨'[', _, text_eq, by decide⟩
  | obj entries =>
      cases entries with
      | nil =>
          rw [← Except.ok.inj written]
          exact ⟨'{', _, rfl, by decide⟩
      | cons entry more =>
          obtain ⟨lines, -, text_eq⟩ := of_write_obj written
          exact ⟨'{', _, text_eq, by decide⟩

end LintBridge.Json
