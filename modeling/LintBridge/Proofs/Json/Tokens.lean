import LintBridge.Json.Parser
import LintBridge.Json.Printer
import LintBridge.Proofs.Text.Runs

/-!
# Strings and integers that were written can be read

Each character of a string is written as itself or as an escape, and either is taken as that
character by one step of the parser, whatever stands behind it (`stringBody_writeChar`). The text of
an integer is a numeral to the parser if nothing behind it goes on with one
(`numeral_toDigits`).
-/
set_option autoImplicit false

namespace LintBridge.Json

/-! ## Escapes -/

theorem hexValue?_hexDigit {n : Nat} (small : n < 16) :
    Text.hexValue? (Text.hexDigit n) = some n := by
  have all : ∀ k : Fin 16, Text.hexValue? (Text.hexDigit k) = some k.val := by decide
  exact all ⟨n, small⟩

theorem hexDigits_four (n : Nat) :
    Text.hexDigits 4 n = [Text.hexDigit (n / 16 / 16 / 16 % 16), Text.hexDigit (n / 16 / 16 % 16),
      Text.hexDigit (n / 16 % 16), Text.hexDigit (n % 16)] := rfl

theorem code?_hexDigits {n : Nat} (small : n < 0x10000) (behind : List Char) :
    code? (Text.hexDigits 4 n ++ behind) = some n := by
  have first := hexValue?_hexDigit (n := n / 16 / 16 / 16 % 16) (by omega)
  have second := hexValue?_hexDigit (n := n / 16 / 16 % 16) (by omega)
  have third := hexValue?_hexDigit (n := n / 16 % 16) (by omega)
  have fourth := hexValue?_hexDigit (n := n % 16) (by omega)
  simp only [hexDigits_four, List.cons_append, List.nil_append, code?, first, second, third, fourth,
    bind, Option.bind, pure, Option.some.injEq]
  omega

theorem drop_hexDigits (n : Nat) (behind : List Char) :
    (Text.hexDigits 4 n ++ behind).drop 4 = behind :=
  List.drop_left' (Text.length_hexDigits 4 n)

/-- The escape of a unit that is no surrogate is that of a character. -/
theorem codeEscape_of_scalar {n : Nat} (small : n < 0x10000) (scalar : n < 0xD800 ∨ 0xDFFF < n)
    (place : Nat) {behind : List Char} (goesOn : behind ≠ []) :
    codeEscape place (Text.hexDigits 4 n ++ behind) = .ok (Char.ofNat n, 4) := by
  have long : ¬ (Text.hexDigits 4 n ++ behind).length ≤ 4 := by
    have some' := List.length_pos_iff.2 goesOn
    rw [List.length_append, Text.length_hexDigits]
    omega
  have notHigh : isHighSurrogate n = false := by
    simp only [isHighSurrogate, Bool.and_eq_false_iff, decide_eq_false_iff_not]
    omega
  have own : charOfCode n = Char.ofNat n := by
    rw [charOfCode, if_neg]
    simp only [Bool.and_eq_true, decide_eq_true_eq]
    omega
  rw [codeEscape, if_neg long, code?_hexDigits small, drop_hexDigits]
  simp only [notHigh, own, Bool.false_and, Bool.false_eq_true, if_false]
  split <;> rfl

/-- The escapes of a high and a low surrogate are one character together. -/
theorem codeEscape_of_pair {high low : Nat} (isHigh : isHighSurrogate high = true)
    (isLow : isLowSurrogate low = true) (place : Nat) {behind : List Char} (goesOn : behind ≠ []) :
    codeEscape place (Text.hexDigits 4 high ++ (unitEscape low ++ behind)) =
      .ok (Char.ofNat (0x10000 + (high - 0xD800) * 0x400 + (low - 0xDC00)), 10) := by
  have small : high < 0x10000 ∧ low < 0x10000 := by
    simp only [isHighSurrogate, isLowSurrogate, Bool.and_eq_true, decide_eq_true_eq] at isHigh isLow
    omega
  have long : ¬ (Text.hexDigits 4 high ++ (unitEscape low ++ behind)).length ≤ 4 := by
    simp only [unitEscape, List.length_append, List.length_cons, Text.length_hexDigits]
    omega
  have long' : 4 < (Text.hexDigits 4 low ++ behind).length := by
    have some' := List.length_pos_iff.2 goesOn
    rw [List.length_append, Text.length_hexDigits]
    omega
  rw [codeEscape, if_neg long, code?_hexDigits small.1, drop_hexDigits]
  simp only [unitEscape, List.cons_append, isHigh, long', decide_true, Bool.and_self, if_true,
    code?_hexDigits small.2, isLow]

/-- The two surrogates that a character beyond the first plane is written with. -/
theorem surrogates_of_code {n : Nat} (low : 0x10000 ≤ n) (high : n < 0x110000) :
    isHighSurrogate (0xD800 + (n - 0x10000) / 0x400) = true ∧
      isLowSurrogate (0xDC00 + (n - 0x10000) % 0x400) = true ∧
      0x10000 + (0xD800 + (n - 0x10000) / 0x400 - 0xD800) * 0x400 +
        (0xDC00 + (n - 0x10000) % 0x400 - 0xDC00) = n := by
  simp only [isHighSurrogate, isLowSurrogate, Bool.and_eq_true, decide_eq_true_eq]
  omega

/-! ## Strings -/

/-- One step of the parser takes what was written for one character. -/
theorem stringBody_writeChar (opening steps : Nat) (taken : List Char) (place : Nat) (c : Char)
    {behind : List Char} (goesOn : behind ≠ []) :
    ∃ place', stringBody opening (steps + 1) taken ⟨place, writeChar c ++ behind⟩ =
      stringBody opening steps (c :: taken) ⟨place', behind⟩ := by
  have code : c.toNat < 0xD800 ∨ (0xDFFF < c.toNat ∧ c.toNat < 0x110000) := c.valid
  have same : Char.ofNat c.toNat = c := Char.ofNat_toNat c
  unfold writeChar
  simp only [beq_iff_eq, Bool.and_eq_true, decide_eq_true_eq]
  split
  · rename_i quote
    exact ⟨place + 2, by rw [quote]; rfl⟩
  split
  · rename_i backslash
    exact ⟨place + 2, by rw [backslash]; rfl⟩
  split
  · rename_i lineFeed
    exact ⟨place + 2, by rw [lineFeed]; rfl⟩
  split
  · rename_i carriageReturn
    exact ⟨place + 2, by rw [carriageReturn]; rfl⟩
  split
  · rename_i tab
    exact ⟨place + 2, by rw [tab]; rfl⟩
  split
  · rename_i backspace
    rw [backspace] at same
    exact ⟨place + 2, by rw [← same]; rfl⟩
  split
  · rename_i formFeed
    rw [formFeed] at same
    exact ⟨place + 2, by rw [← same]; rfl⟩
  split
  · -- a character that stands for itself
    rename_i notQuote notBackslash _ _ _ _ _ printable
    refine ⟨place + 1, ?_⟩
    rw [List.singleton_append, stringBody.eq_def]
    simp only
    split
    · rename_i empty
      cases empty
    · rename_i quote
      exact absurd (List.cons.inj quote).1 notQuote
    · rename_i backslash
      exact absurd (List.cons.inj backslash).1 notBackslash
    · rename_i backslash
      exact absurd (List.cons.inj backslash).1 notBackslash
    · rename_i backslash
      exact absurd (List.cons.inj backslash).1 notBackslash
    · rename_i found
      obtain ⟨rfl, rfl⟩ := List.cons.inj found
      rw [if_neg (by omega)]
  split
  · rename_i small
    have read := codeEscape_of_scalar small (by omega) (place + 1) goesOn
    refine ⟨place + 2 + 4, ?_⟩
    rw [unitEscape, List.cons_append, List.cons_append, stringBody]
    simp only [read, same, drop_hexDigits]
  · rename_i small
    obtain ⟨isHigh, isLow, joined⟩ := surrogates_of_code (Nat.le_of_not_lt small) (by omega)
    have read := codeEscape_of_pair isHigh isLow (place + 1) goesOn
    rw [joined, same] at read
    refine ⟨place + 2 + 10, ?_⟩
    have behind_eq : ∀ h l, (Text.hexDigits 4 h ++ (unitEscape l ++ behind)).drop 10 = behind := by
      intro h l
      rfl
    rw [List.append_assoc]
    generalize 0xDC00 + (c.toNat - 0x10000) % 0x400 = l at read ⊢
    generalize 0xD800 + (c.toNat - 0x10000) / 0x400 = h at read ⊢
    rw [unitEscape, List.cons_append, List.cons_append, stringBody]
    simp only [read, behind_eq]

theorem writeChar_ne_nil (c : Char) : writeChar c ≠ [] := by
  unfold writeChar
  simp only
  repeat' split
  all_goals simp [unitEscape]

theorem stringBody_written (opening : Nat) (s : List Char) (steps : Nat)
    (enough : s.length < steps) (taken : List Char) (place : Nat) (rest : List Char) :
    ∃ place', stringBody opening steps taken ⟨place, s.flatMap writeChar ++ '"' :: rest⟩ =
      .ok (String.ofList (taken.reverse ++ s), ⟨place', rest⟩) := by
  induction s generalizing steps taken place with
  | nil =>
      obtain ⟨steps, rfl⟩ : ∃ k, steps = k + 1 := Nat.exists_eq_add_one.2 enough
      refine ⟨place + 1, ?_⟩
      rw [List.flatMap_nil, List.nil_append, List.append_nil, stringBody]
  | cons c more ih =>
      obtain ⟨steps, rfl⟩ : ∃ k, steps = k + 1 := Nat.exists_eq_add_one.2 (by omega)
      rw [List.length_cons] at enough
      have goesOn : more.flatMap writeChar ++ '"' :: rest ≠ [] := by simp
      obtain ⟨between, taken_eq⟩ := stringBody_writeChar opening steps taken place c goesOn
      obtain ⟨place', read⟩ := ih steps (by omega) (c :: taken) between
      refine ⟨place', ?_⟩
      rw [List.flatMap_cons, List.append_assoc, taken_eq, read, List.reverse_cons,
        List.append_assoc, List.singleton_append]

theorem length_le_length_flatMap_writeChar (s : List Char) :
    s.length ≤ (s.flatMap writeChar).length := by
  induction s with
  | nil => exact Nat.le_refl _
  | cons c more ih =>
      have first := List.length_pos_iff.2 (writeChar_ne_nil c)
      rw [List.flatMap_cons, List.length_append, List.length_cons]
      omega

theorem toList_writeString (s : String) :
    (writeString s).toList = '"' :: (s.toList.flatMap writeChar ++ ['"']) := by
  rw [writeString, String.toList_ofList, List.cons_append]

/-- A string that was written is read, whatever stands behind it. -/
theorem string_written (s : String) (place : Nat) (rest : List Char) :
    ∃ place', string ⟨place, (writeString s).toList ++ rest⟩ = .ok (s, ⟨place', rest⟩) := by
  rw [toList_writeString, List.cons_append, List.append_assoc, List.singleton_append, string,
    Cursor.advance, List.drop_one, List.tail_cons]
  have long := length_le_length_flatMap_writeChar s.toList
  obtain ⟨place', read⟩ := stringBody_written place s.toList
    ((('"' :: (s.toList.flatMap writeChar ++ '"' :: rest)).length) + 1)
    (by simp only [List.length_cons, List.length_append]; omega) [] (place + 1) rest
  refine ⟨place', ?_⟩
  rw [read, List.reverse_nil, List.nil_append, String.ofList_toList]

/-! ## Integers -/

/-- Whether what stands behind a numeral does not go on with it. -/
def endsNumeral : List Char → Bool
  | [] => true
  | c :: _ => !(c.isDigit || c == '.' || c == 'e' || c == 'E')

theorem digitsValue_toDigits (n : Nat) : Binary64.digitsValue (Nat.toDigits 10 n) = n := by
  have same : ∀ (cs : List Char) (start : Nat),
      cs.foldl (fun n c => n * 10 + (c.toNat - 48)) start = Nat.ofDigitChars 10 cs start := by
    intro cs
    induction cs with
    | nil =>
        intro start
        rw [Nat.ofDigitChars_nil, List.foldl_nil]
    | cons c more ih =>
        intro start
        rw [List.foldl_cons, ih, Nat.ofDigitChars_cons, Nat.mul_comm]
        rfl
  rw [Binary64.digitsValue, same, Nat.ofDigitChars_ten_toDigits]

theorem all_isDigit_toDigits (n : Nat) : ∀ c ∈ Nat.toDigits 10 n, c.isDigit = true := by
  intro c member
  exact Nat.isDigit_of_mem_toDigits (by decide) (by decide) member

/-- The digits of a number above zero do not start with a zero. -/
theorem head?_toDigits_ne {n : Nat} (positive : 0 < n) :
    (Nat.toDigits 10 n).head? ≠ some '0' := by
  induction n using Nat.strongRecOn with
  | ind n ih =>
      rw [Nat.toDigits_eq_if (by decide)]
      split
      · rename_i small
        have all : ∀ k : Fin 10, 0 < k.val → Nat.digitChar k.val ≠ '0' := by decide
        intro zero
        exact all ⟨n, small⟩ positive (Option.some.inj zero)
      · rename_i large
        have some' : (Nat.toDigits 10 (n / 10)).head?.isSome = true := by
          rw [List.isSome_head?]
          exact Nat.toDigits_ne_nil
        rw [List.head?_append, Option.or_eq_left_of_isSome some']
        exact ih (n / 10) (by omega) (by omega)

theorem stops_of_endsNumeral {rest : List Char} (ends : endsNumeral rest = true) :
    Text.Stops Char.isDigit rest := by
  cases rest with
  | nil => exact Text.stops_nil
  | cons c more =>
      simp only [endsNumeral, Bool.not_eq_true', Bool.or_eq_false_iff] at ends
      exact Text.stops_cons ends.1.1.1

theorem wholePart_toDigits (n : Nat) {rest : List Char} (ends : endsNumeral rest = true) :
    wholePart (Nat.toDigits 10 n ++ rest) = Nat.toDigits 10 n := by
  rcases Nat.eq_zero_or_pos n with rfl | positive
  · rw [Nat.toDigits_zero]
    rfl
  · have notZero := head?_toDigits_ne positive
    have taken :=
      Text.takeWhile_run (all_isDigit_toDigits n) (stops_of_endsNumeral ends)
    cases digits : Nat.toDigits 10 n with
    | nil => exact absurd digits Nat.toDigits_ne_nil
    | cons c more =>
        rw [digits] at notZero taken
        rw [List.cons_append] at taken ⊢
        unfold wholePart
        split
        · rename_i zero
          exact absurd (congrArg some (List.cons.inj zero).1) notZero
        · exact taken

theorem fractionPart_of_endsNumeral {rest : List Char} (ends : endsNumeral rest = true) :
    fractionPart rest = [] := by
  unfold fractionPart
  split
  · cases ends
  · rfl

theorem exponentPart_of_endsNumeral {rest : List Char} (ends : endsNumeral rest = true) :
    exponentPart rest = [] := by
  unfold exponentPart
  split
  · rename_i mark more
    simp only [endsNumeral, Bool.not_eq_true', Bool.or_eq_false_iff] at ends
    simp [ends.1.2, ends.2]
  · rfl

/-- The digits of a natural number are read as that number. -/
theorem numeral_toDigits (start : Nat) (negative : Bool) (n : Nat)
    (short : (Nat.toDigits 10 n).length ≤ maxIntegerDigits) (place : Nat) {rest : List Char}
    (ends : endsNumeral rest = true) :
    ∃ place', numeral start negative ⟨place, Nat.toDigits 10 n ++ rest⟩ =
      .ok (.int (if negative then -(n : Int) else n), ⟨place', rest⟩) := by
  have some' : (Nat.toDigits 10 n).isEmpty = false := by
    rw [List.isEmpty_eq_false_iff]
    exact Nat.toDigits_ne_nil
  refine ⟨place + (Nat.toDigits 10 n).length, ?_⟩
  simp only [numeral, wholePart_toDigits n ends, some', List.drop_left, Bool.false_eq_true,
    if_false, fractionPart_of_endsNumeral ends, List.length_nil, Nat.add_zero,
    exponentPart_of_endsNumeral ends, List.isEmpty_nil, Bool.and_self, if_true,
    if_neg (Nat.not_lt.2 short), digitsValue_toDigits, Cursor.advance]

end LintBridge.Json
