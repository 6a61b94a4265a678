import LintBridge.Text.Utf8

/-!
# What is written as UTF-8 can be read

The octets of a character are read as that character, whatever follows them, so that reading the
octets of a text meets no fault and gives the text back. Conversely, what is read as a character are
the octets of that character, so that octets can be read as a text exactly if they are those of the
text (`decode_eq_ok_iff`).
-/
set_option autoImplicit false

namespace LintBridge.Text.Utf8

/-! ## Octets as numbers -/

theorem toNat_ofNat {m : Nat} (small : m < 256) : (UInt8.ofNat m).toNat = m := by
  rw [UInt8.toNat_ofNat', Nat.mod_eq_of_lt small]

theorem ofNat_lt {m : Nat} {b : UInt8} (below : m < b.toNat) : UInt8.ofNat m < b := by
  rw [UInt8.lt_iff_toNat_lt, toNat_ofNat (Nat.lt_trans below b.toNat_lt)]
  exact below

theorem not_ofNat_lt {m : Nat} {b : UInt8} (small : m < 256) (above : b.toNat ≤ m) :
    ¬ UInt8.ofNat m < b := by
  rw [UInt8.lt_iff_toNat_lt, toNat_ofNat small]
  exact Nat.not_lt.2 above

theorem toNat_eq_of_ofNat_eq {m : Nat} {b : UInt8} (small : m < 256) (same : UInt8.ofNat m = b) :
    m = b.toNat := by
  rw [← same, toNat_ofNat small]

theorem isContinuation_of_range {k : Nat} (low : 0x80 ≤ k) (high : k ≤ 0xBF) :
    isContinuation (UInt8.ofNat k) = true := by
  simp only [isContinuation, Bool.and_eq_true, decide_eq_true_eq, UInt8.le_iff_toNat_le,
    toNat_ofNat (show k < 256 by omega)]
  exact ⟨low, high⟩

theorem isContinuation_tail (n : Nat) :
    isContinuation (UInt8.ofNat (n % 0x40 + 0x80)) = true :=
  isContinuation_of_range (by omega) (by omega)

theorem payload_tail (n : Nat) : payload (UInt8.ofNat (n % 0x40 + 0x80)) = n % 0x40 := by
  rw [payload, toNat_ofNat (by omega)]
  omega

theorem secondOfThree_of_range {m k : Nat} (small : m < 256) (low : 0x80 ≤ k) (high : k ≤ 0xBF)
    (long : m = 0xE0 → 0xA0 ≤ k) (noSurrogate : m = 0xED → k < 0xA0) :
    secondOfThree (UInt8.ofNat m) (UInt8.ofNat k) = true := by
  simp only [secondOfThree, isContinuation_of_range low high, Bool.true_and, Bool.and_eq_true,
    Bool.not_eq_true', Bool.and_eq_false_iff, beq_eq_false_iff_ne, decide_eq_false_iff_not]
  constructor
  · by_cases short : m = 0xE0
    · exact Or.inr (not_ofNat_lt (by omega) (long short))
    · exact Or.inl fun same => short (toNat_eq_of_ofNat_eq small same)
  · by_cases near : m = 0xED
    · refine Or.inr (UInt8.not_le.2 (ofNat_lt ?_))
      exact noSurrogate near
    · exact Or.inl fun same => near (toNat_eq_of_ofNat_eq small same)

theorem secondOfFour_of_range {m k : Nat} (small : m < 256) (low : 0x80 ≤ k) (high : k ≤ 0xBF)
    (long : m = 0xF0 → 0x90 ≤ k) (inRange : m = 0xF4 → k < 0x90) :
    secondOfFour (UInt8.ofNat m) (UInt8.ofNat k) = true := by
  simp only [secondOfFour, isContinuation_of_range low high, Bool.true_and, Bool.and_eq_true,
    Bool.not_eq_true', Bool.and_eq_false_iff, beq_eq_false_iff_ne, decide_eq_false_iff_not]
  constructor
  · by_cases short : m = 0xF0
    · exact Or.inr (not_ofNat_lt (by omega) (long short))
    · exact Or.inl fun same => short (toNat_eq_of_ofNat_eq small same)
  · by_cases last : m = 0xF4
    · refine Or.inr (UInt8.not_le.2 (ofNat_lt ?_))
      exact inRange last
    · exact Or.inl fun same => last (toNat_eq_of_ofNat_eq small same)

/-! ## Characters by the number of their octets -/

theorem itemAt_one {n : Nat} (high : n ≤ 0x7F) (rest : List UInt8) :
    itemAt (UInt8.ofNat n) rest = .char (Char.ofNat n) 0 := by
  have lead : UInt8.ofNat n < 0x80 := ofNat_lt (show n < 0x80 by omega)
  rw [itemAt.eq_def, if_pos lead, toNat_ofNat (by omega)]

theorem itemAt_two {n : Nat} (low : 0x7F < n) (high : n ≤ 0x7FF) (rest : List UInt8) :
    itemAt (UInt8.ofNat (n / 64 % 0x20 + 0xC0)) (UInt8.ofNat (n % 0x40 + 0x80) :: rest) =
      .char (Char.ofNat n) 1 := by
  generalize lead : n / 64 % 0x20 + 0xC0 = m
  have small : m < 256 := by omega
  have notOne : ¬ UInt8.ofNat m < 0x80 := not_ofNat_lt small (show 0x80 ≤ m by omega)
  have notTail : ¬ UInt8.ofNat m < 0xC2 := not_ofNat_lt small (show 0xC2 ≤ m by omega)
  have two : UInt8.ofNat m < 0xE0 := ofNat_lt (show m < 0xE0 by omega)
  have code : m % 32 * 64 + n % 0x40 = n := by omega
  simp only [itemAt, if_neg notOne, if_neg notTail, if_pos two, isContinuation_tail, payload_tail,
    toNat_ofNat small, code, if_true]

theorem itemAt_three {n : Nat} (low : 0x7FF < n) (high : n ≤ 0xFFFF)
    (scalar : n < 0xD800 ∨ 0xDFFF < n) (rest : List UInt8) :
    itemAt (UInt8.ofNat (n / 4096 % 0x10 + 0xE0))
        (UInt8.ofNat (n / 64 % 0x40 + 0x80) :: UInt8.ofNat (n % 0x40 + 0x80) :: rest) =
      .char (Char.ofNat n) 2 := by
  generalize lead : n / 4096 % 0x10 + 0xE0 = m
  have small : m < 256 := by omega
  have notOne : ¬ UInt8.ofNat m < 0x80 := not_ofNat_lt small (show 0x80 ≤ m by omega)
  have notTail : ¬ UInt8.ofNat m < 0xC2 := not_ofNat_lt small (show 0xC2 ≤ m by omega)
  have notTwo : ¬ UInt8.ofNat m < 0xE0 := not_ofNat_lt small (show 0xE0 ≤ m by omega)
  have three : UInt8.ofNat m < 0xF0 := ofNat_lt (show m < 0xF0 by omega)
  have second := secondOfThree_of_range (k := n / 64 % 0x40 + 0x80) small (by omega) (by omega)
    (by omega) (by omega)
  have code : m % 16 * 4096 + n / 64 % 0x40 * 64 + n % 0x40 = n := by omega
  simp only [itemAt, if_neg notOne, if_neg notTail, if_neg notTwo, if_pos three, second,
    isContinuation_tail, payload_tail, toNat_ofNat small, code, if_true]

theorem itemAt_four {n : Nat} (low : 0xFFFF < n) (high : n < 0x110000) (rest : List UInt8) :
    itemAt (UInt8.ofNat (n / 262144 % 0x08 + 0xF0))
        (UInt8.ofNat (n / 4096 % 0x40 + 0x80) :: UInt8.ofNat (n / 64 % 0x40 + 0x80) ::
          UInt8.ofNat (n % 0x40 + 0x80) :: rest) =
      .char (Char.ofNat n) 3 := by
  generalize lead : n / 262144 % 0x08 + 0xF0 = m
  have small : m < 256 := by omega
  have notOne : ¬ UInt8.ofNat m < 0x80 := not_ofNat_lt small (show 0x80 ≤ m by omega)
  have notTail : ¬ UInt8.ofNat m < 0xC2 := not_ofNat_lt small (show 0xC2 ≤ m by omega)
  have notTwo : ¬ UInt8.ofNat m < 0xE0 := not_ofNat_lt small (show 0xE0 ≤ m by omega)
  have notThree : ¬ UInt8.ofNat m < 0xF0 := not_ofNat_lt small (show 0xF0 ≤ m by omega)
  have four : UInt8.ofNat m < 0xF5 := ofNat_lt (show m < 0xF5 by omega)
  have second := secondOfFour_of_range (k := n / 4096 % 0x40 + 0x80) small (by omega) (by omega)
    (by omega) (by omega)
  have code : m % 8 * 262144 + n / 4096 % 0x40 * 4096 + n / 64 % 0x40 * 64 + n % 0x40 = n := by
    omega
  simp only [itemAt, if_neg notOne, if_neg notTail, if_neg notTwo, if_neg notThree, if_pos four,
    second, isContinuation_tail, payload_tail, toNat_ofNat small, code, if_true]

/-! ## Texts -/

/-- The octets of a character are read as that character and as nothing more. -/
theorem items_encodeChar (c : Char) (rest : List UInt8) :
    ∃ extra, items (String.utf8EncodeChar c ++ rest) = .char c extra :: items rest := by
  have scalar : c.toNat < 0xD800 ∨ (0xDFFF < c.toNat ∧ c.toNat < 0x110000) := c.valid
  have same : Char.ofNat c.val.toNat = c := Char.ofNat_toNat c
  simp only [Char.toNat] at scalar
  simp only [String.utf8EncodeChar]
  split
  · rename_i one
    refine ⟨0, ?_⟩
    rw [List.cons_append, items, itemAt_one one, same]
    rfl
  · split
    · rename_i one two
      refine ⟨1, ?_⟩
      rw [List.cons_append, items, List.cons_append, itemAt_two (by omega) two, same]
      rfl
    · split
      · rename_i one two three
        refine ⟨2, ?_⟩
        rw [List.cons_append, items, List.cons_append, List.cons_append,
          itemAt_three (by omega) three (by omega), same]
        rfl
      · rename_i one two three
        refine ⟨3, ?_⟩
        rw [List.cons_append, items, List.cons_append, List.cons_append, List.cons_append,
          itemAt_four (by omega) (by omega), same]
        rfl

theorem decodeLenient_encode (text : List Char) : decodeLenient (encode text) = text := by
  induction text with
  | nil => simp [decodeLenient, encode, items]
  | cons c more ih =>
      obtain ⟨extra, read⟩ := items_encodeChar c (encode more)
      have split : encode (c :: more) = String.utf8EncodeChar c ++ encode more := rfl
      rw [decodeLenient, split, read, List.map_cons]
      exact congrArg (c :: ·) ih

theorem encode_inj {text text' : List Char} : encode text = encode text' ↔ text = text' := by
  constructor
  · intro same
    rw [← decodeLenient_encode text, same, decodeLenient_encode]
  · exact congrArg encode

/-! ## Octets -/

theorem range_of_isContinuation {b : UInt8} (tail : isContinuation b = true) :
    0x80 ≤ b.toNat ∧ b.toNat ≤ 0xBF := by
  simp only [isContinuation, Bool.and_eq_true, decide_eq_true_eq, UInt8.le_iff_toNat_le] at tail
  exact tail

theorem range_of_secondOfThree {b second : UInt8} (follows : secondOfThree b second = true) :
    (0x80 ≤ second.toNat ∧ second.toNat ≤ 0xBF) ∧ (b.toNat = 0xE0 → 0xA0 ≤ second.toNat) ∧
      (b.toNat = 0xED → second.toNat < 0xA0) := by
  simp only [secondOfThree, Bool.and_eq_true, Bool.not_eq_true', Bool.and_eq_false_iff,
    beq_eq_false_iff_ne, decide_eq_false_iff_not] at follows
  obtain ⟨⟨tail, long⟩, noSurrogate⟩ := follows
  refine ⟨range_of_isContinuation tail, ?_, ?_⟩
  · intro lead
    have low := long.resolve_left fun other => other (UInt8.toNat_inj.1 lead)
    exact UInt8.le_iff_toNat_le.1 (UInt8.not_lt.1 low)
  · intro lead
    have high := noSurrogate.resolve_left fun other => other (UInt8.toNat_inj.1 lead)
    exact UInt8.lt_iff_toNat_lt.1 (UInt8.not_le.1 high)

theorem range_of_secondOfFour {b second : UInt8} (follows : secondOfFour b second = true) :
    (0x80 ≤ second.toNat ∧ second.toNat ≤ 0xBF) ∧ (b.toNat = 0xF0 → 0x90 ≤ second.toNat) ∧
      (b.toNat = 0xF4 → second.toNat < 0x90) := by
  simp only [secondOfFour, Bool.and_eq_true, Bool.not_eq_true', Bool.and_eq_false_iff,
    beq_eq_false_iff_ne, decide_eq_false_iff_not] at follows
  obtain ⟨⟨tail, long⟩, inRange⟩ := follows
  refine ⟨range_of_isContinuation tail, ?_, ?_⟩
  · intro lead
    have low := long.resolve_left fun other => other (UInt8.toNat_inj.1 lead)
    exact UInt8.le_iff_toNat_le.1 (UInt8.not_lt.1 low)
  · intro lead
    have high := inRange.resolve_left fun other => other (UInt8.toNat_inj.1 lead)
    exact UInt8.lt_iff_toNat_lt.1 (UInt8.not_le.1 high)

theorem ofNat_eq_of_toNat_eq {m : Nat} {b : UInt8} (same : m = b.toNat) : UInt8.ofNat m = b := by
  rw [same, UInt8.ofNat_toNat]

/-- The octets of the character with a code, by the size of the code. -/
theorem utf8EncodeChar_ofNat {n : Nat} (scalar : n < 0xD800 ∨ 0xDFFF < n ∧ n < 0x110000) :
    String.utf8EncodeChar (Char.ofNat n) =
      if n ≤ 0x7F then [UInt8.ofNat n]
      else if n ≤ 0x7FF then [UInt8.ofNat (n / 64 % 32 + 192), UInt8.ofNat (n % 64 + 128)]
      else if n ≤ 0xFFFF then
        [UInt8.ofNat (n / 4096 % 16 + 224), UInt8.ofNat (n / 64 % 64 + 128),
          UInt8.ofNat (n % 64 + 128)]
      else
        [UInt8.ofNat (n / 262144 % 8 + 240), UInt8.ofNat (n / 4096 % 64 + 128),
          UInt8.ofNat (n / 64 % 64 + 128), UInt8.ofNat (n % 64 + 128)] := by
  have code : (Char.ofNat n).val.toNat = n := by
    rw [Char.ofNat, dif_pos scalar]
    rfl
  simp only [String.utf8EncodeChar, code]

/-- No octet of ASCII is in the octets of another character. -/
theorem mem_utf8EncodeChar_iff {n : Nat} (ascii : n < 0x80) (c : Char) :
    UInt8.ofNat n ∈ String.utf8EncodeChar c ↔ c = Char.ofNat n := by
  have same : c.toNat = n ↔ c = Char.ofNat n := by
    constructor
    · rintro rfl
      exact (Char.ofNat_toNat c).symm
    · rintro rfl
      rw [Char.ofNat, dif_pos (Or.inl (by omega))]
      rfl
  have other : ∀ m, m < 256 → (UInt8.ofNat n = UInt8.ofNat m ↔ n = m) := by
    intro m small
    rw [← UInt8.toNat_inj, toNat_ofNat (by omega), toNat_ofNat small]
  have code : c.toNat < 0xD800 ∨ (0xDFFF < c.toNat ∧ c.toNat < 0x110000) := c.valid
  rw [← same]
  simp only [String.utf8EncodeChar, Char.toNat] at code ⊢
  generalize c.val.toNat = k at code ⊢
  split
  · rw [List.mem_singleton, other k (by omega), eq_comm]
  · split
    · rw [List.mem_cons, List.mem_singleton, other _ (by omega), other _ (by omega)]
      omega
    · split
      · rw [List.mem_cons, List.mem_cons, List.mem_singleton, other _ (by omega),
          other _ (by omega), other _ (by omega)]
        omega
      · rw [List.mem_cons, List.mem_cons, List.mem_cons, List.mem_singleton, other _ (by omega),
          other _ (by omega), other _ (by omega), other _ (by omega)]
        omega

theorem mem_encode_iff {n : Nat} (ascii : n < 0x80) (text : List Char) :
    UInt8.ofNat n ∈ encode text ↔ Char.ofNat n ∈ text := by
  rw [encode, List.mem_flatMap]
  constructor
  · rintro ⟨c, member, octet⟩
    rw [← (mem_utf8EncodeChar_iff ascii c).1 octet]
    exact member
  · intro member
    exact ⟨_, member, (mem_utf8EncodeChar_iff ascii _).2 rfl⟩

/-- The ways in which an octet and those behind it are read as a character. -/
inductive Starts (b : UInt8) : List UInt8 → Char → Nat → Prop where
  | one {rest : List UInt8} (high : b.toNat < 0x80) : Starts b rest (Char.ofNat b.toNat) 0
  | two {b₂ : UInt8} {rest : List UInt8} (low : 0xC2 ≤ b.toNat) (high : b.toNat < 0xE0)
      (second : isContinuation b₂ = true) :
      Starts b (b₂ :: rest) (Char.ofNat (b.toNat % 32 * 64 + payload b₂)) 1
  | three {b₂ b₃ : UInt8} {rest : List UInt8} (low : 0xE0 ≤ b.toNat) (high : b.toNat < 0xF0)
      (second : secondOfThree b b₂ = true) (third : isContinuation b₃ = true) :
      Starts b (b₂ :: b₃ :: rest)
        (Char.ofNat (b.toNat % 16 * 4096 + payload b₂ * 64 + payload b₃)) 2
  | four {b₂ b₃ b₄ : UInt8} {rest : List UInt8} (low : 0xF0 ≤ b.toNat) (high : b.toNat < 0xF5)
      (second : secondOfFour b b₂ = true) (third : isContinuation b₃ = true)
      (fourth : isContinuation b₄ = true) :
      Starts b (b₂ :: b₃ :: b₄ :: rest)
        (Char.ofNat (b.toNat % 8 * 262144 + payload b₂ * 4096 + payload b₃ * 64 + payload b₄)) 3

theorem starts_of_itemAt {b : UInt8} {rest : List UInt8} {c : Char} {extra : Nat}
    (read : itemAt b rest = .char c extra) : Starts b rest c extra := by
  unfold itemAt at read
  split at read
  · rename_i one
    obtain ⟨rfl, rfl⟩ := Item.char.inj read
    exact .one (UInt8.lt_iff_toNat_lt.1 one)
  split at read
  · cases read
  rename_i notOne notTail
  have low : 0xC2 ≤ b.toNat := UInt8.le_iff_toNat_le.1 (UInt8.not_lt.1 notTail)
  split at read
  · rename_i two
    split at read
    · cases read
    split at read
    · rename_i second
      obtain ⟨rfl, rfl⟩ := Item.char.inj read
      exact .two low (UInt8.lt_iff_toNat_lt.1 two) second
    · cases read
  rename_i notTwo
  have low : 0xE0 ≤ b.toNat := UInt8.le_iff_toNat_le.1 (UInt8.not_lt.1 notTwo)
  split at read
  · rename_i three
    split at read
    · cases read
    split at read
    · rename_i second
      split at read
      · cases read
      split at read
      · rename_i third
        obtain ⟨rfl, rfl⟩ := Item.char.inj read
        exact .three low (UInt8.lt_iff_toNat_lt.1 three) second third
      · cases read
    · cases read
  rename_i notThree
  have low : 0xF0 ≤ b.toNat := UInt8.le_iff_toNat_le.1 (UInt8.not_lt.1 notThree)
  split at read
  · rename_i four
    split at read
    · cases read
    split at read
    · rename_i second
      split at read
      · cases read
      split at read
      · rename_i third
        split at read
        · cases read
        split at read
        · rename_i fourth
          obtain ⟨rfl, rfl⟩ := Item.char.inj read
          exact .four low (UInt8.lt_iff_toNat_lt.1 four) second third fourth
        · cases read
      · cases read
    · cases read
  · cases read

/-- An octet that is read as a character with some of those behind it is the first of that
character's octets, and these are the others. -/
theorem Starts.utf8EncodeChar_eq {b : UInt8} {rest : List UInt8} {c : Char} {extra : Nat}
    (starts : Starts b rest c extra) :
    String.utf8EncodeChar c ++ rest.drop extra = b :: rest := by
  have bound : b.toNat < 256 := b.toNat_lt
  cases starts with
  | one high =>
      rw [utf8EncodeChar_ofNat (by omega), if_pos (by omega), UInt8.ofNat_toNat]
      rfl
  | @two b₂ rest low high second =>
      have range := range_of_isContinuation second
      rw [payload, utf8EncodeChar_ofNat (by omega), if_neg (by omega), if_pos (by omega),
        ofNat_eq_of_toNat_eq (b := b) (by omega), ofNat_eq_of_toNat_eq (b := b₂) (by omega)]
      rfl
  | @three b₂ b₃ rest low high second third =>
      obtain ⟨range, long, noSurrogate⟩ := range_of_secondOfThree second
      have range' := range_of_isContinuation third
      rw [payload, payload, utf8EncodeChar_ofNat (by omega), if_neg (by omega), if_neg (by omega),
        if_pos (by omega), ofNat_eq_of_toNat_eq (b := b) (by omega),
        ofNat_eq_of_toNat_eq (b := b₂) (by omega), ofNat_eq_of_toNat_eq (b := b₃) (by omega)]
      rfl
  | @four b₂ b₃ b₄ rest low high second third fourth =>
      obtain ⟨range, long, inRange⟩ := range_of_secondOfFour second
      have range' := range_of_isContinuation third
      have range'' := range_of_isContinuation fourth
      rw [payload, payload, payload, utf8EncodeChar_ofNat (by omega), if_neg (by omega),
        if_neg (by omega), if_neg (by omega), ofNat_eq_of_toNat_eq (b := b) (by omega),
        ofNat_eq_of_toNat_eq (b := b₂) (by omega), ofNat_eq_of_toNat_eq (b := b₃) (by omega),
        ofNat_eq_of_toNat_eq (b := b₄) (by omega)]
      rfl

/-- Octets that can be read are those of the text that is read. -/
theorem encode_of_collect {octets : List UInt8} {start : Nat} {origin : List UInt8}
    {text : List Char} (read : collect start origin (items octets) = .ok text) :
    encode text = octets := by
  induction octets using items.induct generalizing start origin text with
  | case1 =>
      rw [items, collect] at read
      rw [← Except.ok.inj read]
      rfl
  | case2 b rest =>
      rename_i item ih
      have kind : itemAt b rest = item := rfl
      clear_value item
      rw [items, kind] at read
      cases item with
      | fault fault extra => cases read
      | char c extra =>
          rw [collect] at read
          cases later : collect (start + extra + 1) (origin.drop (extra + 1))
              (items (rest.drop ((Item.char c extra).width - 1))) with
          | error fault => simp [later, Except.map] at read
          | ok more =>
              simp only [later, Except.map, Except.ok.injEq] at read
              have others : encode more = rest.drop extra := ih later
              rw [← read, encode, List.flatMap_cons, ← encode, others]
              exact (starts_of_itemAt kind).utf8EncodeChar_eq

theorem collect_encode (text : List Char) (start : Nat) (origin : List UInt8) :
    collect start origin (items (encode text)) = .ok text := by
  induction text generalizing start origin with
  | nil =>
      rw [encode, List.flatMap_nil, items, collect]
  | cons c more ih =>
      obtain ⟨extra, read⟩ := items_encodeChar c (encode more)
      have split : encode (c :: more) = String.utf8EncodeChar c ++ encode more := rfl
      rw [split, read, collect, ih]
      rfl

/-- Strict reading is the other direction of writing. -/
theorem decode_eq_ok_iff {octets : List UInt8} {text : List Char} :
    decode octets = .ok text ↔ encode text = octets := by
  constructor
  · exact encode_of_collect
  · rintro rfl
    exact collect_encode text 0 _

end LintBridge.Text.Utf8
