import LintBridge.Number.Binary64
import Mathlib

/-!
# Where rounding leaves the numbers

A quotient that is rounded to the format ends as an infinity exactly if it reaches the midpoint
behind the greatest number, and as zero exactly if it does not pass the midpoint in front of the
least one. The same holds of digits times a power of ten (`ofDecimal_isFinite_iff`,
`ofDecimal_isBelowZero_iff`), including exponents that are decided without the power.
-/
set_option autoImplicit false

namespace LintBridge

/-! ## Rounding to a natural number -/

/-- What is rounded to a number or less lies up to halfway behind it, and halfway only if the number
is even. -/
theorem roundQuotient_le_iff {num den : Nat} (positive : 0 < den) (n : Nat) :
    roundQuotient num den ≤ n ↔
      2 * num < (2 * n + 1) * den ∨ 2 * num = (2 * n + 1) * den ∧ n % 2 = 0 := by
  have whole : den * (num / den) + num % den = num := Nat.div_add_mod num den
  have part : num % den < den := Nat.mod_lt num positive
  have midpoint : (2 * n + 1) * den = 2 * (den * n) + den := by ring
  rw [roundQuotient, midpoint]
  generalize num / den = q at *
  generalize num % den = r at *
  subst whole
  rcases Nat.lt_trichotomy n q with less | rfl | greater
  · have product : den * n + den ≤ den * q := Nat.mul_le_mul_left den less
    refine iff_of_false ?_ (by omega)
    split_ifs <;> omega
  · split_ifs <;> omega
  · have product : den * q + den ≤ den * n := Nat.mul_le_mul_left den greater
    refine iff_of_true ?_ (by omega)
    split_ifs <;> omega

namespace Binary64

/-- The midpoint behind the greatest number. -/
def overflowBound : ℚ := 2 ^ (1024 : ℤ) - 2 ^ (970 : ℤ)

/-- The midpoint in front of the least number above zero. -/
def underflowBound : ℚ := 2 ^ (-1075 : ℤ)

theorem twoTo_eq (n : Nat) : ((twoTo n : Nat) : ℚ) = 2 ^ n := by
  rw [twoTo, Nat.pow_eq, Nat.cast_pow, Nat.cast_ofNat]

/-- A power with an exponent of any sign, as a quotient one side of which is one. -/
theorem zpow_eq_div (b : ℚ) (k : ℤ) : b ^ k = b ^ k.toNat / b ^ (-k).toNat := by
  rcases Int.le_total 0 k with up | down
  · obtain ⟨n, rfl⟩ := Int.eq_ofNat_of_zero_le up
    simp
  · obtain ⟨n, same⟩ := Int.eq_ofNat_of_zero_le (Int.neg_nonneg.2 down)
    obtain rfl : k = -(n : ℤ) := by omega
    simp

/-- The quotient that is rounded, with the exponent taken out. -/
theorem scaled_eq (num den : Nat) (e : ℤ) :
    ((num * twoTo (-e).toNat : Nat) : ℚ) / (den * twoTo e.toNat : Nat) =
      (num : ℚ) / den / 2 ^ e := by
  rw [Nat.cast_mul, Nat.cast_mul, twoTo_eq, twoTo_eq, zpow_eq_div]
  field_simp

section

variable {num den : Nat}

/-- Where a quotient lies that is rounded to a number of units or less. -/
theorem roundQuotient_scaled_le_iff (positive : 0 < den) (e : ℤ) (n : Nat) :
    roundQuotient (num * twoTo (-e).toNat) (den * twoTo e.toNat) ≤ n ↔
      (num : ℚ) / den < (n + 1 / 2) * 2 ^ e ∨
        (num : ℚ) / den = (n + 1 / 2) * 2 ^ e ∧ n % 2 = 0 := by
  have scale : 0 < den * twoTo e.toNat := Nat.mul_pos positive (Nat.pow_pos (by decide))
  have scale' : (0 : ℚ) < (den * twoTo e.toNat : Nat) := Nat.cast_pos.2 scale
  have power : (0 : ℚ) < 2 ^ e := zpow_pos two_pos e
  rw [roundQuotient_le_iff scale, ← div_lt_iff₀ power, ← div_eq_iff power.ne', ← scaled_eq,
    div_lt_iff₀ scale', div_eq_iff scale'.ne']
  generalize num * twoTo (-e).toNat = a
  generalize den * twoTo e.toNat = b
  have less : 2 * a < (2 * n + 1) * b ↔ (a : ℚ) < (n + 1 / 2) * b := by
    rw [← Nat.cast_lt (α := ℚ)]
    push_cast
    constructor <;> intro h <;> linarith
  have same : 2 * a = (2 * n + 1) * b ↔ (a : ℚ) = (n + 1 / 2) * b := by
    rw [← Nat.cast_inj (R := ℚ)]
    push_cast
    constructor <;> intro h <;> linarith
  rw [less, same]

theorem scaled_lt_iff (positive : 0 < den) (k : ℤ) :
    num * twoTo (-k).toNat < den * twoTo k.toNat ↔ (num : ℚ) / den < 2 ^ k := by
  have scale : 0 < den * twoTo k.toNat := Nat.mul_pos positive (Nat.pow_pos (by decide))
  have scale' : (0 : ℚ) < (den * twoTo k.toNat : Nat) := Nat.cast_pos.2 scale
  have power : (0 : ℚ) < 2 ^ k := zpow_pos two_pos k
  rw [← Nat.cast_lt (α := ℚ), ← div_lt_one₀ scale', scaled_eq, div_lt_one₀ power]

/-- The powers of two that a quotient lies between. -/
theorem floorLog2_bounds (hn : 0 < num) (hd : 0 < den) :
    (2 : ℚ) ^ floorLog2 num den ≤ num / den ∧
      (num : ℚ) / den < 2 ^ (floorLog2 num den + 1) := by
  have positive : (0 : ℚ) < den := Nat.cast_pos.2 hd
  have numBounds : (2 : ℚ) ^ num.log2 ≤ num ∧ (num : ℚ) < 2 ^ (num.log2 + 1) :=
    ⟨mod_cast Nat.log2_self_le hn.ne', mod_cast Nat.lt_log2_self⟩
  have denBounds : (2 : ℚ) ^ den.log2 ≤ den ∧ (den : ℚ) < 2 ^ (den.log2 + 1) :=
    ⟨mod_cast Nat.log2_self_le hd.ne', mod_cast Nat.lt_log2_self⟩
  have lower : (2 : ℚ) ^ ((num.log2 : ℤ) - den.log2 - 1) ≤ num / den := by
    rw [sub_sub, zpow_sub₀ two_ne_zero, zpow_natCast, ← Nat.cast_succ, zpow_natCast]
    gcongr
    · exact numBounds.1
    · exact denBounds.2.le
  have upper : (num : ℚ) / den < 2 ^ ((num.log2 : ℤ) - den.log2 + 1) := by
    rw [sub_add_eq_add_sub, zpow_sub₀ two_ne_zero, zpow_natCast, ← Nat.cast_succ, zpow_natCast]
    calc (num : ℚ) / den < 2 ^ (num.log2 + 1) / den := by gcongr; exact numBounds.2
      _ ≤ 2 ^ (num.log2 + 1) / 2 ^ den.log2 := by gcongr; exact denBounds.1
  rw [floorLog2]
  split
  · rename_i less
    rw [sub_add_cancel]
    exact ⟨lower, (scaled_lt_iff hd _).1 less⟩
  · rename_i reaches
    exact ⟨le_of_not_gt fun less => reaches ((scaled_lt_iff hd _).2 less), upper⟩

/-- The significand of a quotient with 53 binary digits in front of the point. -/
theorem significand_bounds (hd : 0 < den) {k : ℤ} (lower : (2 : ℚ) ^ k ≤ num / den)
    (upper : (num : ℚ) / den < 2 ^ (k + 1)) :
    let s := roundQuotient (num * twoTo (-(k - 52)).toNat) (den * twoTo (k - 52).toNat)
    2 ^ 52 ≤ s ∧ s ≤ 2 ^ 53 := by
  intro s
  have power : (0 : ℚ) < 2 ^ (k - 52) := zpow_pos two_pos _
  have lower' : (2 : ℚ) ^ 52 * 2 ^ (k - 52) ≤ num / den := by
    rw [← zpow_natCast, ← zpow_add₀ two_ne_zero, Nat.cast_ofNat, add_sub_cancel]
    exact lower
  have upper' : (num : ℚ) / den < 2 ^ 53 * 2 ^ (k - 52) := by
    have next : k + 1 = (53 : ℕ) + (k - 52) := by omega
    rw [next, zpow_add₀ two_ne_zero, zpow_natCast] at upper
    exact upper
  constructor
  · by_contra less
    have most : s ≤ 2 ^ 52 - 1 := by omega
    rcases (roundQuotient_scaled_le_iff hd _ _).1 most with below | ⟨half, -⟩
    · norm_num at below lower'
      linarith
    · norm_num at half lower'
      linarith
  · refine (roundQuotient_scaled_le_iff hd _ _).2 (.inl ?_)
    push_cast
    linarith

/-- The significand of a quotient below the least normal number. -/
theorem significand_le_of_small (hd : 0 < den) (small : (num : ℚ) / den < 2 ^ (-1022 : ℤ)) :
    roundQuotient (num * twoTo (-(-1074) : ℤ).toNat) (den * twoTo (-1074 : ℤ).toNat) ≤ 2 ^ 52 := by
  have power : (0 : ℚ) < 2 ^ (-1074 : ℤ) := zpow_pos two_pos _
  have exponent : (-1022 : ℤ) = (52 : ℕ) + (-1074) := by norm_num
  rw [exponent, zpow_add₀ two_ne_zero, zpow_natCast] at small
  refine (roundQuotient_scaled_le_iff hd _ _).2 (.inl (small.trans ?_))
  rw [Nat.cast_pow, Nat.cast_ofNat]
  exact mul_lt_mul_of_pos_right (lt_add_of_pos_right _ one_half_pos) power

theorem significand_lt_iff (hd : 0 < den) :
    roundQuotient (num * twoTo (-(1023 - 52) : ℤ).toNat) (den * twoTo (1023 - 52 : ℤ).toNat) <
      2 ^ 53 ↔ (num : ℚ) / den < overflowBound := by
  have bound : (((2 ^ 53 - 1 : Nat) : ℚ) + 1 / 2) * 2 ^ (1023 - 52 : ℤ) = overflowBound := by
    have unit : (1023 - 52 : ℤ) = 971 := rfl
    have high : (2 : ℚ) ^ (1024 : ℤ) = 2 ^ 53 * 2 ^ (971 : ℤ) := by
      rw [← zpow_natCast, ← zpow_add₀ two_ne_zero]
      rfl
    have low : (2 : ℚ) ^ (971 : ℤ) = 2 ^ (970 : ℤ) * 2 := zpow_add_one₀ two_ne_zero 970
    have whole : ((2 ^ 53 - 1 : Nat) : ℚ) = 2 ^ 53 - 1 := by norm_num
    rw [overflowBound, unit, whole, high, low]
    ring
  have odd : ¬ (2 ^ 53 - 1) % 2 = 0 := by decide
  have least : ∀ s : Nat, s < 2 ^ 53 ↔ s ≤ 2 ^ 53 - 1 := fun s => by omega
  rw [least, roundQuotient_scaled_le_iff hd, bound]
  exact or_iff_left fun half => odd half.2

theorem significand_pos_iff (hd : 0 < den) :
    0 < roundQuotient (num * twoTo (-(-1074) : ℤ).toNat) (den * twoTo (-1074 : ℤ).toNat) ↔
      underflowBound < (num : ℚ) / den := by
  have bound : (((0 : Nat) : ℚ) + 1 / 2) * 2 ^ (-1074 : ℤ) = underflowBound := by
    have next : (-1074 : ℤ) = -1075 + 1 := by norm_num
    rw [underflowBound, next, zpow_add_one₀ two_ne_zero]
    ring
  rw [← not_le, ← not_le, not_iff_not, roundQuotient_scaled_le_iff hd, bound, le_iff_lt_or_eq]
  simp

theorem zpow_le_overflowBound {k : ℤ} (small : k ≤ 1023) : (2 : ℚ) ^ k ≤ overflowBound := by
  have double : (2 : ℚ) ^ (1024 : ℤ) = 2 ^ (1023 : ℤ) * 2 := zpow_add_one₀ two_ne_zero 1023
  have half : (2 : ℚ) ^ (970 : ℤ) ≤ 2 ^ (1023 : ℤ) := zpow_le_zpow_right₀ one_le_two (by decide)
  have below : (2 : ℚ) ^ k ≤ 2 ^ (1023 : ℤ) := zpow_le_zpow_right₀ one_le_two small
  rw [overflowBound, le_sub_iff_add_le]
  calc (2 : ℚ) ^ k + 2 ^ (970 : ℤ) ≤ 2 ^ (1023 : ℤ) + 2 ^ (1023 : ℤ) := add_le_add below half
    _ = 2 ^ (1024 : ℤ) := by rw [double, mul_two]

theorem underflowBound_lt_overflowBound : underflowBound < overflowBound :=
  (zpow_lt_zpow_right₀ one_lt_two (by decide)).trans_le (zpow_le_overflowBound (le_refl 1023))

theorem overflowBound_lt_zpow {k : ℤ} (great : 1024 ≤ k) : overflowBound < (2 : ℚ) ^ k := by
  have positive : (0 : ℚ) < 2 ^ (970 : ℤ) := zpow_pos two_pos _
  have above : (2 : ℚ) ^ (1024 : ℤ) ≤ 2 ^ k := zpow_le_zpow_right₀ one_le_two great
  exact (sub_lt_self _ positive).trans_le above

/-- The bounds of the format for a positive quotient: it is rounded to an infinity or to zero
exactly where it lies beyond them. -/
theorem ofRatio_spec (negative : Bool) (hn : 0 < num) (hd : 0 < den) :
    ∃ magnitude, ofRatio negative num den = ⟨negative, min infinityMagnitude magnitude⟩ ∧
      (magnitude < infinityMagnitude ↔ (num : ℚ) / den < overflowBound) ∧
      (0 < magnitude ↔ underflowBound < (num : ℚ) / den) := by
  obtain ⟨lower, upper⟩ := floorLog2_bounds hn hd
  rw [ofRatio, if_neg hn.ne']
  refine ⟨_, rfl, ?_⟩
  have fractions : twoTo 52 = 2 ^ 52 := rfl
  have top : infinityMagnitude = 2047 * 2 ^ 52 := rfl
  generalize floorLog2 num den = k at *
  rw [fractions, top]
  -- Below the least normal number the exponent does not fall any further.
  rcases lt_or_ge k (-1022) with small | normal
  · have exponent : max (k - 52) (-1074) = -1074 := by omega
    have below : (num : ℚ) / den < 2 ^ (-1022 : ℤ) :=
      upper.trans_le (zpow_le_zpow_right₀ one_le_two (by omega))
    have most := significand_le_of_small hd below
    have first : (-1074 + 1074 : ℤ).toNat * 2 ^ 52 = 0 := rfl
    rw [exponent, first, Nat.zero_add]
    refine ⟨iff_of_true (by omega) (below.trans_le (zpow_le_overflowBound (by decide))), ?_⟩
    exact significand_pos_iff hd
  · have exponent : max (k - 52) (-1074) = k - 52 := by omega
    obtain ⟨least, most⟩ := significand_bounds hd lower upper
    have above : underflowBound < (num : ℚ) / den :=
      lt_of_lt_of_le (zpow_lt_zpow_right₀ one_lt_two (by omega)) lower
    rw [exponent]
    refine ⟨?_, iff_of_true (by omega) above⟩
    -- At the greatest exponent the significand decides whether the carry ends as an infinity.
    rcases lt_trichotomy k 1023 with less | rfl | greater
    · exact iff_of_true (by omega) (upper.trans_le (zpow_le_overflowBound (by omega)))
    · have last : (1023 - 52 + 1074 : ℤ).toNat = 2045 := rfl
      rw [← significand_lt_iff hd, last]
      exact ⟨fun finite => by omega, fun finite => by omega⟩
    · exact iff_of_false (by omega) (((overflowBound_lt_zpow (by omega)).trans_le lower).not_gt)

end

/-! ## Digits times a power of ten -/

theorem tenTo_eq (n : Nat) : ((tenTo n : Nat) : ℚ) = 10 ^ n := by
  rw [tenTo, Nat.pow_eq, Nat.cast_pow, Nat.cast_ofNat]

theorem overflowBound_lt_of_great {exponent : ℤ} (great : 400 < exponent) {digits : Nat}
    (positive : 0 < digits) : overflowBound < digits * (10 : ℚ) ^ exponent := by
  have one : (1 : ℚ) ≤ digits := Nat.one_le_cast.2 positive
  calc overflowBound < (2 : ℚ) ^ (3 * 400 : ℤ) := overflowBound_lt_zpow (by decide)
    _ = 8 ^ (400 : ℤ) := by rw [zpow_mul]; norm_num
    _ ≤ 10 ^ (400 : ℤ) := zpow_le_zpow_left₀ (by decide) (by norm_num) (by norm_num)
    _ ≤ 10 ^ exponent := zpow_le_zpow_right₀ (by norm_num) great.le
    _ ≤ digits * 10 ^ exponent := le_mul_of_one_le_left (zpow_pos (by norm_num) _).le one

theorem lt_underflowBound_of_small {exponent : ℤ} {digits : Nat}
    (small : exponent + digits.log2 + 1 < -400) :
    digits * (10 : ℚ) ^ exponent < underflowBound := by
  have width : (digits : ℚ) < 2 ^ (digits.log2 + 1) := mod_cast Nat.lt_log2_self
  have power : (0 : ℚ) < 10 ^ exponent := zpow_pos (by norm_num) _
  calc digits * (10 : ℚ) ^ exponent < 2 ^ (digits.log2 + 1) * 10 ^ exponent :=
        mul_lt_mul_of_pos_right width power
    _ ≤ 10 ^ (digits.log2 + 1) * 10 ^ exponent := by gcongr; norm_num
    _ = 10 ^ (exponent + digits.log2 + 1) := by
        rw [← zpow_natCast, ← zpow_add₀ (by norm_num)]
        congr 1
        omega
    _ ≤ 10 ^ (-400 : ℤ) := zpow_le_zpow_right₀ (by norm_num) small.le
    _ ≤ 8 ^ (-400 : ℤ) := by
        rw [zpow_neg, zpow_neg]
        exact inv_anti₀ (zpow_pos (by norm_num) _)
          (zpow_le_zpow_left₀ (by decide) (by norm_num) (by norm_num))
    _ = 2 ^ (3 * -400 : ℤ) := by rw [zpow_mul]; norm_num
    _ < underflowBound := zpow_lt_zpow_right₀ one_lt_two (by decide)

/-- The bounds of the format for digits times a power of ten. -/
theorem ofDecimal_spec (negative : Bool) (digits : Nat) (exponent : ℤ) :
    ∃ magnitude, ofDecimal negative digits exponent =
        ⟨negative, min infinityMagnitude magnitude⟩ ∧
      (magnitude < infinityMagnitude ↔ digits * (10 : ℚ) ^ exponent < overflowBound) ∧
      (0 < magnitude ↔ underflowBound < digits * (10 : ℚ) ^ exponent) := by
  have top : 0 < infinityMagnitude := by decide
  have zeroBelow : (0 : ℚ) < underflowBound := zpow_pos two_pos _
  have apart := underflowBound_lt_overflowBound
  rw [ofDecimal]
  split_ifs with zero great small
  · refine ⟨0, rfl, ?_, ?_⟩
    · rw [zero, Nat.cast_zero, zero_mul]
      exact iff_of_true top (zeroBelow.trans apart)
    · rw [zero, Nat.cast_zero, zero_mul]
      exact iff_of_false (lt_irrefl 0) zeroBelow.not_gt
  · have beyond := overflowBound_lt_of_great great (Nat.pos_of_ne_zero zero)
    refine ⟨infinityMagnitude, ?_, ?_, ?_⟩
    · rw [min_self, infinity]
    · exact iff_of_false (lt_irrefl _) beyond.not_gt
    · exact iff_of_true top (apart.trans beyond)
  · have below := lt_underflowBound_of_small small
    refine ⟨0, rfl, ?_, ?_⟩
    · exact iff_of_true top (below.trans apart)
    · exact iff_of_false (lt_irrefl 0) below.not_gt
  · have quotient : ((digits * tenTo exponent.toNat : Nat) : ℚ) / (tenTo (-exponent).toNat : Nat) =
        digits * 10 ^ exponent := by
      rw [Nat.cast_mul, tenTo_eq, tenTo_eq, zpow_eq_div, mul_div_assoc]
    rw [← quotient]
    exact ofRatio_spec negative
      (Nat.mul_pos (Nat.pos_of_ne_zero zero) (Nat.pow_pos (by decide))) (Nat.pow_pos (by decide))

theorem ofDecimal_isFinite_iff (negative : Bool) (digits : Nat) (exponent : ℤ) :
    (ofDecimal negative digits exponent).isFinite = true ↔
      digits * (10 : ℚ) ^ exponent < overflowBound := by
  obtain ⟨magnitude, same, finite, -⟩ := ofDecimal_spec negative digits exponent
  rw [same, ← finite, isFinite, decide_eq_true_iff, min_lt_iff]
  exact or_iff_right (lt_irrefl _)

/-- What is rounded to zero does not lie below it, whatever its sign. -/
theorem ofDecimal_isBelowZero_iff (negative : Bool) (digits : Nat) (exponent : ℤ) :
    (ofDecimal negative digits exponent).isBelowZero = true ↔
      negative = true ∧ underflowBound < digits * (10 : ℚ) ^ exponent := by
  obtain ⟨magnitude, same, -, positive⟩ := ofDecimal_spec negative digits exponent
  have top : 0 < infinityMagnitude := by decide
  simp only [same, ← positive, isBelowZero, isNaN, Bool.and_eq_true, Bool.not_eq_true',
    decide_eq_true_iff, decide_eq_false_iff_not, lt_min_iff]
  exact ⟨fun ⟨⟨sign, _, above⟩, _⟩ => ⟨sign, above⟩,
    fun ⟨sign, above⟩ => ⟨⟨sign, top, above⟩, fun nan => lt_irrefl _ nan.1⟩⟩

end Binary64

end LintBridge
