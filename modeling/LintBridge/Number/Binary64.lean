/-!
Numbers of the 64-bit binary floating-point format, without arithmetic on machine floats.

A number is its sign and the remaining 63 bits read as a natural number, its magnitude; magnitudes
are ordered as the numbers are. `ofRatio` rounds a quotient to the nearest number, and a quotient
halfway between two goes to the one with the even significand. `tenths` rounds the exact value of a
number to one decimal place by the same rule.
-/
set_option autoImplicit false

namespace LintBridge

/-- A number of the format, an infinity, or (with any magnitude above the infinity's) no number. -/
structure Binary64 where
  negative : Bool
  magnitude : Nat
  deriving DecidableEq, Repr, Inhabited

def twoTo (exponent : Nat) : Nat := Nat.pow 2 exponent

def tenTo (exponent : Nat) : Nat := Nat.pow 10 exponent

/-- The greatest number of digits that an integer is read or written with. -/
def maxIntegerDigits : Nat := 4300

/-- The quotient rounded to the nearest natural number, from halfway to the even one. -/
def roundQuotient (num den : Nat) : Nat :=
  let q := num / den
  let r := num % den
  if 2 * r < den then q
  else if den < 2 * r then q + 1
  else if q % 2 = 0 then q else q + 1

namespace Binary64

/-- The magnitude of the infinities: an exponent field of ones and a fraction of zeros. -/
def infinityMagnitude : Nat := 0x7FF * twoTo 52

def infinity (negative : Bool) : Binary64 := ⟨negative, infinityMagnitude⟩

def notANumber : Binary64 := ⟨false, infinityMagnitude + twoTo 51⟩

def isNaN (x : Binary64) : Bool := infinityMagnitude < x.magnitude

def isFinite (x : Binary64) : Bool := x.magnitude < infinityMagnitude

/-- Whether the number lies below zero; negative zero does not. -/
def isBelowZero (x : Binary64) : Bool := x.negative && 0 < x.magnitude && !x.isNaN

def rank (x : Binary64) : Int := if x.negative then -x.magnitude else x.magnitude

/-- Whether `x` lies below `y`; no number lies below or above what is no number. -/
def below (x y : Binary64) : Bool := !x.isNaN && !y.isNaN && x.rank < y.rank

/-- The exponent of the greatest power of two that is not above a positive quotient. -/
def floorLog2 (num den : Nat) : Int :=
  let k : Int := (num.log2 : Int) - den.log2
  if num * twoTo (-k).toNat < den * twoTo k.toNat then k - 1 else k

def ofRatio (negative : Bool) (num den : Nat) : Binary64 :=
  if num = 0 then ⟨negative, 0⟩
  else
    let e := max (floorLog2 num den - 52) (-1074)
    let significand := roundQuotient (num * twoTo (-e).toNat) (den * twoTo e.toNat)
    ⟨negative, min infinityMagnitude ((e + 1074).toNat * twoTo 52 + significand)⟩

/-- The number nearest to `digits` times a power of ten. An exponent far beyond the range of the
format is decided without the power. -/
def ofDecimal (negative : Bool) (digits : Nat) (exponent : Int) : Binary64 :=
  if digits = 0 then ⟨negative, 0⟩
  else if 400 < exponent then infinity negative
  else if exponent + digits.log2 + 1 < -400 then ⟨negative, 0⟩
  else ofRatio negative (digits * tenTo exponent.toNat) (tenTo (-exponent).toNat)

def ofInt (n : Int) : Binary64 := ofRatio (n < 0) n.natAbs 1

/-- The significand and the exponent of a finite number: its absolute value is the first times two
to the power of the second. -/
def parts (x : Binary64) : Nat × Int :=
  if x.magnitude < twoTo 52 then (x.magnitude, -1074)
  else (twoTo 52 + x.magnitude % twoTo 52, (x.magnitude / twoTo 52 : Nat) - 1075)

/-- Ten times the absolute value of a finite number, rounded to a natural number. -/
def tenths (x : Binary64) : Nat :=
  let (significand, e) := x.parts
  roundQuotient (significand * 10 * twoTo e.toNat) (twoTo (-e).toNat)

/-- The thousandths in the absolute value of a finite number, rounded down. -/
def milliseconds (x : Binary64) : Nat :=
  let (significand, e) := x.parts
  significand * 1000 * twoTo e.toNat / twoTo (-e).toNat

def showTenths (x : Binary64) : String :=
  let sign := if x.negative && !x.isNaN then "-" else ""
  if x.isNaN then "nan"
  else if x.isFinite then
    let whole := x.tenths / 10
    let tenth := x.tenths % 10
    s!"{sign}{whole}.{tenth}"
  else sign ++ "inf"

end Binary64

theorem roundQuotient_error (num den : Nat) (h : 0 < den) :
    2 * num ≤ (2 * roundQuotient num den + 1) * den ∧
      2 * roundQuotient num den * den ≤ 2 * num + den := by
  have hdm : den * (num / den) + num % den = num := Nat.div_add_mod num den
  have hlt : num % den < den := Nat.mod_lt num h
  have key : roundQuotient num den * den = den * (num / den) ∧ 2 * (num % den) ≤ den ∨
      roundQuotient num den * den = den * (num / den) + den ∧ den ≤ 2 * (num % den) := by
    simp only [roundQuotient]
    split
    · exact Or.inl ⟨Nat.mul_comm _ _, by omega⟩
    · split
      · exact Or.inr ⟨by rw [Nat.add_mul, Nat.mul_comm, Nat.one_mul], by omega⟩
      · split
        · exact Or.inl ⟨Nat.mul_comm _ _, by omega⟩
        · exact Or.inr ⟨by rw [Nat.add_mul, Nat.mul_comm, Nat.one_mul], by omega⟩
  have e1 : (2 * roundQuotient num den + 1) * den = 2 * (roundQuotient num den * den) + den := by
    rw [Nat.add_mul, Nat.mul_assoc, Nat.one_mul]
  have e2 : 2 * roundQuotient num den * den = 2 * (roundQuotient num den * den) := by
    rw [Nat.mul_assoc]
  rw [e1, e2]
  omega

example : (Binary64.ofDecimal false 25 (-1)).magnitude = 0x4004000000000000 := by decide +kernel
example : (Binary64.ofDecimal false 25 (-2)).showTenths = "0.2" := by decide +kernel
example : (Binary64.ofDecimal false 5 (-2)).showTenths = "0.1" := by decide +kernel

end LintBridge
