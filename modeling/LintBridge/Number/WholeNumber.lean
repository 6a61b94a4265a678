import LintBridge.Number.Reading

/-!
Integers read from text and from other numbers.

The text of an integer may have space around it, a sign, zeros in front, single underscores between
its digits, and a point with nothing but zeros behind it. Behind a minus there are no zeros in
front. Of the other numbers those are integers that have no fraction, up to a bound.
-/
set_option autoImplicit false

namespace LintBridge.WholeNumber

inductive Fault where
  | malformed
  | tooGreat
  | fraction
  | infinite
  deriving DecidableEq, Repr

/-- The digits of an integer without the zeros in front, where `previous` is the zero or underscore
before the text. One zero is kept if nothing is behind the zeros, or a point. -/
def dropZeros? (previous : Char) : List Char → Option (List Char)
  | [] => some [previous]
  | c :: rest =>
    if c == '0' then dropZeros? c rest
    else if c == '_' then if previous == '_' then none else dropZeros? c rest
    else if c == '.' then some (previous :: c :: rest)
    else if c.isDigit then some (c :: rest)
    else none

/-- The text of an integer without a plus in front and without the zeros behind it. -/
def dropStart? : List Char → Option (List Char)
  | '+' :: '-' :: _ => none
  | '+' :: '0' :: rest => dropZeros? '0' rest
  | '0' :: rest => dropZeros? '0' rest
  | '+' :: rest => some rest
  | text => some text

/-- The text without a point that has nothing but zeros behind it. -/
def dropFraction (text : List Char) : List Char :=
  let whole := text.takeWhile (· != '.')
  if ((text.drop whole.length).drop 1).all (· == '0') then whole else text

/-- The text without its underscores, unless one is at an end or two stand side by side. -/
def dropUnderscores (text : List Char) : List Char :=
  if text.head? == some '_' || text.getLast? == some '_' || Binary64.hasDoubleUnderscore text then
    text
  else text.filter (· != '_')

def ofDigits (negative : Bool) (digits : List Char) : Except Fault Int :=
  if digits.isEmpty || !digits.all Char.isDigit then .error .malformed
  else if digits.head? == some '0' && 1 < digits.length then .error .malformed
  else if maxIntegerDigits < digits.length then .error .tooGreat
  else
    let n : Int := Binary64.digitsValue digits
    .ok (if negative then -n else n)

def ofText (text : List Char) : Except Fault Int :=
  let inner := ((text.dropWhile Binary64.isSpace).reverse.dropWhile Binary64.isSpace).reverse
  match dropStart? inner with
  | none => .error .malformed
  | some body =>
    match dropUnderscores (dropFraction body) with
    | '-' :: digits => ofDigits true digits
    | digits => ofDigits false digits

def bound : Int := 0x8000000000000000

def ofBinary64 (x : Binary64) : Except Fault Int :=
  if !x.isFinite then .error .infinite
  else
    let (significand, e) := x.parts
    let scaled := significand * twoTo e.toNat
    let scale := twoTo (-e).toNat
    if scaled % scale != 0 then .error .fraction
    else
      let n : Int := (scaled / scale : Nat)
      if bound ≤ n then .error .tooGreat else .ok (if x.negative then -n else n)

example : (ofText " +0_1_0.00 ".toList).toOption = some 10 := by decide +kernel
example : (ofText "-01".toList).toOption = none := by decide +kernel
example : (ofBinary64 (Binary64.ofDecimal true 30 (-1))).toOption = some (-3) := by decide +kernel

end LintBridge.WholeNumber
