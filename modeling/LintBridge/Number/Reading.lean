import LintBridge.Number.Binary64
import LintBridge.Text.Blank
import LintBridge.Text.Digit

/-!
Numbers read from text.

The common form is an optional sign and one of: digits with an optional point and an optional
exponent, with a digit before or behind the point; the word for an infinity in its short or long
spelling; the word for no number. `ofPlain?` accepts exactly this form. Two wider forms build on it:
`ofLocal?` takes the digits of every script and single underscores between digits, and `ofLoose?`
takes space around the number, or underscores that are neither doubled nor at the ends.
-/
set_option autoImplicit false

namespace LintBridge.Binary64

def digitsValue (digits : List Char) : Nat :=
  digits.foldl (fun n c => n * 10 + (c.toNat - 48)) 0

/-- The exponent written behind the digits of a number, or none if the text is something else. -/
def exponent? : List Char → Option Int
  | [] => some 0
  | mark :: rest =>
    if mark == 'e' || mark == 'E' then
      let (negative, digits) :=
        match rest with
        | '-' :: digits => (true, digits)
        | '+' :: digits => (false, digits)
        | digits => (false, digits)
      if digits.isEmpty || !digits.all Char.isDigit then none
      else
        let value : Int := digitsValue digits
        some (if negative then -value else value)
    else none

def unsigned? (negative : Bool) (text : List Char) : Option Binary64 :=
  let whole := text.takeWhile Char.isDigit
  let behind := text.dropWhile Char.isDigit
  let (fraction, tail) :=
    match behind with
    | '.' :: rest => (rest.takeWhile Char.isDigit, rest.dropWhile Char.isDigit)
    | rest => ([], rest)
  if whole.isEmpty && fraction.isEmpty then none
  else
    (exponent? tail).map fun e =>
      ofDecimal negative (digitsValue (whole ++ fraction)) (e - fraction.length)

/-- A number in the common form. -/
def ofPlain? (text : List Char) : Option Binary64 :=
  let (negative, rest) :=
    match text with
    | '-' :: rest => (true, rest)
    | '+' :: rest => (false, rest)
    | rest => (false, rest)
  let word := rest.map Char.toLower
  if word == "inf".toList || word == "infinity".toList then some (infinity negative)
  else if word == "nan".toList then some notANumber
  else unsigned? negative rest

/-- The text without its underscores, if each stands between two ASCII digits. -/
def joinDigits? (before : Char) : List Char → Option (List Char)
  | [] => if before == '_' then none else some []
  | c :: rest =>
    if c == '_' then
      if before.isDigit then joinDigits? c rest else none
    else if before == '_' && !c.isDigit then none
    else (joinDigits? c rest).map (c :: ·)

/-- A digit of any script as the ASCII digit of its value; any other character unchanged. -/
def asciiDigit (c : Char) : Char :=
  match Text.digitValue? c with
  | some n => Char.ofNat (48 + n)
  | none => c

/-- A number whose digits may be of any script, with single underscores between digits. -/
def ofLocal? (text : List Char) : Option Binary64 :=
  (joinDigits? ' ' (text.map asciiDigit)).bind ofPlain?

/-- Blank characters other than the separators with codes 28 to 31. -/
def isSpace (c : Char) : Bool := Text.isBlank c && !(28 ≤ c.toNat && c.toNat ≤ 31)

def hasDoubleUnderscore : List Char → Bool
  | [] => false
  | c :: rest => (c == '_' && rest.head? == some '_') || hasDoubleUnderscore rest

/-- A number with space around it, or with underscores inside that are not doubled. -/
def ofLoose? (text : List Char) : Option Binary64 :=
  let inner := ((text.dropWhile isSpace).reverse.dropWhile isSpace).reverse
  match ofPlain? inner with
  | some x => some x
  | none =>
    if text.head? == some '_' || text.getLast? == some '_' || hasDoubleUnderscore text then none
    else ofPlain? (text.filter (· != '_'))

example : (ofLocal? "1_0.5e-1".toList).map showTenths = some "1.1" := by decide +kernel
example : (ofLocal? "1__0".toList).isNone = true := by decide +kernel

end LintBridge.Binary64
