import LintBridge.Json.Value
import LintBridge.Number.Reading
import LintBridge.Text.Digit

/-!
Reading JSON text.

The grammar is that of JSON with three wider rules: the words `NaN`, `Infinity` and `-Infinity` are
numbers, the last of several entries with one key wins, and a text may hold characters beyond ASCII
anywhere in a string. Control characters in strings are refused, and only space, tab, line feed and
carriage return may stand between tokens. A fault carries the place of the character it is about,
from which `ParseError` derives a line and a column.

The parser walks the characters of the text once. Its recursion is bounded by a number of steps that
starts one above the length of the text; since every step takes a character, no text exhausts it.
-/
set_option autoImplicit false

namespace LintBridge.Json

inductive Fault where
  | expectingValue
  | expectingName
  | expectingColon
  | expectingComma
  | extraData
  | unterminatedString
  | controlCharacter
  | invalidEscape
  | invalidCodeEscape
  | byteOrderMark
  /-- An integer with too many digits, of which there are `digits`. -/
  | integerTooLong (digits : Nat)
  deriving DecidableEq, Repr

/-- The rest of a text and the place of its first character in the whole. -/
structure Cursor where
  place : Nat
  rest : List Char

def Cursor.skipSpace (cur : Cursor) : Cursor :=
  let isSpace (c : Char) : Bool := c == ' ' || c == '\t' || c == '\n' || c == '\r'
  ⟨cur.place + (cur.rest.takeWhile isSpace).length, cur.rest.dropWhile isSpace⟩

def Cursor.advance (cur : Cursor) (n : Nat) : Cursor := ⟨cur.place + n, cur.rest.drop n⟩

/-- A fault and the place of the character it is about, or a value and the cursor behind it. -/
abbrev Parsed (α : Type) := Except (Fault × Nat) (α × Cursor)

/-- The code given by the first four characters of `digits`, if they are hexadecimal digits. -/
def code? : List Char → Option Nat
  | a :: b :: c :: d :: _ => do
    let a ← Text.hexValue? a
    let b ← Text.hexValue? b
    let c ← Text.hexValue? c
    let d ← Text.hexValue? d
    pure (((a * 16 + b) * 16 + c) * 16 + d)
  | _ => none

def isHighSurrogate (code : Nat) : Bool := 0xD800 ≤ code && code ≤ 0xDBFF

def isLowSurrogate (code : Nat) : Bool := 0xDC00 ≤ code && code ≤ 0xDFFF

/-- The character for a code; a lone surrogate becomes the replacement character. -/
def charOfCode (code : Nat) : Char :=
  if 0xD800 ≤ code && code ≤ 0xDFFF then Char.ofNat 0xFFFD else Char.ofNat code

def escaped? (c : Char) : Option Char :=
  match c with
  | '"' => some '"'
  | '\\' => some '\\'
  | '/' => some '/'
  | 'b' => some (Char.ofNat 8)
  | 'f' => some (Char.ofNat 12)
  | 'n' => some '\n'
  | 'r' => some '\r'
  | 't' => some '\t'
  | _ => none

/-- An escape by code: `behind` is what follows the letter `u`, which stands at `place`. The result
is the character and the number of characters taken behind the letter. Four digits count only if the
text goes on behind them. -/
def codeEscape (place : Nat) (behind : List Char) : Except (Fault × Nat) (Char × Nat) :=
  if behind.length ≤ 4 then .error (.invalidCodeEscape, place)
  else
    match code? behind with
    | none => .error (.invalidCodeEscape, place)
    | some high =>
      match behind.drop 4 with
      | '\\' :: 'u' :: second =>
        if isHighSurrogate high && 4 < second.length then
          match code? second with
          | none => .error (.invalidCodeEscape, place + 6)
          | some low =>
            if isLowSurrogate low then
              .ok (Char.ofNat (0x10000 + (high - 0xD800) * 0x400 + (low - 0xDC00)), 10)
            else .ok (charOfCode high, 4)
        else .ok (charOfCode high, 4)
      | _ => .ok (charOfCode high, 4)

/-- The rest of a string whose opening quote stands at `opening`. `taken` holds the characters so
far, the last one first. -/
def stringBody (opening : Nat) : Nat → List Char → Cursor → Parsed String
  | 0, _, _ => .error (.unterminatedString, opening)
  | steps + 1, taken, ⟨place, rest⟩ =>
    match rest with
    | [] => .error (.unterminatedString, opening)
    | '"' :: behind => .ok (String.ofList taken.reverse, ⟨place + 1, behind⟩)
    | '\\' :: [] => .error (.unterminatedString, opening)
    | '\\' :: 'u' :: behind =>
      match codeEscape (place + 1) behind with
      | .error e => .error e
      | .ok (c, n) => stringBody opening steps (c :: taken) ⟨place + 2 + n, behind.drop n⟩
    | '\\' :: letter :: behind =>
      match escaped? letter with
      | some c => stringBody opening steps (c :: taken) ⟨place + 2, behind⟩
      | none => .error (.invalidEscape, place)
    | c :: behind =>
      if c.toNat < 0x20 then .error (.controlCharacter, place)
      else stringBody opening steps (c :: taken) ⟨place + 1, behind⟩

def string (cur : Cursor) : Parsed String :=
  stringBody cur.place (cur.rest.length + 1) [] (cur.advance 1)

/-- The fraction of a numeral: a point and at least one digit, else nothing. -/
def fractionPart : List Char → List Char
  | '.' :: rest =>
    let digits := rest.takeWhile Char.isDigit
    if digits.isEmpty then [] else '.' :: digits
  | _ => []

/-- The exponent of a numeral: its mark, an optional sign and at least one digit, else nothing. -/
def exponentPart : List Char → List Char
  | mark :: rest =>
    if mark == 'e' || mark == 'E' then
      let (sign, behind) :=
        match rest with
        | '+' :: behind => (['+'], behind)
        | '-' :: behind => (['-'], behind)
        | behind => ([], behind)
      let digits := behind.takeWhile Char.isDigit
      if digits.isEmpty then [] else mark :: sign ++ digits
    else []
  | [] => []

/-- The whole part of a numeral without its sign: a lone zero, or digits that start with another. -/
def wholePart : List Char → List Char
  | '0' :: _ => ['0']
  | rest => rest.takeWhile Char.isDigit

/-- A numeral in digits; `negative` tells whether a minus sign, already taken, stands before it. The
fault of a missing digit is about the place `start`. -/
def numeral (start : Nat) (negative : Bool) (cur : Cursor) : Parsed Json :=
  let whole := wholePart cur.rest
  if whole.isEmpty then .error (.expectingValue, start)
  else
    let fraction := fractionPart (cur.rest.drop whole.length)
    let exponent := exponentPart (cur.rest.drop (whole.length + fraction.length))
    let cur := cur.advance (whole.length + fraction.length + exponent.length)
    if fraction.isEmpty && exponent.isEmpty then
      if maxIntegerDigits < whole.length then .error (.integerTooLong whole.length, start)
      else
        let value : Int := Binary64.digitsValue whole
        .ok (.int (if negative then -value else value), cur)
    else
      let value := (Binary64.unsigned? negative (whole ++ fraction ++ exponent)).getD
        Binary64.notANumber
      .ok (.float value, cur)

/-- A value that starts with none of the marks of a string, an array or an object. -/
def scalar (cur : Cursor) : Parsed Json :=
  if "null".toList.isPrefixOf cur.rest then .ok (.null, cur.advance 4)
  else if "true".toList.isPrefixOf cur.rest then .ok (.bool true, cur.advance 4)
  else if "false".toList.isPrefixOf cur.rest then .ok (.bool false, cur.advance 5)
  else if "NaN".toList.isPrefixOf cur.rest then .ok (.float Binary64.notANumber, cur.advance 3)
  else if "Infinity".toList.isPrefixOf cur.rest then
    .ok (.float (Binary64.infinity false), cur.advance 8)
  else if "-Infinity".toList.isPrefixOf cur.rest then
    .ok (.float (Binary64.infinity true), cur.advance 9)
  else
    match cur.rest with
    | '-' :: _ => numeral cur.place true (cur.advance 1)
    | _ => numeral cur.place false cur

mutual

/-- A value in at most `steps` steps. -/
def value : (steps : Nat) → Cursor → Parsed Json
  | 0, cur => .error (.expectingValue, cur.place)
  | steps + 1, cur =>
    match cur.rest with
    | '"' :: _ => (string cur).map fun (s, cur) => (.str s, cur)
    | '[' :: _ =>
      let cur := (cur.advance 1).skipSpace
      match cur.rest with
      | ']' :: _ => .ok (.arr [], cur.advance 1)
      | _ => (items steps [] cur).map fun (values, cur) => (.arr values, cur)
    | '{' :: _ =>
      let cur := (cur.advance 1).skipSpace
      match cur.rest with
      | '}' :: _ => .ok (.obj [], cur.advance 1)
      | _ => (entries steps [] cur).map fun (pairs, cur) => (ofEntries pairs, cur)
    | _ => scalar cur

/-- The items of an array from the next one on, with those before it in `taken`, last first. -/
def items : (steps : Nat) → List Json → Cursor → Parsed (List Json)
  | 0, _, cur => .error (.expectingValue, cur.place)
  | steps + 1, taken, cur =>
    match value steps cur with
    | .error e => .error e
    | .ok (item, cur) =>
      let cur := cur.skipSpace
      match cur.rest with
      | ']' :: _ => .ok ((item :: taken).reverse, cur.advance 1)
      | ',' :: _ => items steps (item :: taken) (cur.advance 1).skipSpace
      | _ => .error (.expectingComma, cur.place)

/-- The entries of an object from the next one on, with those before it in `taken`, last first. -/
def entries : (steps : Nat) → List (String × Json) → Cursor → Parsed (List (String × Json))
  | 0, _, cur => .error (.expectingName, cur.place)
  | steps + 1, taken, cur =>
    match cur.rest with
    | '"' :: _ =>
      match string cur with
      | .error e => .error e
      | .ok (key, cur) =>
        let cur := cur.skipSpace
        match cur.rest with
        | ':' :: _ =>
          match value steps (cur.advance 1).skipSpace with
          | .error e => .error e
          | .ok (item, cur) =>
            let cur := cur.skipSpace
            match cur.rest with
            | '}' :: _ => .ok (((key, item) :: taken).reverse, cur.advance 1)
            | ',' :: _ => entries steps ((key, item) :: taken) (cur.advance 1).skipSpace
            | _ => .error (.expectingComma, cur.place)
        | _ => .error (.expectingColon, cur.place)
    | _ => .error (.expectingName, cur.place)

end

def parseText (text : List Char) : Except (Fault × Nat) Json :=
  if text.head? == some (Char.ofNat 0xFEFF) then .error (.byteOrderMark, 0)
  else
    match value (text.length + 1) (Cursor.skipSpace ⟨0, text⟩) with
    | .error e => .error e
    | .ok (result, cur) =>
      let cur := cur.skipSpace
      if cur.rest.isEmpty then .ok result else .error (.extraData, cur.place)

/-- A fault with its place as a character offset, a line and a column. The offset counts from zero,
line and column from one, and only line feeds end lines. -/
structure ParseError where
  fault : Fault
  offset : Nat
  line : Nat
  column : Nat
  deriving Repr

def ParseError.locate (text : List Char) (fault : Fault) (offset : Nat) : ParseError :=
  let before := text.take offset
  { fault, offset
    line := before.count '\n' + 1
    column := (before.reverse.takeWhile (· != '\n')).length + 1 }

def parse (text : String) : Except ParseError Json :=
  match parseText text.toList with
  | .ok result => .ok result
  | .error (fault, offset) => .error (ParseError.locate text.toList fault offset)

def Fault.message : Fault → String
  | .expectingValue => "Expecting value"
  | .expectingName => "Expecting property name enclosed in double quotes"
  | .expectingColon => "Expecting ':' delimiter"
  | .expectingComma => "Expecting ',' delimiter"
  | .extraData => "Extra data"
  | .unterminatedString => "Unterminated string starting at"
  | .controlCharacter => "Invalid control character at"
  | .invalidEscape => "Invalid \\escape"
  | .invalidCodeEscape => "Invalid \\uXXXX escape"
  | .byteOrderMark => "Unexpected UTF-8 BOM (decode using utf-8-sig)"
  | .integerTooLong digits =>
    s!"Exceeds the limit ({maxIntegerDigits} digits) for integer string conversion: " ++
      s!"value has {digits} digits; use sys.set_int_max_str_digits() to increase the limit"

/-- Whether an error is about the size of a number and not about the grammar. -/
def ParseError.isLimit (e : ParseError) : Bool :=
  match e.fault with
  | .integerTooLong _ => true
  | _ => false

/-- The wording of an error; a number that is too long is reported without its place. -/
def ParseError.message (e : ParseError) : String :=
  if e.isLimit then e.fault.message
  else s!"{e.fault.message}: line {e.line} column {e.column} (char {e.offset})"

end LintBridge.Json
