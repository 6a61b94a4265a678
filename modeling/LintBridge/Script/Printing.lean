import LintBridge.Text.Utf8

/-!
The text that scripts print: escapes behind backslashes, and formats with conversions.

A backslash before one of ten letters and marks stands for a control character or itself, and before
up to three octal digits for the octet with that number. Where a text is an argument, a zero in
front of the octal digits does not count as one, and the letter `c` ends all printing. A format is
used again for as long as arguments are left.
-/
set_option autoImplicit false

namespace LintBridge.Script

/-- The octet that a letter stands for behind a backslash. -/
def escapeOf? : Char → Option UInt8
  | '\\' => some 92
  | 'a' => some 7
  | 'b' => some 8
  | 'e' => some 27
  | 'f' => some 12
  | 'n' => some 10
  | 'r' => some 13
  | 't' => some 9
  | 'v' => some 11
  | _ => none

def isOctal (c : Char) : Bool := '0' ≤ c && c ≤ '7'

/-- The octal digits that a text starts with, three at most. -/
def octalDigits (text : List Char) : List Char := (text.take 3).takeWhile isOctal

def octalOctet (digits : List Char) : UInt8 :=
  UInt8.ofNat (digits.foldl (fun n c => n * 8 + (c.toNat - 48)) 0)

theorem octalDigits_length (text : List Char) : (octalDigits text).length ≤ text.length := by
  have h := (List.takeWhile_sublist (p := isOctal) (l := text.take 3)).length_le
  simp only [octalDigits, List.length_take] at *
  omega

/-- The octet that the text behind a backslash stands for, and the number of characters that it
takes. -/
def escape (text : List Char) : UInt8 × Nat :=
  match text with
  | [] => (92, 0)
  | c :: rest =>
    match escapeOf? c with
    | some octet => (octet, 1)
    | none =>
      let digits := octalDigits (c :: rest)
      if digits.isEmpty then (92, 0) else (octalOctet digits, digits.length)

/-- The octets of an argument with its escapes, and whether printing goes on behind it. -/
def unescape : List Char → List UInt8 × Bool
  | [] => ([], true)
  | c :: rest =>
    if c != '\\' then
      let (octets, goesOn) := unescape rest
      (String.utf8EncodeChar c ++ octets, goesOn)
    else if rest.head?.isEqSome 'c' then ([], false)
    else
      let body := if rest.head?.isEqSome '0' && (rest.drop 1).head?.any isOctal then rest.drop 1
        else rest
      let (octet, width) := escape body
      let (octets, goesOn) := unescape (body.drop width)
      (octet :: octets, goesOn)
termination_by text => text.length
decreasing_by
  · simp
  · simp only [List.length_drop]
    split <;> simp only [List.length_drop, List.length_cons] <;> omega

def octetsOf (text : String) : List UInt8 := Text.Utf8.encode text.toList

structure Pass where
  octets : List UInt8
  /-- The arguments that are left. -/
  arguments : List String
  goesOn : Bool

def Pass.prepend (octets : List UInt8) (p : Pass) : Pass := { p with octets := octets ++ p.octets }

def formatOnce (arguments : List String) : List Char → Pass
  | [] => ⟨[], arguments, true⟩
  | '%' :: '%' :: rest => (formatOnce arguments rest).prepend [37]
  | '%' :: 's' :: rest =>
    (formatOnce (arguments.drop 1) rest).prepend (octetsOf (arguments.headD ""))
  | '%' :: 'd' :: rest =>
    (formatOnce (arguments.drop 1) rest).prepend (octetsOf (arguments.headD "0"))
  | '%' :: 'b' :: rest =>
    let (octets, goesOn) := unescape (arguments.headD "").toList
    if goesOn then (formatOnce (arguments.drop 1) rest).prepend octets
    else ⟨octets, arguments.drop 1, false⟩
  | c :: rest =>
    if c != '\\' then (formatOnce arguments rest).prepend (String.utf8EncodeChar c)
    else
      let (octet, width) := escape rest
      (formatOnce arguments (rest.drop width)).prepend [octet]
termination_by text => text.length
decreasing_by
  all_goals simp only [List.length_drop, List.length_cons]
  all_goals omega

/-- What a format with arguments prints. A format without conversions is used once; `passes` bounds
the number of passes. -/
def formatAll (format : List Char) : Nat → List String → List UInt8
  | 0, _ => []
  | passes + 1, arguments =>
    let pass := formatOnce arguments format
    if !pass.goesOn || pass.arguments.isEmpty || pass.arguments.length = arguments.length then
      pass.octets
    else pass.octets ++ formatAll format passes pass.arguments

def format (text : String) (arguments : List String) : List UInt8 :=
  formatAll text.toList (arguments.length + 1) arguments

def echo (arguments : List String) : List UInt8 :=
  let (lineEnd, arguments) :=
    match arguments with
    | "-n" :: rest => ([], rest)
    | all => ([(10 : UInt8)], all)
  let (octets, goesOn) := unescape (" ".intercalate arguments).toList
  if goesOn then octets ++ lineEnd else octets

/-- Whether an argument is made of the letters that are options of a line. -/
def isLineOption (argument : String) : Bool :=
  match argument.toList with
  | '-' :: letters => !letters.isEmpty && letters.all ['n', 'e', 'E'].contains
  | _ => false

/-- What a line of arguments prints if any number of options stand in front: without `n` it ends
with a line end, and of `e` and `E` the last says whether there are escapes. -/
def echoWithOptions (arguments : List String) : List UInt8 :=
  let letters := ((arguments.takeWhile isLineOption).map String.toList).flatten
  let rest := " ".intercalate (arguments.dropWhile isLineOption)
  let hasEscapes := (letters.filter (· != 'n')).getLast? == some 'e'
  let (octets, goesOn) := if hasEscapes then unescape rest.toList else (octetsOf rest, true)
  if goesOn && !letters.contains 'n' then octets ++ [10] else octets

end LintBridge.Script
