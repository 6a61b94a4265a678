/-!
Lines of a text, for any convention about the characters that end a line.

A carriage return followed by a line feed ends one line. Every other line end is a single
character, and a text that stops with a line end has no empty line behind it.
`splitLines` follows the wide convention, in which the separators of ASCII and Unicode all end a
line; `splitHostLines` follows the convention of editors, in which only line feed and carriage
return do.
-/
set_option autoImplicit false

namespace LintBridge.Text

/-- The lines of a text without their ends, where `ends` tells which characters end a line. -/
def splitLinesBy (ends : Char → Bool) : List Char → List (List Char)
  | [] => []
  | '\r' :: '\n' :: rest => [] :: splitLinesBy ends rest
  | c :: rest =>
    if ends c then [] :: splitLinesBy ends rest
    else
      match splitLinesBy ends rest with
      | [] => [[c]]
      | line :: more => (c :: line) :: more

/-- Line feed, vertical tab, form feed, carriage return, the file, group and record separators,
next line, and the line and paragraph separators. -/
def isLineEnd (c : Char) : Bool :=
  let n := c.toNat
  (10 ≤ n && n ≤ 13) || (28 ≤ n && n ≤ 30) || n == 0x85 || n == 0x2028 || n == 0x2029

/-- Line feed and carriage return. -/
def isHostLineEnd (c : Char) : Bool := c == '\n' || c == '\r'

/-- The lines of a text under the wide convention. -/
def splitLines : List Char → List (List Char) := splitLinesBy isLineEnd

/-- The lines of a text under the convention of editors. -/
def splitHostLines : List Char → List (List Char) := splitLinesBy isHostLineEnd

def firstLine (text : List Char) : List Char := text.takeWhile (· != '\n')

def unifyLineEnds : List Char → List Char
  | [] => []
  | '\r' :: '\n' :: rest => '\n' :: unifyLineEnds rest
  | '\r' :: rest => '\n' :: unifyLineEnds rest
  | c :: rest => c :: unifyLineEnds rest

theorem not_mem_unifyLineEnds (text : List Char) : '\r' ∉ unifyLineEnds text := by
  fun_induction unifyLineEnds text with
  | case1 => simp
  | case2 rest ih => simpa using ih
  | case3 rest _ ih => simpa using ih
  | case4 c rest _ hc ih => simp_all [eq_comm]

end LintBridge.Text
