/-!
Command lines as text, under the quoting rules of the POSIX shell.

Reading splits a text into words at spaces, tabs and line ends that are not quoted. Between
apostrophes every character stands for itself; between quotation marks a backslash quotes a
quotation mark or a backslash only; elsewhere it quotes any character. Nothing is expanded, and a
number sign starts no comment. Writing puts every word that holds an unsafe character between
apostrophes. Reading what was written gives the words back.
-/
set_option autoImplicit false

namespace LintBridge.ShellWords

inductive Place where
  | between
  | word
  | apostrophes
  | quotationMarks
  deriving DecidableEq, Repr

inductive Fault where
  | openQuote
  | openEscape
  deriving DecidableEq, Repr

def Fault.message : Fault → String
  | .openQuote => "No closing quotation"
  | .openEscape => "No escaped character"

def isSeparator (c : Char) : Bool := c == ' ' || c == '\t' || c == '\r' || c == '\n'

/-- What is left of the word that a reader is in, and the words behind it. -/
structure Rest where
  word : List Char
  more : List (List Char)
  deriving DecidableEq, Repr

def Rest.prepend (c : Char) (r : Rest) : Rest := { r with word := c :: r.word }

def Rest.close (r : Rest) : Rest := ⟨[], r.more⟩

def Rest.start (r : Rest) : Rest := ⟨[], r.word :: r.more⟩

/-- What a text holds for a reader at a place. -/
def scan : Place → List Char → Except Fault Rest
  | .between, [] => .ok ⟨[], []⟩
  | .between, '\\' :: [] => .error .openEscape
  | .between, '\\' :: c :: rest => (scan .word rest).map fun r => (r.prepend c).start
  | .between, c :: rest =>
    if isSeparator c then scan .between rest
    else if c == '\'' then (scan .apostrophes rest).map Rest.start
    else if c == '"' then (scan .quotationMarks rest).map Rest.start
    else (scan .word rest).map fun r => (r.prepend c).start
  | .word, [] => .ok ⟨[], []⟩
  | .word, '\\' :: [] => .error .openEscape
  | .word, '\\' :: c :: rest => (scan .word rest).map (Rest.prepend c)
  | .word, c :: rest =>
    if isSeparator c then (scan .between rest).map Rest.close
    else if c == '\'' then scan .apostrophes rest
    else if c == '"' then scan .quotationMarks rest
    else (scan .word rest).map (Rest.prepend c)
  | .apostrophes, [] => .error .openQuote
  | .apostrophes, c :: rest =>
    if c == '\'' then scan .word rest else (scan .apostrophes rest).map (Rest.prepend c)
  | .quotationMarks, [] => .error .openQuote
  | .quotationMarks, '\\' :: [] => .error .openEscape
  | .quotationMarks, '\\' :: c :: rest =>
    if c == '"' || c == '\\' then (scan .quotationMarks rest).map (Rest.prepend c)
    else (scan .quotationMarks rest).map fun r => (r.prepend c).prepend '\\'
  | .quotationMarks, c :: rest =>
    if c == '"' then scan .word rest else (scan .quotationMarks rest).map (Rest.prepend c)

attribute [simp] scan

def split (text : List Char) : Except Fault (List (List Char)) :=
  (scan .between text).map Rest.more

def isSafe (c : Char) : Bool := c.isAlphanum || "_@%+=:,./-".toList.contains c

/-- A character as it is written between apostrophes; an apostrophe leaves them for quotation
marks. -/
def escapeChar (c : Char) : List Char := if c == '\'' then "'\"'\"'".toList else [c]

def quote (word : List Char) : List Char :=
  if !word.isEmpty && word.all isSafe then word
  else '\'' :: word.flatMap escapeChar ++ ['\'']

def join (words : List (List Char)) : List Char := [' '].intercalate (words.map quote)

def joinStrings (words : List String) : String := String.ofList (join (words.map String.toList))

example : (split "a' b 'c \"\\a\\\"\" ''".toList).toOption =
    some ["a b c".toList, "\\a\"".toList, []] := by decide +kernel
example : join ["a b".toList, "it's".toList, [], "x-1".toList] =
    "'a b' 'it'\"'\"'s' '' x-1".toList := by decide +kernel

end LintBridge.ShellWords
