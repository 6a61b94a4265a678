import LintBridge.Text.Digit
import LintBridge.Text.Printable

/-!
Quoted text for messages.

A text is put between apostrophes, or between quotation marks if it holds an apostrophe and no
quotation mark. The quote and the backslash are escaped, so are tab, line feed and carriage return,
and a character that is not printable is given by its code in two, four or eight hexadecimal digits.
Where a text stands without quotes only its control characters are given by their codes.
-/
set_option autoImplicit false

namespace LintBridge.Text

def quoteFor (text : List Char) : Char :=
  if text.contains '\'' && !text.contains '"' then '"' else '\''

def escapeChar (quote c : Char) : List Char :=
  if c == quote || c == '\\' then ['\\', c]
  else if c == '\t' then ['\\', 't']
  else if c == '\n' then ['\\', 'n']
  else if c == '\r' then ['\\', 'r']
  else if isPrintable c then [c]
  else if c.toNat < 0x100 then '\\' :: 'x' :: hexDigits 2 c.toNat
  else if c.toNat < 0x10000 then '\\' :: 'u' :: hexDigits 4 c.toNat
  else '\\' :: 'U' :: hexDigits 8 c.toNat

def quoted (text : List Char) : List Char :=
  let quote := quoteFor text
  quote :: text.flatMap (escapeChar quote) ++ [quote]

def quotedString (text : String) : String := String.ofList (quoted text.toList)

/-- A control character: one of the first 32, delete, or one of the 32 behind it. -/
def isControl (c : Char) : Bool := c.toNat < 0x20 || (0x7F ≤ c.toNat && c.toNat < 0xA0)

def escapeControls (text : String) : String :=
  String.ofList (text.toList.flatMap fun c =>
    if isControl c then '\\' :: 'x' :: hexDigits 2 c.toNat else [c])

example : quotedString "it's" = "\"it's\"" := by decide +kernel
example : quotedString "a\\\n\x00" = "'a\\\\\\n\\x00'" := by decide +kernel

end LintBridge.Text
