import LintBridge.Json.Value
import LintBridge.Text.Digit

/-!
Writing JSON text.

A value is written with one entry or item per line, indented by two spaces for each level, and with
ASCII characters only: a character beyond ASCII becomes the escapes of its one or two 16-bit units.
An empty array or object stays on its line. Writing fails on an integer with too many digits, and on
a fractional number, for which the format has no spelling.
-/
set_option autoImplicit false

namespace LintBridge.Json

def unitEscape (unit : Nat) : List Char := '\\' :: 'u' :: Text.hexDigits 4 unit

def writeChar (c : Char) : List Char :=
  let n := c.toNat
  if c == '"' then ['\\', '"']
  else if c == '\\' then ['\\', '\\']
  else if c == '\n' then ['\\', 'n']
  else if c == '\r' then ['\\', 'r']
  else if c == '\t' then ['\\', 't']
  else if n == 8 then ['\\', 'b']
  else if n == 12 then ['\\', 'f']
  else if 0x20 ≤ n && n < 0x7F then [c]
  else if n < 0x10000 then unitEscape n
  else
    unitEscape (0xD800 + (n - 0x10000) / 0x400) ++ unitEscape (0xDC00 + (n - 0x10000) % 0x400)

def writeString (s : String) : String :=
  String.ofList ('"' :: s.toList.flatMap writeChar ++ ['"'])

/-- The line break and the spaces that start a line at a level. -/
def newline (level : Nat) : String := "\n" ++ String.ofList (List.replicate (2 * level) ' ')

inductive WriteError where
  | integerTooLong
  | fractionalNumber
  deriving DecidableEq, Repr

def WriteError.message : WriteError → String
  | .integerTooLong =>
    s!"Exceeds the limit ({maxIntegerDigits} digits) for integer string conversion; " ++
      "use sys.set_int_max_str_digits() to increase the limit"
  | .fractionalNumber => "fractional numbers are not written"

def writeInt (n : Int) : Except WriteError String :=
  if isWritable n then .ok (toString n) else .error .integerTooLong

mutual

/-- The value as text whose first line starts at a level. -/
def write (level : Nat) : Json → Except WriteError String
  | .null => .ok "null"
  | .bool b => .ok (if b then "true" else "false")
  | .int n => writeInt n
  | .float _ => .error .fractionalNumber
  | .str s => .ok (writeString s)
  | .arr [] => .ok "[]"
  | .arr (item :: more) => do
    let lines ← writeItems (level + 1) (item :: more)
    .ok ("[" ++ lines ++ newline level ++ "]")
  | .obj [] => .ok "\x7b\x7d"
  | .obj (entry :: more) => do
    let lines ← writeEntries (level + 1) (entry :: more)
    .ok ("\x7b" ++ lines ++ newline level ++ "\x7d")

def writeItems (level : Nat) : List Json → Except WriteError String
  | [] => .ok ""
  | item :: more => do
    let first ← write level item
    let others ← writeItems level more
    .ok (newline level ++ first ++ (if more.isEmpty then "" else ",") ++ others)

def writeEntries (level : Nat) : List (String × Json) → Except WriteError String
  | [] => .ok ""
  | (key, item) :: more => do
    let first ← write level item
    let others ← writeEntries level more
    .ok (newline level ++ writeString key ++ ": " ++ first ++
      (if more.isEmpty then "" else ",") ++ others)

end

def render (value : Json) : Except WriteError String := write 0 value

end LintBridge.Json
