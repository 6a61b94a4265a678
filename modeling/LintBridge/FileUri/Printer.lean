import LintBridge.Path
import LintBridge.Text.Utf8

/-!
File URIs for local paths.

The path is written as the octets of its UTF-8 form. Letters, digits, slashes and four marks of
ASCII stand for themselves; every other octet becomes a percent sign and two hexadecimal digits.
-/
set_option autoImplicit false

namespace LintBridge.FileUri

/-- An octet that stands for itself in a file URI. -/
def isUnreserved (b : UInt8) : Bool :=
  let c := Char.ofNat b.toNat
  b < 0x80 && (c.isAlphanum || c == '/' || c == '_' || c == '.' || c == '-' || c == '~')

def encodeOctet (b : UInt8) : List Char :=
  if isUnreserved b then [Char.ofNat b.toNat]
  else ['%', Text.hexDigitUpper (b.toNat / 16), Text.hexDigitUpper (b.toNat % 16)]

def percentEncode (text : List Char) : List Char := (Text.Utf8.encode text).flatMap encodeOctet

def ofPath (p : Path) : String :=
  "file://" ++ String.ofList (percentEncode p.toString.toList)

end LintBridge.FileUri
