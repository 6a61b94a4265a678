import LintBridge.FileUri.Host
import LintBridge.Path
import LintBridge.Text.Utf8

/-!
Local paths from file URIs.

A URI is cut into scheme, authority and path; query and fragment are dropped, and so are control
characters and spaces in front and all tabs and line ends. The path of a `file` URI is decoded:
each percent sign with two hexadecimal digits is one octet, every other character stands for its own
octets, and the octets are read as UTF-8. An authority other than `localhost` starts the path behind
two slashes. A path with a NUL character is no path.

Malformed authorities are refused whatever the scheme: unbalanced brackets, text around a host in
brackets, a host in brackets that is no address, and characters that compatibility decomposition
turns into delimiters.
-/
set_option autoImplicit false

namespace LintBridge.FileUri

inductive Fault where
  | brackets
  | host (fault : Host.Fault)
  /-- A character of the authority decomposes into a delimiter. -/
  | hiddenDelimiter (authority : String)
  deriving DecidableEq, Repr

def Fault.message : Fault → String
  | .brackets => "Invalid IPv6 URL"
  | .host fault => fault.message
  | .hiddenDelimiter authority =>
    s!"netloc '{authority}' contains invalid characters under NFKC normalization"

/-- The characters whose compatibility decomposition holds a delimiter of URIs. -/
def hiddenDelimiters : List Nat :=
  [0x2047, 0x2048, 0x2049, 0x2100, 0x2101, 0x2105, 0x2106, 0x2A74, 0xFE13, 0xFE16, 0xFE55, 0xFE56,
    0xFE5F, 0xFE6B, 0xFF03, 0xFF0F, 0xFF1A, 0xFF1F, 0xFF20]

structure Parts where
  scheme : List Char
  authority : List Char
  path : List Char

/-- The text of a URI without control characters and spaces in front, tabs and line ends. -/
def clean (text : List Char) : List Char :=
  (text.dropWhile fun c => c.toNat ≤ 0x20).filter fun c => c != '\t' && c != '\r' && c != '\n'

def isSchemeChar (c : Char) : Bool := c.isAlphanum || c == '+' || c == '-' || c == '.'

/-- The scheme in lower case and the text behind its colon; an empty scheme if there is none. -/
def splitScheme (text : List Char) : List Char × List Char :=
  let scheme := text.takeWhile (· != ':')
  match text.dropWhile (· != ':') with
  | ':' :: rest =>
    if (scheme.head?.map Char.isAlpha).getD false && scheme.all isSchemeChar then
      (scheme.map Char.toLower, rest)
    else ([], text)
  | _ => ([], text)

/-- The authority behind two slashes, and the text behind it. -/
def splitAuthority (text : List Char) : List Char × List Char :=
  match text with
  | '/' :: '/' :: rest =>
    let inside (c : Char) : Bool := c != '/' && c != '?' && c != '#'
    (rest.takeWhile inside, rest.dropWhile inside)
  | _ => ([], text)

/-- The text behind the last occurrence of a character, or the whole text if there is none. -/
def behindLast (mark : Char) (text : List Char) : List Char :=
  (text.reverse.takeWhile (· != mark)).reverse

def bracketFault? (authority : List Char) : Option Fault :=
  if authority.contains '[' != authority.contains ']' then some .brackets
  else if !authority.contains '[' then none
  else
    let place := behindLast '@' authority
    match place.dropWhile (· != '[') with
    | '[' :: inside =>
      let host := inside.takeWhile (· != ']')
      let behind := (inside.dropWhile (· != ']')).drop 1
      if place.head? != some '[' then some .brackets
      else if !behind.isEmpty && behind.head? != some ':' then some .brackets
      else (Host.fault? host).map .host
    | _ => (Host.fault? (place.takeWhile (· != ':'))).map .host

def authorityFault? (authority : List Char) : Option Fault :=
  match bracketFault? authority with
  | some fault => some fault
  | none =>
    if authority.any fun c => hiddenDelimiters.contains c.toNat then
      some (.hiddenDelimiter (String.ofList authority))
    else none

def Parts.ofText (text : List Char) : Except Fault Parts :=
  let (scheme, rest) := splitScheme (clean text)
  let (authority, rest) := splitAuthority rest
  match authorityFault? authority with
  | some fault => .error fault
  | none => .ok ⟨scheme, authority, rest.takeWhile fun c => c != '#' && c != '?'⟩

/-- The octets that percent-encoded text stands for. -/
def octets : List Char → List UInt8
  | '%' :: a :: b :: rest =>
    match Text.hexValue? a, Text.hexValue? b with
    | some high, some low => UInt8.ofNat (high * 16 + low) :: octets rest
    | _, _ => String.utf8EncodeChar '%' ++ octets (a :: b :: rest)
  | c :: rest => String.utf8EncodeChar c ++ octets rest
  | [] => []

def percentDecode (text : List Char) : List Char := Text.Utf8.decodeLenient (octets text)

def Parts.toPath? (parts : Parts) : Option Path :=
  if parts.scheme != "file".toList then none
  else
    let local' := parts.authority.isEmpty || parts.authority == "localhost".toList
    let text := percentDecode
      (if local' then parts.path else '/' :: '/' :: parts.authority ++ parts.path)
    if text.contains '\x00' then none else some (Path.ofText text)

def toPath? (uri : String) : Except Fault (Option Path) :=
  (Parts.ofText uri.toList).map Parts.toPath?

end LintBridge.FileUri
