import LintBridge.Console
import LintBridge.Text.Blank
import LintBridge.Text.Word

/-!
Keys and values in debugging messages.

A key is a run of word characters and hyphens with an equals sign and a value behind it. A value is
a text between quotation marks on one line, or else a run of characters that are not blank. Keys,
equals signs, values and the text between them become pieces of colours of their own, and the pieces
put together are the message (`text_pieces`).
-/
set_option autoImplicit false

namespace LintBridge.KeyValue

def isKeyChar (c : Char) : Bool := Text.isWord c || c == '-'

/-- The length of the quoted text that a text starts with behind its first quotation mark, up to the
closing one. -/
def quotedLength? : List Char → Option Nat
  | [] => none
  | c :: rest =>
    if c == '"' then some 1
    else if c == '\n' then none
    else (quotedLength? rest).map (· + 1)

/-- The length of the run of characters that a text starts with and that are not blank. -/
def runLength (text : List Char) : Nat := (text.takeWhile (!Text.isBlank ·)).length

/-- The length of the value that a text starts with; zero if it starts with none. -/
def valueLength (text : List Char) : Nat :=
  match text with
  | [] => 0
  | c :: rest =>
    if c == '"' then
      match quotedLength? rest with
      | some n => n + 1
      | none => runLength text
    else runLength text

inductive Part where
  | plain (text : List Char)
  | key (text : List Char)
  | sign
  | value (key text : List Char)
  deriving DecidableEq, Repr

def Part.text : Part → List Char
  | .plain text => text
  | .key text => text
  | .sign => ['=']
  | .value _ text => text

/-- Plain text in front of parts; no two plain parts stand side by side. -/
def addPlain (text : List Char) : List Part → List Part
  | .plain more :: parts => .plain (text ++ more) :: parts
  | parts => .plain text :: parts

/-- The length of the value behind an equals sign that a text starts with; zero if there is none. -/
def signedLength : List Char → Nat
  | '=' :: behind => valueLength behind
  | _ => 0

def parts : List Char → List Part
  | [] => []
  | c :: rest =>
    if isKeyChar c then
      let key := c :: rest.takeWhile isKeyChar
      let behind := rest.dropWhile isKeyChar
      let n := signedLength behind
      if n = 0 then addPlain key (parts behind)
      else .key key :: .sign :: .value key ((behind.drop 1).take n) :: parts (behind.drop (n + 1))
    else addPlain [c] (parts rest)
termination_by text => text.length
decreasing_by
  all_goals
    have hle := (List.dropWhile_sublist (p := isKeyChar) (l := rest)).length_le
    simp only [List.length_cons, List.length_drop] at *
    omega

/-- The keys whose values stand out as commands. -/
def commandKeys : List String := ["command", "cmd"]

def Part.codes : Part → String
  | .plain _ => "1;2;36"
  | .key _ => "1;35"
  | .sign => "1;2;36"
  | .value name _ => if commandKeys.contains (String.ofList name) then "1;34" else "1;32"

def pieces (message : List Char) : List Piece :=
  (parts message).map fun part => ⟨part.codes, part.text⟩

theorem text_addPlain (text : List Char) (more : List Part) :
    (addPlain text more).flatMap Part.text = text ++ more.flatMap Part.text := by
  unfold addPlain
  split <;> simp [Part.text]

theorem text_signed {behind : List Char} (h : signedLength behind ≠ 0) (n : Nat) :
    '=' :: ((behind.drop 1).take n ++ behind.drop (n + 1)) = behind := by
  unfold signedLength at h
  split at h
  · simp [List.take_append_drop]
  · exact absurd rfl h

theorem text_parts (message : List Char) : (parts message).flatMap Part.text = message := by
  fun_induction parts message with
  | case1 => rfl
  | case2 c rest hc key behind n hn ih =>
      rw [text_addPlain, ih]
      simp [key, behind, List.takeWhile_append_dropWhile]
  | case3 c rest hc key behind n hn ih =>
      have hsigned := text_signed hn n
      have hrest : rest.takeWhile isKeyChar ++ behind = rest := List.takeWhile_append_dropWhile
      simp only [List.flatMap_cons, Part.text, ih, key, List.cons_append, List.nil_append]
      rw [hsigned, hrest]
  | case4 c rest hc ih => simp [text_addPlain, ih]

theorem text_pieces (message : List Char) : (pieces message).flatMap Piece.text = message := by
  simpa [pieces, List.flatMap_map] using text_parts message

end LintBridge.KeyValue
