import LintBridge.Number.WholeNumber
import LintBridge.Severity
import LintBridge.Violation

/-!
Diagnostics in the form that editors take.

Lines and characters count from zero. Where they are read from JSON a truth value, a number without
a fraction and a string with an integer will do as well. As JSON a diagnostic has its keys in camel
case and in a fixed order, and no entry for tags that are not set.
-/
set_option autoImplicit false

namespace LintBridge

/-- A line and a character in it, both from zero. -/
structure Position where
  line : Int
  character : Int
  deriving DecidableEq, Repr

structure Range where
  start : Position
  stop : Position
  deriving DecidableEq, Repr

structure Diagnostic where
  range : Range
  severity : Severity
  code : String
  /-- Where the code is explained. -/
  href : String
  message : String
  source : String
  tags : Option (List Int)
  deriving DecidableEq, Repr

def Position.toJson (p : Position) : Json :=
  .obj [("line", .int p.line), ("character", .int p.character)]

def Range.toJson (r : Range) : Json :=
  .obj [("start", r.start.toJson), ("end", r.stop.toJson)]

def Diagnostic.toJson (d : Diagnostic) : Json :=
  let tags :=
    match d.tags with
    | some tags => [("tags", Json.arr (tags.map .int))]
    | none => []
  .obj ([("range", d.range.toJson), ("severity", .int d.severity.rank), ("code", .str d.code),
    ("codeDescription", .obj [("href", .str d.href)]), ("message", .str d.message),
    ("source", .str d.source)] ++ tags)

/-- The expectation that something does not meet that stands for no integer. -/
def WholeNumber.Fault.expected : WholeNumber.Fault → Expectation
  | .malformed => .integerNumeral
  | .tooGreat => .readable
  | .fraction => .whole
  | .infinite => .finite

def Json.looseInteger (place : List Step) : Json → Checked Int
  | .int n => .ok n
  | .bool b => .ok (if b then 1 else 0)
  | .float x => (WholeNumber.ofBinary64 x).mapError fun fault => [⟨place, fault.expected⟩]
  | .str s => (WholeNumber.ofText s.toList).mapError fun fault => [⟨place, fault.expected⟩]
  | _ => violation place .integer

def Position.ofJson (place : List Step) : Json → Checked Position
  | .obj entries =>
    match Json.field entries place "line" Json.looseInteger,
      Json.field entries place "character" Json.looseInteger with
    | .ok line, .ok character => .ok ⟨line, character⟩
    | line, character => .error (line.violations ++ character.violations)
  | _ => violation place (.record "Position")

def Range.ofJson (place : List Step) : Json → Checked Range
  | .obj entries =>
    match Json.field entries place "start" Position.ofJson,
      Json.field entries place "end" Position.ofJson with
    | .ok start, .ok stop => .ok ⟨start, stop⟩
    | start, stop => .error (start.violations ++ stop.violations)
  | _ => violation place (.record "Range")

theorem Range.ofJson_toJson (place : List Step) (r : Range) :
    Range.ofJson place r.toJson = .ok r := by
  simp [Range.toJson, Range.ofJson, Position.toJson, Position.ofJson, Json.field,
    Json.looseInteger, List.lookup_cons]

/-- The outcomes for the integers of an array, the first of them at index `n`. -/
def Json.checkIntegers (place : List Step) (n : Nat) : List Json → List (Checked Int)
  | [] => []
  | item :: more =>
    Json.looseInteger (place ++ [.index n]) item :: Json.checkIntegers place (n + 1) more

/-- The tags that a JSON value describes; null stands for tags that are not set. -/
def Diagnostic.tagsOfJson (place : List Step) : Json → Checked (Option (List Int))
  | .null => .ok none
  | .arr items => (Checked.all (Json.checkIntegers place 0 items)).map some
  | _ => violation place .tuple

/-- The diagnostic whose remaining parts the entries of an object describe. -/
def Diagnostic.ofEntries (range : Range) (severity : Severity) (href : String)
    (entries : List (String × Json)) : Checked Diagnostic :=
  let code := Json.field entries [] "code" Json.text
  let message := Json.field entries [] "message" Json.text
  let source := Json.field entries [] "source" Json.text
  let tags := Diagnostic.tagsOfJson [.key "tags"] ((entries.lookup "tags").getD .null)
  match code, message, source, tags with
  | .ok code, .ok message, .ok source, .ok tags =>
    .ok { range, severity, code, href, message, source, tags }
  | _, _, _, _ =>
    .error (code.violations ++ message.violations ++ source.violations ++ tags.violations)

end LintBridge
