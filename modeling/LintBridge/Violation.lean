import LintBridge.Json.Value

/-!
Violations: places of a JSON value that are not what they should be.

A violation names the place by the keys and indexes that lead to it from the root, and says what is
wrong there. Checks gather every violation instead of stopping at the first.
-/
set_option autoImplicit false

namespace LintBridge

inductive Step where
  | key (name : String)
  | index (n : Nat)
  deriving DecidableEq, Repr

def Step.show : Step → String
  | .key name => name
  | .index n => toString n

inductive Expectation where
  /-- The field must be there. -/
  | present
  | integer
  /-- The text must be the numeral of an integer. -/
  | integerNumeral
  /-- The number must have no fraction. -/
  | whole
  /-- The number must be finite. -/
  | finite
  /-- The integer must not be too great to be read. -/
  | readable
  | number
  /-- The text must be the numeral of a number. -/
  | numeral
  /-- The number must not lie below zero. -/
  | atLeastZero
  | string
  | list
  | tuple
  | dictionary
  /-- An object of the named kind. -/
  | record (kind : String)
  | path
  /-- The field must be one that the object has. -/
  | knownField (name : String)
  deriving DecidableEq, Repr

def Expectation.code : Expectation → String
  | .present => "missing"
  | .integer => "int_type"
  | .integerNumeral => "int_parsing"
  | .whole => "int_from_float"
  | .finite => "finite_number"
  | .readable => "int_parsing_size"
  | .number => "float_type"
  | .numeral => "float_parsing"
  | .atLeastZero => "greater_than_equal"
  | .string => "string_type"
  | .list => "list_type"
  | .tuple => "tuple_type"
  | .dictionary => "dict_type"
  | .record _ => "model_type"
  | .path => "path_type"
  | .knownField _ => "no_such_attribute"

def Expectation.message : Expectation → String
  | .present => "Field required"
  | .integer => "Input should be a valid integer"
  | .integerNumeral => "Input should be a valid integer, unable to parse string as an integer"
  | .whole => "Input should be a valid integer, got a number with a fractional part"
  | .finite => "Input should be a finite number"
  | .readable => "Unable to parse input string as an integer, exceeded maximum size"
  | .number => "Input should be a valid number"
  | .numeral => "Input should be a valid number, unable to parse string as a number"
  | .atLeastZero => "Input should be greater than or equal to 0"
  | .string => "Input should be a valid string"
  | .list => "Input should be a valid list"
  | .tuple => "Input should be a valid tuple"
  | .dictionary => "Input should be a valid dictionary"
  | .record kind => s!"Input should be a valid dictionary or instance of {kind}"
  | .path => "Input is not a valid path for <class 'pathlib.Path'>"
  | .knownField name => s!"Object has no attribute '{name}'"

structure Violation where
  place : List Step
  expected : Expectation
  deriving DecidableEq, Repr

/-- The violation as text; the root has a name of its own. -/
def Violation.show (v : Violation) : String :=
  let place := if v.place.isEmpty then "<root>" else ".".intercalate (v.place.map Step.show)
  s!"{place}: {v.expected.message}"

/-- The outcome of a check: a value, or every violation found. -/
abbrev Checked (α : Type) := Except (List Violation) α

def Checked.violations {α : Type} : Checked α → List Violation
  | .ok _ => []
  | .error vs => vs

def violation {α : Type} (place : List Step) (expected : Expectation) : Checked α :=
  .error [⟨place, expected⟩]

/-- The outcomes of a list as one outcome: all the values, or all the violations in order. -/
def Checked.all {α : Type} : List (Checked α) → Checked (List α)
  | [] => .ok []
  | .ok x :: more => (Checked.all more).map (x :: ·)
  | .error vs :: more => .error (vs ++ (Checked.all more).violations)

theorem violations_all {α : Type} (outcomes : List (Checked α)) :
    (Checked.all outcomes).violations = outcomes.flatMap Checked.violations := by
  induction outcomes with
  | nil => rfl
  | cons outcome more ih =>
      cases outcome with
      | error vs => simp [Checked.all, Checked.violations, ← ih]
      | ok x =>
          cases h : Checked.all more <;>
            simp_all [Checked.all, Checked.violations, Except.map]

namespace Json

def integer (place : List Step) : Json → Checked Int
  | .int n => .ok n
  | _ => violation place .integer

def text (place : List Step) : Json → Checked String
  | .str s => .ok s
  | _ => violation place .string

/-- The entry of an object under a key, checked; a missing key is a violation. -/
def field {α : Type} (entries : List (String × Json)) (place : List Step) (key : String)
    (check : List Step → Json → Checked α) : Checked α :=
  match entries.lookup key with
  | some value => check (place ++ [.key key]) value
  | none => violation (place ++ [.key key]) .present

/-- The entry of an object under one of two keys. The first key wins if the object has it, and names
the place of a missing entry. -/
def fieldOr {α : Type} (entries : List (String × Json)) (place : List Step) (key other : String)
    (check : List Step → Json → Checked α) : Checked α :=
  match entries.lookup key, entries.lookup other with
  | some value, _ => check (place ++ [.key key]) value
  | none, some value => check (place ++ [.key other]) value
  | none, none => violation (place ++ [.key key]) .present

end Json

end LintBridge
