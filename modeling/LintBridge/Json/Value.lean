import LintBridge.Number.Binary64

/-!
JSON values.

Integers and fractional numbers are two kinds of value: a numeral with a point or an exponent is
never an integer. The entries of an object are a list of pairs with distinct keys; putting a key
that is there already replaces its value in place.
-/
set_option autoImplicit false

namespace LintBridge

inductive Json where
  | null
  | bool (value : Bool)
  | int (value : Int)
  | float (value : Binary64)
  | str (value : String)
  | arr (items : List Json)
  | obj (entries : List (String × Json))
  deriving Inhabited

namespace Json

/-- The entries with `key` bound to `value`: in the place of its old value, else at the end. -/
def put (entries : List (String × Json)) (key : String) (value : Json) : List (String × Json) :=
  match entries with
  | [] => [(key, value)]
  | entry :: more => if entry.1 = key then (key, value) :: more else entry :: put more key value

/-- The object with the given entries, of which the last wins among those with one key. -/
def ofEntries (entries : List (String × Json)) : Json :=
  obj (entries.foldl (fun kept entry => put kept entry.1 entry.2) [])

def get? (value : Json) (key : String) : Option Json :=
  match value with
  | obj entries => entries.lookup key
  | _ => none

@[simp] theorem lookup_put_self (entries : List (String × Json)) (key : String) (value : Json) :
    (put entries key value).lookup key = some value := by
  induction entries with
  | nil => simp [put]
  | cons entry more ih =>
      obtain ⟨name, old⟩ := entry
      by_cases h : name = key
      · simp [put, h]
      · simp [put, h, List.lookup_cons, beq_eq_false_iff_ne.2 (Ne.symm h), ih]

theorem lookup_put_of_ne (entries : List (String × Json)) {key other : String} (value : Json)
    (h : other ≠ key) : (put entries key value).lookup other = entries.lookup other := by
  induction entries with
  | nil => simp [put, List.lookup_cons, beq_eq_false_iff_ne.2 h]
  | cons entry more ih =>
      obtain ⟨name, old⟩ := entry
      by_cases he : name = key
      · subst he
        simp [put, List.lookup_cons, beq_eq_false_iff_ne.2 h]
      · simp [put, he, List.lookup_cons, ih]

end Json

/-- Whether an integer has few enough digits to be written. -/
def isWritable (n : Int) : Bool := n.natAbs < tenTo maxIntegerDigits

end LintBridge
