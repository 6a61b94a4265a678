import LintBridge.Json.Printer

/-!
# When a value cannot be written

Two kinds of numbers have no spelling: an integer with too many digits and a fractional number. The
first number of that kind in a value, in the order of the text, is what writing the value fails at,
whatever the level of its first line (`write_tells`).
-/
set_option autoImplicit false

namespace LintBridge.Json

/-- An outcome that fails exactly with what is told. -/
def Tells {ε α : Type} (x : Except ε α) (told : Option ε) : Prop :=
  ∀ e, x = .error e ↔ told = some e

theorem tells_ok {ε α : Type} (a : α) : Tells (.ok a : Except ε α) none := by
  intro e
  simp

theorem tells_error {ε α : Type} (e : ε) : Tells (.error e : Except ε α) (some e) := by
  intro e'
  simp

theorem Tells.bind_ok {ε α β : Type} {x : Except ε α} {told : Option ε} (tells : Tells x told)
    (f : α → β) : Tells (x >>= fun a => .ok (f a)) told := by
  intro e
  rw [← tells e]
  cases x <;> simp [bind, Except.bind]

theorem Tells.bind_bind_ok {ε α β γ : Type} {x : Except ε α} {y : Except ε β}
    {first second : Option ε} (tells : Tells x first) (tells' : Tells y second)
    (f : α → β → γ) :
    Tells (x >>= fun a => y >>= fun b => .ok (f a b)) (first.or second) := by
  intro e
  cases x with
  | error e' =>
      obtain rfl := (tells e').1 rfl
      simp [bind, Except.bind]
  | ok a =>
      have silent : first = none := by
        cases first with
        | none => rfl
        | some e' => cases (tells e').2 rfl
      rw [silent, Option.none_or, ← tells' e]
      cases y <;> simp [bind, Except.bind]

mutual

/-- What keeps a value from being written, told by the first number in it that has no spelling. -/
def obstacle? : Json → Option WriteError
  | .null => none
  | .bool _ => none
  | .int n => if isWritable n then none else some .integerTooLong
  | .float _ => some .fractionalNumber
  | .str _ => none
  | .arr items => itemsObstacle? items
  | .obj entries => entriesObstacle? entries

def itemsObstacle? : List Json → Option WriteError
  | [] => none
  | item :: more => (obstacle? item).or (itemsObstacle? more)

def entriesObstacle? : List (String × Json) → Option WriteError
  | [] => none
  | (_, item) :: more => (obstacle? item).or (entriesObstacle? more)

end

theorem writeInt_tells (n : Int) :
    Tells (writeInt n) (if isWritable n then none else some .integerTooLong) := by
  unfold writeInt
  split
  · exact tells_ok _
  · exact tells_error _

mutual

theorem write_tells (value : Json) (level : Nat) : Tells (write level value) (obstacle? value) := by
  cases value with
  | null => exact tells_ok _
  | bool b => exact tells_ok _
  | int n => exact writeInt_tells n
  | float x => exact tells_error _
  | str s => exact tells_ok _
  | arr items =>
      cases items with
      | nil => exact tells_ok _
      | cons item more => exact (writeItems_tells (item :: more) (level + 1)).bind_ok _
  | obj entries =>
      cases entries with
      | nil => exact tells_ok _
      | cons entry more => exact (writeEntries_tells (entry :: more) (level + 1)).bind_ok _

theorem writeItems_tells (items : List Json) (level : Nat) :
    Tells (writeItems level items) (itemsObstacle? items) := by
  cases items with
  | nil => exact tells_ok _
  | cons item more =>
      exact (write_tells item level).bind_bind_ok (writeItems_tells more level) _

theorem writeEntries_tells (entries : List (String × Json)) (level : Nat) :
    Tells (writeEntries level entries) (entriesObstacle? entries) := by
  cases entries with
  | nil => exact tells_ok _
  | cons entry more =>
      exact (write_tells entry.2 level).bind_bind_ok (writeEntries_tells more level) _

end

end LintBridge.Json
