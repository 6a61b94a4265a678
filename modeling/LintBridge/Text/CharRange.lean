/-!
Classes of characters given by tables of code-point ranges.

A property of characters is written as a list of ranges, each with both ends included, and a
character has the property when some range holds its code point (`mem_ranges_iff`).
-/
set_option autoImplicit false

namespace LintBridge.Text

/-- Code-point ranges, both ends included. -/
abbrev CharRanges := List (Nat × Nat)

def CharRanges.has (ranges : CharRanges) (c : Char) : Bool :=
  ranges.any fun range => range.1 ≤ c.toNat && c.toNat ≤ range.2

theorem mem_ranges_iff (ranges : CharRanges) (c : Char) :
    ranges.has c = true ↔ ∃ range ∈ ranges, range.1 ≤ c.toNat ∧ c.toNat ≤ range.2 := by
  simp [CharRanges.has, List.any_eq_true]

end LintBridge.Text
