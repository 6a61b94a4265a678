import Mathlib.Data.List.Basic

/-!
# Look-ups among entries

What is found under a key among entries of which some were left out, changed or added behind.
-/
set_option autoImplicit false

namespace LintBridge

section

variable {κ α : Type} [BEq κ] [LawfulBEq κ]

/-- Entries under other keys can be left out. -/
theorem lookup_filter {p : κ → Bool} {key : κ} (kept : p key = true) (entries : List (κ × α)) :
    (entries.filter fun entry => p entry.1).lookup key = entries.lookup key := by
  induction entries with
  | nil => rfl
  | cons entry more ih =>
      obtain ⟨name, value⟩ := entry
      by_cases same : key = name
      · subst same
        simp [kept]
      · by_cases keep : p name = true
        · simp [keep, List.lookup_cons, beq_eq_false_iff_ne.2 same, ih]
        · simp [keep, List.lookup_cons, beq_eq_false_iff_ne.2 same, ih]

theorem lookup_filter_ne {key other : κ} (apart : key ≠ other) (entries : List (κ × α)) :
    (entries.filter (·.1 != other)).lookup key = entries.lookup key :=
  lookup_filter (p := (· != other)) (bne_iff_ne.2 apart) entries

theorem lookup_filter_self (key : κ) (entries : List (κ × α)) :
    (entries.filter (·.1 != key)).lookup key = none := by
  rw [List.lookup_eq_none_iff]
  intro entry member
  have other : entry.1 ≠ key := by simpa using (List.mem_filter.1 member).2
  exact bne_iff_ne.2 other.symm

theorem lookup_map {β : Type} (f : α → β) (key : κ) (entries : List (κ × α)) :
    (entries.map fun entry => (entry.1, f entry.2)).lookup key = (entries.lookup key).map f := by
  induction entries with
  | nil => rfl
  | cons entry more ih =>
      obtain ⟨name, value⟩ := entry
      by_cases same : key = name
      · subst same
        simp
      · simp [List.lookup_cons, beq_eq_false_iff_ne.2 same, ih]

theorem lookup_append_ne {key other : κ} (apart : key ≠ other) (entries : List (κ × α))
    (value : α) : (entries ++ [(other, value)]).lookup key = entries.lookup key := by
  simp [List.lookup_append, List.lookup_cons, beq_eq_false_iff_ne.2 apart]

theorem lookup_append_self {key : κ} {entries : List (κ × α)} (absent : entries.lookup key = none)
    (value : α) : (entries ++ [(key, value)]).lookup key = some value := by
  simp [List.lookup_append, absent]

end

end LintBridge
