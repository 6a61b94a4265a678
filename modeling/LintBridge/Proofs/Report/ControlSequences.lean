import LintBridge.FileReport

/-!
# Control sequences that are taken away

A text in which nothing is an escape character stays as it is in front of anything, and the sequence
that sets a colour is taken away as a whole, whatever stands behind it.
-/
set_option autoImplicit false

namespace LintBridge

theorem stripControlSequences_append {text : List Char} (plain : '\x1b' ∉ text)
    (rest : List Char) :
    stripControlSequences (text ++ rest) = text ++ stripControlSequences rest := by
  induction text with
  | nil => rfl
  | cons c more ih =>
      rw [List.mem_cons, not_or] at plain
      rw [List.cons_append, stripControlSequences, ih plain.2, List.cons_append]
      rintro behind rfl
      exact absurd rfl plain.1

theorem stripControlSequences_eq_self {text : List Char} (plain : '\x1b' ∉ text) :
    stripControlSequences text = text := by
  have stripped := stripControlSequences_append plain []
  rw [List.append_nil, stripControlSequences, List.append_nil] at stripped
  exact stripped

/-- Numbers with semicolons between them, as the codes of a colour are. -/
def AreCodes (codes : List Char) : Prop := ∀ c ∈ codes, (c.isDigit || c == ';') = true

instance (codes : List Char) : Decidable (AreCodes codes) := List.decidableBAll _ codes

theorem controlSequenceEnd?_codes {codes : List Char} (all : AreCodes codes)
    (rest : List Char) : controlSequenceEnd? (codes ++ 'm' :: rest) = some rest := by
  induction codes with
  | nil => rfl
  | cons c more ih =>
      rw [AreCodes, List.forall_mem_cons] at all
      have parameter : (c.isDigit || c == ';' || c == '?') = true := by
        rw [Bool.or_eq_true]
        exact .inl all.1
      rw [List.cons_append, controlSequenceEnd?, if_pos parameter, ih all.2]

theorem stripControlSequences_codes {codes : List Char} (all : AreCodes codes) (rest : List Char) :
    stripControlSequences ('\x1b' :: '[' :: (codes ++ 'm' :: rest)) =
      stripControlSequences rest := by
  have ends := controlSequenceEnd?_codes all rest
  rw [stripControlSequences]
  split
  · rename_i after told
    exact congrArg stripControlSequences (Option.some.inj (told.symm.trans ends))
  · rename_i told
    exact absurd (told.symm.trans ends) (Option.some_ne_none rest).symm

end LintBridge
