import Mathlib.Data.List.TakeWhile

/-!
# Runs of characters of one kind, and cuts at a character

A run is a list all of whose members are of a kind. It ends in front of a rest that does not start
with a member of that kind, and a list has only one run that it starts with and that ends there.

The pieces of a list hold its members except for what it is cut at, and two lists behind each other
are cut into the pieces of both, where the last piece of one and the first of the other are one
(`splitOn_append`).
-/
set_option autoImplicit false

namespace LintBridge.Text

/-- A rest in front of which a run of members of a kind ends. -/
def Stops {α : Type} (p : α → Bool) (rest : List α) : Prop := ∀ c, rest.head? = some c → p c = false

section

variable {α : Type} {p : α → Bool} {run rest run' rest' : List α}

theorem stops_nil : Stops p [] := by
  intro c first
  cases first

theorem stops_cons {c : α} (other : p c = false) : Stops p (c :: rest) := by
  intro d first
  rw [← Option.some.inj first]
  exact other

theorem stops_dropWhile (p : α → Bool) (xs : List α) : Stops p (xs.dropWhile p) := by
  intro c first
  have stopped := List.head?_dropWhile_not p xs
  rw [first] at stopped
  simpa using stopped

theorem takeWhile_of_stops (stops : Stops p rest) : rest.takeWhile p = [] := by
  cases rest with
  | nil => rfl
  | cons c more => exact List.takeWhile_cons_of_neg (by rw [stops c rfl]; exact Bool.false_ne_true)

theorem dropWhile_of_stops (stops : Stops p rest) : rest.dropWhile p = rest := by
  cases rest with
  | nil => rfl
  | cons c more => exact List.dropWhile_cons_of_neg (by rw [stops c rfl]; exact Bool.false_ne_true)

theorem takeWhile_run (all : ∀ c ∈ run, p c = true) (stops : Stops p rest) :
    (run ++ rest).takeWhile p = run := by
  rw [List.takeWhile_append_of_pos all, takeWhile_of_stops stops, List.append_nil]

theorem dropWhile_run (all : ∀ c ∈ run, p c = true) (stops : Stops p rest) :
    (run ++ rest).dropWhile p = rest := by
  rw [List.dropWhile_append_of_pos all, dropWhile_of_stops stops]

/-- The run that a list starts with is unique. -/
theorem run_unique (same : run ++ rest = run' ++ rest') (all : ∀ c ∈ run, p c = true)
    (stops : Stops p rest) (all' : ∀ c ∈ run', p c = true) (stops' : Stops p rest') :
    run = run' ∧ rest = rest' := by
  constructor
  · rw [← takeWhile_run all stops, same, takeWhile_run all' stops']
  · rw [← dropWhile_run all stops, same, dropWhile_run all' stops']

end

section

variable {α : Type} [BEq α] [LawfulBEq α] {x : α}

theorem mem_and_ne_of_mem_splitOn {xs piece : List α} (cut : piece ∈ xs.splitOn x) {y : α}
    (member : y ∈ piece) : y ∈ xs ∧ y ≠ x := by
  induction xs generalizing piece with
  | nil =>
      rw [List.splitOn_nil, List.mem_singleton] at cut
      rw [cut] at member
      cases member
  | cons z zs ih =>
      rw [List.splitOn_cons_eq_if_modifyHead] at cut
      obtain ⟨first, more, split⟩ := List.exists_cons_of_ne_nil (List.splitOn_ne_nil x zs)
      rw [split] at cut ih
      have later {piece : List α} (cut : piece ∈ first :: more) (member : y ∈ piece) :
          y ∈ z :: zs ∧ y ≠ x :=
        (ih cut member).imp_left (List.mem_cons_of_mem z)
      split_ifs at cut with same
      · rcases List.mem_cons.1 cut with rfl | cut
        · cases member
        · exact later cut member
      · rcases List.mem_cons.1 cut with rfl | cut
        · rcases List.mem_cons.1 member with rfl | member
          · exact ⟨List.mem_cons_self .., fun equal => same (beq_iff_eq.2 equal)⟩
          · exact later (List.mem_cons_self ..) member
        · exact later (List.mem_cons_of_mem _ cut) member

omit [LawfulBEq α] in
theorem splitOn_append (xs : List α) {ys first : List α} {more : List (List α)}
    (split : ys.splitOn x = first :: more) :
    (xs ++ ys).splitOn x =
      (xs.splitOn x).dropLast ++ ((xs.splitOn x).getLast?.getD [] ++ first) :: more := by
  induction xs with
  | nil => rw [List.nil_append, split, List.splitOn_nil]; rfl
  | cons y xs ih =>
      rw [List.cons_append, List.splitOn_cons_eq_if_modifyHead, List.splitOn_cons_eq_if_modifyHead,
        ih]
      obtain ⟨start, rest, cut⟩ := List.exists_cons_of_ne_nil (List.splitOn_ne_nil x xs)
      rw [cut]
      -- The character goes to the first piece, which is the last as well if it is the only one.
      cases rest <;> split_ifs <;> rfl

end

end LintBridge.Text
