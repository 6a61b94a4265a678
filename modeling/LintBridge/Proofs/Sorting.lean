import Mathlib.Data.List.Sort

/-!
# Sorting by a key

A sort that compares nothing but keys is stable: the members of one key stay in the order in which
they were given (`filter_mergeSort`). So members that are given with their places come out by key,
and by place where the keys are the same (`pairwise_mergeSort_places`).
-/
set_option autoImplicit false

namespace LintBridge

theorem zipIdx_pairwise_lt {α : Type} (xs : List α) :
    xs.zipIdx.Pairwise fun e e' => e.2 < e'.2 := by
  rw [← List.pairwise_map (f := Prod.snd), List.zipIdx_map_snd]
  exact List.pairwise_lt_range'

/-- A test that holds where the key of the first member is not greater than that of the second. -/
def ComparesBy {α κ : Type} [LinearOrder κ] (key : α → κ) (le : α → α → Bool) : Prop :=
  ∀ a b, le a b = true ↔ key a ≤ key b

section

variable {α κ : Type} [LinearOrder κ] {key : α → κ} {le : α → α → Bool}

theorem ComparesBy.trans (compares : ComparesBy key le) (a b c : α) (first : le a b = true)
    (second : le b c = true) : le a c = true := by
  rw [compares] at first second ⊢
  exact first.trans second

theorem ComparesBy.total (compares : ComparesBy key le) (a b : α) : (le a b || le b a) = true := by
  rw [Bool.or_eq_true, compares, compares]
  exact le_total (key a) (key b)

theorem pairwise_mergeSort_key (compares : ComparesBy key le) (xs : List α) :
    (xs.mergeSort le).Pairwise fun a b => key a ≤ key b :=
  (List.pairwise_mergeSort compares.trans compares.total xs).imp fun {a b} => (compares a b).1

/-- Members of one key keep their order. -/
theorem filter_mergeSort (compares : ComparesBy key le) (xs : List α) (k : κ) :
    (xs.mergeSort le).filter (fun a => decide (key a = k)) =
      xs.filter fun a => decide (key a = k) := by
  have level : (xs.filter fun a => decide (key a = k)).Pairwise fun a b => le a b = true := by
    refine List.pairwise_of_forall_mem_list fun a here b there => ?_
    have first := of_decide_eq_true (List.mem_filter.1 here).2
    have second := of_decide_eq_true (List.mem_filter.1 there).2
    rw [compares, first, second]
  -- They are a sorted part of what is sorted, and so a part of the outcome as well.
  have kept := (List.sublist_mergeSort compares.trans compares.total level
    List.filter_sublist).filter fun a => decide (key a = k)
  rw [List.filter_filter] at kept
  simp only [Bool.and_self] at kept
  exact (kept.eq_of_length ((List.mergeSort_perm xs le).filter _).length_eq.symm).symm

end

/-- Members that come with their places come out by key, and those of one key by place. -/
theorem pairwise_mergeSort_places {α κ : Type} [LinearOrder κ] {key : α × Nat → κ}
    {le : α × Nat → α × Nat → Bool} (compares : ComparesBy key le) {xs : List (α × Nat)}
    (placed : xs.Pairwise fun a b => a.2 < b.2) :
    (xs.mergeSort le).Pairwise fun a b => key a < key b ∨ key a = key b ∧ a.2 < b.2 := by
  rw [List.pairwise_iff_forall_sublist]
  intro a b both
  have ordered : key a ≤ key b :=
    List.pairwise_iff_forall_sublist.1 (pairwise_mergeSort_key compares xs) both
  rcases ordered.lt_or_eq with before | same
  · exact .inl before
  · have kept := both.filter fun c => decide (key c = key b)
    rw [filter_mergeSort compares xs (key b)] at kept
    simp only [List.filter_cons, same, decide_true, if_true, List.filter_nil] at kept
    have given := kept.trans List.filter_sublist
    exact .inr ⟨same, List.pairwise_iff_forall_sublist.1 placed given⟩

end LintBridge
