import LintBridge.Proofs.FileSystem.Walk

/-!
# The names of a resolved path

Every name in a resolved path is one of the path that was resolved, of the directory of the process
or of the target of a link (`forall_names_of_resolve`). No character gets into a resolved path that
is in none of these, in particular not the one that ends a path for the system
(`hasNul_of_resolve`).
-/
set_option autoImplicit false

namespace LintBridge

namespace Path

theorem mem_names_ofNames {anchor : Anchor} {texts : List String} {name : String} :
    name ∈ (ofNames anchor texts).names ↔ name ∈ texts ∧ isPathName name = true := by
  rw [ofNames, List.mem_filter]

theorem intercalate_pieces (text : List Char) :
    ("/".intercalate (pieces text)).toList = text := by
  have slash : "/".toList = ['/'] := by decide
  have letters : String.toList ∘ String.ofList = id := by
    funext cs
    exact String.toList_ofList
  rw [String.toList_intercalate, slash, pieces, List.map_map, letters, List.map_id,
    List.intercalate_splitOn]

theorem mem_of_mem_pieces {text : List Char} {piece : String} (cut : piece ∈ pieces text)
    {c : Char} (noSlash : c ≠ '/') (member : c ∈ piece.toList) : c ∈ text := by
  rw [← intercalate_pieces text, mem_intercalate_slash_iff noSlash]
  exact ⟨piece, cut, member⟩

theorem mem_of_mem_names_ofString {s name : String} (named : name ∈ (ofString s).names)
    {c : Char} (noSlash : c ≠ '/') (member : c ∈ name.toList) : c ∈ s.toList :=
  mem_of_mem_pieces (mem_names_ofNames.1 named).1 noSlash member

theorem hasNul_eq_false_iff (p : Path) :
    p.hasNul = false ↔ ∀ name ∈ p.names, '\x00' ∉ name.toList := by
  simp [hasNul]

section

variable {P : String → Prop}

theorem forall_names_append {anchor : Anchor} {front back : List String}
    (all : ∀ n ∈ front, P n) (all' : ∀ n ∈ back, P n) :
    ∀ n ∈ (ofNames anchor (front ++ back)).names, P n := by
  intro n member
  rcases List.mem_append.1 (mem_names_ofNames.1 member).1 with member | member
  · exact all n member
  · exact all' n member

theorem forall_names_child {p : Path} {name : String} (all : ∀ n ∈ p.names, P n) (own : P name) :
    ∀ n ∈ (p.child name).names, P n :=
  forall_names_append all (List.forall_mem_singleton.2 own)

theorem forall_names_parent {p : Path} (all : ∀ n ∈ p.names, P n) :
    ∀ n ∈ p.parent.names, P n := by
  intro n member
  exact all n (List.dropLast_subset _ (mem_names_ofNames.1 member).1)

theorem forall_names_above {p : Path} (all : ∀ n ∈ p.names, P n) (dots : P "..") :
    ∀ n ∈ p.above.names, P n := by
  unfold above
  split
  · split
    · exact forall_names_child all dots
    · exact forall_names_parent all
  · split
    · exact forall_names_child all dots
    · exact all

theorem mem_collapse {kept names : List String} {name : String}
    (member : name ∈ collapse kept names) : name ∈ kept ∨ name ∈ names := by
  induction names generalizing kept with
  | nil => exact Or.inl member
  | cons first more ih =>
      rw [collapse] at member
      split at member
      · rcases ih member with front | behind
        · exact Or.inl (List.dropLast_subset _ front)
        · exact Or.inr (List.mem_cons_of_mem _ behind)
      · rcases ih member with front | behind
        · rcases List.mem_append.1 front with front | last
          · exact Or.inl front
          · rw [List.mem_singleton.1 last]
            exact Or.inr (List.mem_cons_self ..)
        · exact Or.inr (List.mem_cons_of_mem _ behind)

theorem forall_names_normal {p : Path} (all : ∀ n ∈ p.names, P n) :
    ∀ n ∈ p.normal.names, P n := by
  intro n member
  rcases mem_collapse (mem_names_ofNames.1 member).1 with nothing | member
  · cases nothing
  · exact all n member

theorem forall_names_join {p q : Path} (front : ∀ n ∈ p.names, P n) (back : ∀ n ∈ q.names, P n) :
    ∀ n ∈ (p.join q).names, P n := by
  unfold join
  split
  · exact back
  · exact forall_names_append front back

end

end Path

namespace FileSystem

variable {fs : FileSystem} {P : String → Prop}

theorem exists_link_of_linkAt? {p : Path} {target : String} (linked : fs.linkAt? p = some target) :
    ∃ names, fs.node? names = some (.link target) := by
  unfold linkAt? at linked
  split at linked
  · rename_i found
    obtain rfl := Option.some.inj linked
    exact ⟨_, found⟩
  · cases linked

/-- What names lead to, or where they come back to a link, is written in these names, those of the
place they start from and those of the targets of links. -/
theorem forall_names_expand
    (targets : ∀ names target, fs.node? names = some (.link target) →
      ∀ n ∈ (Path.ofString target).names, P n) (dots : P "..") {depth : Nat} {opened : List Path}
    {place : Path} {names : List String} (start : ∀ n ∈ place.names, P n) (own : ∀ n ∈ names, P n)
    {q : Path} (found : fs.expand depth opened place names = .ok q ∨
      fs.expand depth opened place names = .error q) : ∀ n ∈ q.names, P n := by
  have ofTarget : ∀ p target, fs.linkAt? p = some target →
      ∀ n ∈ (Path.ofString target).names, P n := by
    intro p target linked
    obtain ⟨names, node⟩ := exists_link_of_linkAt? linked
    exact targets names target node
  have ofStart : ∀ target, ∀ place : Path, (∀ n ∈ place.names, P n) →
      ∀ n ∈ (if startsAtRoot target then Path.ofNames .root [] else place).names, P n := by
    intro target place all
    split
    · intro n member
      cases member
    · exact all
  fun_induction FileSystem.expand fs depth opened place names generalizing q with
  | case1 depth opened place =>
      simp only [Except.ok.injEq, reduceCtorEq, or_false] at found
      exact found ▸ start
  | case2 depth opened place rest ih =>
      exact ih (Path.forall_names_above start dots) (List.forall_mem_cons.1 own).2 found
  | case3 depth opened place name rest notUp next plain ih =>
      obtain ⟨first, behind⟩ := List.forall_mem_cons.1 own
      exact ih (Path.forall_names_child start first) behind found
  | case4 depth opened place name rest notUp next target linked again =>
      obtain ⟨first, behind⟩ := List.forall_mem_cons.1 own
      simp only [Except.error.injEq, reduceCtorEq, false_or] at found
      exact found ▸ Path.forall_names_append (Path.forall_names_child start first) behind
  | case5 opened place name rest notUp next target linked fresh =>
      obtain ⟨first, behind⟩ := List.forall_mem_cons.1 own
      simp only [Except.error.injEq, reduceCtorEq, false_or] at found
      exact found ▸ Path.forall_names_append (Path.forall_names_child start first) behind
  | case6 opened place name rest notUp next target linked fresh depth from' p inner ih =>
      have reached := ih (ofStart target place start) (ofTarget next target linked) (Or.inr inner)
      simp only [Except.error.injEq, reduceCtorEq, false_or] at found
      exact found ▸ Path.forall_names_append reached (List.forall_mem_cons.1 own).2
  | case7 opened place name rest notUp next target linked fresh depth from' p inner ih' ih =>
      have reached := ih' (ofStart target place start) (ofTarget next target linked) (Or.inl inner)
      exact ih reached (List.forall_mem_cons.1 own).2 found

theorem forall_names_of_resolve
    (targets : ∀ names target, fs.node? names = some (.link target) →
      ∀ n ∈ (Path.ofString target).names, P n) (dots : P "..") (above : ∀ n ∈ fs.here, P n)
    {p resolved : Path} (own : ∀ n ∈ p.names, P n) (found : fs.resolve p = .ok resolved) :
    ∀ n ∈ resolved.names, P n := by
  have cwd : ∀ n ∈ fs.cwd.names, P n := fun n member => above n (Path.mem_names_ofNames.1 member).1
  have start : ∀ n ∈ (if p.isAbsolute then Path.ofNames .root [] else Path.here).names, P n := by
    split <;> intro n member <;> cases member
  unfold resolve at found
  split at found
  · cases found
  · simp only at found
    split at found
    · cases found
    · obtain rfl := Except.ok.inj found
      apply Path.forall_names_normal
      apply Path.forall_names_join cwd
      split
      · rename_i q expanded
        exact forall_names_expand targets dots start own (Or.inl expanded)
      · rename_i q expanded
        exact forall_names_expand targets dots start own (Or.inr expanded)

/-- A tree of files as the system can hold it: neither the directory of the process nor the target
of a link has the character in it that ends a path. -/
structure IsNulFree (fs : FileSystem) : Prop where
  here : ∀ name ∈ fs.here, '\x00' ∉ name.toList
  targets : ∀ names target, fs.node? names = some (.link target) → '\x00' ∉ target.toList

theorem isNulFree_of_nodes (here : ∀ name ∈ fs.here, '\x00' ∉ name.toList)
    (targets : ∀ entry ∈ fs.nodes, ∀ target, entry.2 = .link target → '\x00' ∉ target.toList) :
    fs.IsNulFree := by
  refine ⟨here, ?_⟩
  intro names target node
  unfold node? at node
  split at node
  · cases node
  · obtain ⟨front, back, split, -⟩ := List.lookup_eq_some_iff.1 node
    exact targets (names, .link target) (by simp [split]) target rfl

theorem hasNul_of_resolve (nulFree : fs.IsNulFree) {p resolved : Path}
    (found : fs.resolve p = .ok resolved) : resolved.hasNul = false := by
  have own : p.hasNul = false := by
    cases holds : p.hasNul with
    | false => rfl
    | true => simp [resolve, holds] at found
  have targets : ∀ names target, fs.node? names = some (.link target) →
      ∀ n ∈ (Path.ofString target).names, '\x00' ∉ n.toList := by
    intro names target node n named member
    exact nulFree.targets names target node
      (Path.mem_of_mem_names_ofString named (by decide) member)
  exact (Path.hasNul_eq_false_iff resolved).2 (forall_names_of_resolve targets (by decide)
    nulFree.here ((Path.hasNul_eq_false_iff p).1 own) found)

end FileSystem

end LintBridge
