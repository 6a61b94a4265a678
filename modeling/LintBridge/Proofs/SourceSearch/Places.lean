import LintBridge.Proofs.Linter.Preparation
import LintBridge.Proofs.SourceSearch.Folders

/-!
# Where a search starts and where it looks

A search starts in the base directory, in the directory of the document or in that of the process
(`StartsIn`), and looks there and then in the folders that file URIs name, in each place once and in
the order of the first occurrences. What is no well-formed file URI of a possible path names no
place, and more folders only add places behind the others (`places_are_start_and_folders`).
-/
set_option autoImplicit false

namespace LintBridge

namespace FileUri

/-- The decoded text of a local path. -/
def Parts.localText (parts : Parts) : List Char :=
  percentDecode
    (if parts.authority = [] ∨ parts.authority = "localhost".toList then parts.path
      else '/' :: '/' :: parts.authority ++ parts.path)

/-- A URI names a path: it is a file URI, and its decoded text holds no NUL character and reads as
the path. -/
def Names (uri : String) (p : Path) : Prop :=
  ∃ parts, Parts.ofText uri.toList = .ok parts ∧ parts.scheme = "file".toList ∧
    '\x00' ∉ parts.localText ∧ p = Path.ofText parts.localText

/-- The path that a URI names. -/
def path? (uri : String) : Option Path :=
  match toPath? uri with
  | .ok path => path
  | .error _ => none

theorem Parts.localText_eq (parts : Parts) :
    percentDecode
        (if parts.authority.isEmpty || parts.authority == "localhost".toList then parts.path
          else '/' :: '/' :: parts.authority ++ parts.path) = parts.localText := by
  have same : (parts.authority.isEmpty || parts.authority == "localhost".toList) = true ↔
      parts.authority = [] ∨ parts.authority = "localhost".toList := by
    rw [Bool.or_eq_true, List.isEmpty_iff, beq_iff_eq]
  rw [localText, if_congr same rfl rfl]

theorem Parts.toPath?_eq_some_iff (parts : Parts) (p : Path) :
    parts.toPath? = some p ↔
      parts.scheme = "file".toList ∧ '\x00' ∉ parts.localText ∧
        p = Path.ofText parts.localText := by
  simp only [toPath?, localText_eq]
  by_cases scheme : parts.scheme = "file".toList
  · rw [if_neg (by rw [scheme, bne_self_eq_false]; exact Bool.false_ne_true)]
    by_cases nul : '\x00' ∈ parts.localText
    · simp only [List.contains_iff_mem, nul, if_true, reduceCtorEq, not_true, false_and, and_false]
    · simp only [List.contains_iff_mem, nul, if_false, Option.some.injEq, scheme, not_false_eq_true,
        true_and]
      exact eq_comm
  · rw [if_pos (bne_iff_ne.2 scheme)]
    simp only [reduceCtorEq, scheme, false_and]

theorem toPath?_eq_some_iff (uri : String) (p : Path) :
    toPath? uri = .ok (some p) ↔ Names uri p := by
  unfold toPath? Names
  cases Parts.ofText uri.toList with
  | error fault => simp [Except.map]
  | ok parts => simp [Except.map, parts.toPath?_eq_some_iff]

theorem path?_eq_some_iff (uri : String) (p : Path) : path? uri = some p ↔ Names uri p := by
  rw [← toPath?_eq_some_iff, path?]
  cases toPath? uri <;> simp

/-- A path that was named by a URI is one that a file can have. -/
theorem Names.hasNul_eq_false {uri : String} {p : Path} (named : Names uri p) :
    p.hasNul = false := by
  obtain ⟨parts, -, -, noNul, rfl⟩ := named
  rw [Path.hasNul_eq_false_iff]
  intro name member holds
  exact noNul (Path.mem_of_mem_pieces (Path.mem_names_ofNames.1 member).1 (by decide) holds)

end FileUri

namespace Path

theorem hasNul_parent {p : Path} (nulFree : p.hasNul = false) : p.parent.hasNul = false := by
  rw [hasNul_eq_false_iff] at nulFree ⊢
  exact forall_names_parent nulFree

end Path

namespace SourceSearch

/-- The directory that a search starts in. -/
inductive StartsIn (fs : FileSystem) (base : Option Path) (d : Document) : Path → Prop where
  | base (path : Path) (given : base = some path) : StartsIn fs base d path
  | document (path : Path) (enterable : Bool) (unset : base = none)
      (named : FileUri.Names d.uri path)
      (exists' : fs.stat path.parent = .ok (.directory enterable)) :
      StartsIn fs base d path.parent
  | process (unset : base = none)
      (elsewhere : ∀ path, FileUri.Names d.uri path →
        ∀ enterable, fs.stat path.parent ≠ .ok (.directory enterable)) :
      StartsIn fs base d fs.cwd

section

variable {fs : FileSystem} {base : Option Path} {d : Document} {folders : List WorkspaceFolder}

/-- The directory of a document is the parent of the path that its URI names, if that exists. -/
theorem directoryOf_eq_ok {directory : Option Path} (found : directoryOf fs d = .ok directory)
    (p : Path) :
    directory = some p ↔ ∃ path enterable, FileUri.Names d.uri path ∧
      fs.stat path.parent = .ok (.directory enterable) ∧ path.parent = p := by
  simp only [← FileUri.toPath?_eq_some_iff]
  cases read : FileUri.toPath? d.uri with
  | error fault => simp [directoryOf, read] at found
  | ok path? =>
      cases path? with
      | none =>
          simp only [directoryOf, read, Except.ok.injEq] at found
          simp [← found]
      | some path =>
          have nulFree : path.parent.hasNul = false :=
            Path.hasNul_parent ((FileUri.toPath?_eq_some_iff d.uri path).1 read).hasNul_eq_false
          have exists_iff := @FileSystem.isDirectory_eq_true_iff fs path.parent
          cases probed : fs.isDirectory path.parent with
          | error fault => simp [directoryOf, read, probed] at found
          | ok answer =>
              simp only [directoryOf, read, probed, Except.ok.injEq] at found
              rw [probed, Except.ok.injEq] at exists_iff
              simp only [nulFree, true_and] at exists_iff
              simp [← found, exists_iff]

theorem startsIn_of_startOf {cwd : Path} (started : startOf fs base d = .ok cwd) :
    StartsIn fs base d cwd := by
  cases base with
  | some path =>
      obtain rfl := Except.ok.inj started
      exact .base path rfl
  | none =>
      rw [startOf] at started
      cases found : directoryOf fs d with
      | error fault => simp [found, Except.map] at started
      | ok directory =>
          rw [found] at started
          obtain rfl := Except.ok.inj started
          cases directory with
          | some p =>
              obtain ⟨path, enterable, named, exists', rfl⟩ := (directoryOf_eq_ok found p).1 rfl
              exact .document path enterable rfl named exists'
          | none =>
              refine .process rfl fun path named enterable exists' => ?_
              cases (directoryOf_eq_ok found _).2 ⟨path, enterable, named, exists', rfl⟩

/-! ## Folders -/

/-- Folders whose URIs can be read have the paths that these name, in order. -/
theorem folderPaths_eq_ok {paths : List Path} (read : folderPaths folders = .ok paths) :
    (∀ f ∈ folders, ∃ path, FileUri.toPath? f.uri = .ok path) ∧
      paths = folders.filterMap fun f => FileUri.path? f.uri := by
  induction folders generalizing paths with
  | nil =>
      obtain rfl := Except.ok.inj read
      exact ⟨by simp, rfl⟩
  | cons first more ih =>
      cases own : FileUri.toPath? first.uri with
      | error fault => simp [folderPaths, own] at read
      | ok path =>
          cases rest : folderPaths more with
          | error fault => simp [folderPaths, own, rest, Except.map] at read
          | ok others =>
              obtain ⟨wellFormed, rfl⟩ := ih rest
              simp only [folderPaths, own, rest, Except.map, Except.ok.injEq] at read
              have named : FileUri.path? first.uri = path := by rw [FileUri.path?, own]
              refine ⟨List.forall_mem_cons.2 ⟨⟨path, own⟩, wellFormed⟩, ?_⟩
              rw [← read, List.filterMap_cons, named]
              cases path <;> rfl

theorem folderPaths_of_wellFormed
    (wellFormed : ∀ f ∈ folders, ∃ path, FileUri.toPath? f.uri = .ok path) :
    folderPaths folders = .ok (folders.filterMap fun f => FileUri.path? f.uri) := by
  obtain ⟨paths, read, -⟩ := exists_folderPaths wellFormed
  rw [read, (folderPaths_eq_ok read).2]

/-! ## First occurrences -/

theorem distinct_filter (p : Path → Bool) (paths : List Path) :
    distinct (paths.filter p) = (distinct paths).filter p := by
  induction paths with
  | nil => rfl
  | cons first more ih =>
      rw [distinct, List.filter_cons, List.filter_cons]
      split
      · rw [distinct, ih, List.filter_filter, List.filter_filter]
        simp only [Bool.and_comm]
      · rename_i out
        rw [ih, List.filter_filter]
        apply List.filter_congr
        intro path _
        by_cases same : path = first
        · simp [same, out]
        · simp [same]

theorem distinct_eq_eraseDups (paths : List Path) : distinct paths = paths.eraseDups := by
  match paths with
  | [] => rfl
  | first :: more =>
      have shorter := distinct_eq_eraseDups (more.filter fun path => !path == first)
      rw [List.eraseDups_cons, ← shorter, distinct_filter, distinct]
      simp only [ne_eq, decide_not, beq_eq_decide]
termination_by paths.length
decreasing_by exact Nat.lt_succ_of_le (List.length_filter_le _ _)

theorem distinct_sublist (paths : List Path) : (distinct paths).Sublist paths := by
  induction paths with
  | nil => exact .slnil
  | cons first more ih => exact ((List.filter_sublist).trans ih).cons_cons first

/-! ## Searches -/

theorem ofDocument_of_wellFormed {cwd : Path} (started : startOf fs base d = .ok cwd)
    (wellFormed : ∀ f ∈ folders, ∃ path, FileUri.toPath? f.uri = .ok path) :
    ofDocument fs base d folders =
      .ok ⟨cwd, (cwd :: folders.filterMap fun f => FileUri.path? f.uri).eraseDups⟩ := by
  rw [ofDocument_of_started started, folderPaths_of_wellFormed wellFormed,
    ← distinct_eq_eraseDups]
  rfl

theorem ofDocument_eq_ok {s : SourceSearch} (made : ofDocument fs base d folders = .ok s) :
    startOf fs base d = .ok s.cwd ∧
      (∀ f ∈ folders, ∃ path, FileUri.toPath? f.uri = .ok path) ∧
        s.places = distinct (s.cwd :: folders.filterMap fun f => FileUri.path? f.uri) := by
  cases started : startOf fs base d with
  | error fault =>
      rw [ofDocument_of_unstarted started] at made
      cases made
  | ok cwd =>
      rw [ofDocument_of_started started] at made
      cases read : folderPaths folders with
      | error fault => simp [read, Except.map] at made
      | ok paths =>
          obtain ⟨wellFormed, rfl⟩ := folderPaths_eq_ok read
          simp only [read, Except.map, Except.ok.injEq] at made
          subst made
          exact ⟨rfl, wellFormed, rfl⟩

/-- The places of a search are given to the analyser in their order. -/
theorem arguments_infix_command (config : LinterConfig) (executable dialect : String)
    (s : SourceSearch) :
    s.places.map (fun place => "--source-path=" ++ place.toString) <:+:
      Linter.command config executable dialect s :=
  ⟨executable :: Linter.baseArguments ++ [s!"--shell={dialect}"], config.arguments ++ ["-"], by
    rw [Linter.command, List.append_assoc _ config.arguments]
    rfl⟩

/-- A search that can be set up starts where `StartsIn` says, and looks there first and then in the
paths that the URIs of the folders name, in each at its first occurrence only. With a base directory
neither the document nor the files have a say in it, no path of a URI holds a NUL character, further
folders add their places behind the others, and the analyser runs in the first place and is given
all of them. -/
theorem places_are_start_and_folders
    (sound : ∀ fault, ¬ Fails fs base d folders fault) :
    let named := folders.filterMap fun f => FileUri.path? f.uri
    ∃ s, ofDocument fs base d folders = .ok s ∧ StartsIn fs base d s.cwd ∧
      s.places = (s.cwd :: named).eraseDups ∧
      (s.places.head? = some s.cwd ∧ s.places.Nodup ∧ s.places.Sublist (s.cwd :: named) ∧
        ∀ p, p ∈ s.places ↔ p = s.cwd ∨ ∃ f ∈ folders, FileUri.Names f.uri p) ∧
      ((∀ f ∈ folders, ∀ p, FileUri.Names f.uri p → p.hasNul = false) ∧
        ∀ p, FileUri.Names d.uri p → p.parent.hasNul = false) ∧
      (base.isSome = true → ∀ fs' d', ofDocument fs' base d' folders = .ok s) ∧
      (∀ more, (∀ f ∈ more, ∃ path, FileUri.toPath? f.uri = .ok path) → ∃ t,
        ofDocument fs base d (folders ++ more) = .ok t ∧ t.cwd = s.cwd ∧
          s.places <+: t.places) ∧
      ∀ l : Linter, l.config.cwd = base → l.Attempts d → ∃ i debug,
        l.prepare fs d folders = .run i debug ∧ i.cwd = s.places.head? ∧
          s.places.map (fun place => "--source-path=" ++ place.toString) <:+: i.command := by
  intro named
  cases made : ofDocument fs base d folders with
  | error fault => exact absurd ((ofDocument_eq_error_iff ..).1 made) (sound fault)
  | ok s =>
      obtain ⟨started, wellFormed, places⟩ := ofDocument_eq_ok made
      refine ⟨s, rfl, startsIn_of_startOf started, ?_, ⟨?_, ?_, ?_, fun p => ?_⟩, ⟨?_, ?_⟩, ?_, ?_,
        ?_⟩
      · rw [places, distinct_eq_eraseDups]
      · rw [places]
        rfl
      · rw [places]
        exact nodup_distinct _
      · rw [places]
        exact distinct_sublist _
      · rw [places, mem_distinct, List.mem_cons, List.mem_filterMap]
        simp only [FileUri.path?_eq_some_iff]
      · exact fun f member p named => named.hasNul_eq_false
      · exact fun p named => Path.hasNul_parent named.hasNul_eq_false
      · intro given fs' d'
        obtain ⟨path, rfl⟩ := Option.isSome_iff_exists.1 given
        exact made
      · intro more wellFormed'
        have all : ∀ f ∈ folders ++ more, ∃ path, FileUri.toPath? f.uri = .ok path := by
          intro f member
          exact (List.mem_append.1 member).elim (wellFormed f) (wellFormed' f)
        refine ⟨_, ofDocument_of_wellFormed started all, rfl, ?_⟩
        rw [places, distinct_eq_eraseDups, List.filterMap_append, ← List.cons_append,
          List.eraseDups_append]
        exact List.prefix_append _ _
      · rintro l rfl attempts
        obtain ⟨executable, dialect, -, -, prepared⟩ :=
          Linter.prepare_of_attempts attempts fs folders
        rw [made] at prepared
        refine ⟨_, _, prepared, ?_, ?_⟩
        · rw [places]
          rfl
        · exact arguments_infix_command l.config executable dialect s

/-- Folders that are written in other ways than the directory of the document or than each other,
one that is no file and one that no file can have. -/
theorem places_of_overlapping_folders :
    let fs : FileSystem := ⟨[(["srv"], .directory true)], []⟩
    let d : Document := ⟨"file:///srv/a.sh", "echo a\n", "shellscript"⟩
    let folders : List WorkspaceFolder :=
      [⟨"file:///lib/", "lib"⟩, ⟨"untitled:1", "new"⟩, ⟨"file://localhost/%73rv/.", "srv"⟩,
        ⟨"file:///%00", "nul"⟩, ⟨"file:///./lib", "lib"⟩]
    let l := Linter.ofConfig { executable := some "shellcheck" }
    let srv := Path.ofNames .root ["srv"]
    (∀ fault, ¬ Fails fs none d folders fault) ∧ ∃ s, ofDocument fs none d folders = .ok s ∧
      s.places = [srv, Path.ofNames .root ["lib"]] ∧
      ∃ i debug, l.prepare fs d folders = .run i debug ∧ i.cwd = some srv := by
  intro fs d folders l srv
  have start : startOf fs none d = .ok srv := by
    have read : FileUri.toPath? d.uri = .ok (some (Path.ofNames .root ["srv", "a.sh"])) := by
      decide +kernel
    have parent : (Path.ofNames .root ["srv", "a.sh"]).parent = srv := by decide +kernel
    have found : fs.stat srv = .ok (.directory true) :=
      FileSystem.stat_of_root_entry (by decide) (by decide) (by decide) rfl (by simp)
    have exists' : fs.isDirectory srv = .ok true :=
      FileSystem.isDirectory_eq_true_iff.2 ⟨by decide, true, found⟩
    simp only [startOf, directoryOf, read, parent, exists', Except.map, if_true, Option.getD_some]
  have wellFormed : ∀ f ∈ folders, ∃ path, FileUri.toPath? f.uri = .ok path := by
    have all : folders.map (fun f => FileUri.toPath? f.uri) =
        [.ok (some (Path.ofNames .root ["lib"])), .ok none, .ok (some srv), .ok none,
          .ok (some (Path.ofNames .root ["lib"]))] := by
      decide +kernel
    intro f member
    have listed := List.mem_map_of_mem (f := fun f => FileUri.toPath? f.uri) member
    rw [all] at listed
    simp only [List.mem_cons, List.not_mem_nil, or_false] at listed
    rcases listed with read | read | read | read | read <;> exact ⟨_, read⟩
  have sound : ∀ fault, ¬ Fails fs none d folders fault := by
    intro fault fails
    have made := ofDocument_of_wellFormed start wellFormed
    rw [ofDocument_of_fails fails] at made
    cases made
  obtain ⟨s, made, -, places, ⟨head, -⟩, -, -, -, prepares⟩ := places_are_start_and_folders sound
  have cwd : s.cwd = srv := by
    obtain rfl := Except.ok.inj (made.symm.trans (ofDocument_of_wellFormed start wellFormed))
    rfl
  obtain ⟨i, debug, ready, runsIn, -⟩ :=
    prepares l rfl ⟨by decide +kernel, by decide +kernel, by decide +kernel⟩
  refine ⟨sound, s, made, ?_, i, debug, ready, ?_⟩
  · rw [places, cwd]
    decide +kernel
  · rw [runsIn, head, cwd]

end

end SourceSearch

end LintBridge
