import LintBridge.SourceSearch

/-!
# When a search cannot be set up

Three things keep a search from being set up: a document whose URI is malformed, a document of whose
directory it cannot be told whether it exists, and a folder whose URI is malformed. The document
only matters where no base directory is configured, and of several malformed folders the first one
is reported.
-/
set_option autoImplicit false

namespace LintBridge.SourceSearch

/-- What keeps a search from being set up. -/
inductive Fails (fs : FileSystem) (base : Option Path) (d : Document)
    (folders : List WorkspaceFolder) : SearchFault → Prop where
  | document (fault : FileUri.Fault) (unset : base = none)
      (malformed : FileUri.toPath? d.uri = .error fault) : Fails fs base d folders (.uri fault)
  | directory (path : Path) (fault : FileFault) (unset : base = none)
      (named : FileUri.toPath? d.uri = .ok (some path))
      (unknown : fs.isDirectory path.parent = .error fault) :
      Fails fs base d folders (.probe fault path.parent)
  | folder (before after : List WorkspaceFolder) (first : WorkspaceFolder) (fault : FileUri.Fault)
      (started : ∃ cwd, startOf fs base d = .ok cwd)
      (split : folders = before ++ first :: after)
      (wellFormed : ∀ f ∈ before, ∃ path, FileUri.toPath? f.uri = .ok path)
      (malformed : FileUri.toPath? first.uri = .error fault) : Fails fs base d folders (.uri fault)

theorem startOf_eq_error_iff (fs : FileSystem) (base : Option Path) (d : Document)
    (fault : SearchFault) :
    startOf fs base d = .error fault ↔
      base = none ∧
        ((∃ u, FileUri.toPath? d.uri = .error u ∧ fault = .uri u) ∨
          ∃ path f, FileUri.toPath? d.uri = .ok (some path) ∧
            fs.isDirectory path.parent = .error f ∧ fault = .probe f path.parent) := by
  cases base with
  | some path => simp [startOf]
  | none =>
      simp only [startOf, directoryOf, true_and]
      cases named : FileUri.toPath? d.uri with
      | error u => simp [Except.map, eq_comm]
      | ok found =>
          cases found with
          | none => simp [Except.map]
          | some path =>
              cases probed : fs.isDirectory path.parent with
              | error f => simp [Except.map, probed, eq_comm]
              | ok answer => simp [Except.map, probed]

/-- The first malformed folder is the one that is reported. -/
theorem folderPaths_eq_error_iff (folders : List WorkspaceFolder) (fault : SearchFault) :
    folderPaths folders = .error fault ↔
      ∃ before first after u, folders = before ++ first :: after ∧
        (∀ f ∈ before, ∃ path, FileUri.toPath? f.uri = .ok path) ∧
          FileUri.toPath? first.uri = .error u ∧ fault = .uri u := by
  induction folders with
  | nil => simp [folderPaths]
  | cons folder more ih =>
      simp only [folderPaths]
      cases read : FileUri.toPath? folder.uri with
      | error u =>
          constructor
          · intro same
            exact ⟨[], folder, more, u, rfl, by simp, read, (Except.error.inj same).symm⟩
          · rintro ⟨before, first, after, u', split, wellFormed, malformed, rfl⟩
            cases before with
            | nil =>
                obtain ⟨rfl, -⟩ := List.cons.inj split
                rw [read] at malformed
                rw [Except.error.inj malformed]
            | cons head tail =>
                obtain ⟨rfl, -⟩ := List.cons.inj split
                obtain ⟨path, fine⟩ := wellFormed folder (List.mem_cons_self ..)
                rw [read] at fine
                cases fine
      | ok path =>
          have later : (folderPaths more).map (fun paths => path.toList ++ paths) = .error fault ↔
              folderPaths more = .error fault := by
            cases folderPaths more <;> simp [Except.map]
          rw [later, ih]
          constructor
          · rintro ⟨before, first, after, u, rfl, wellFormed, malformed, rfl⟩
            refine ⟨folder :: before, first, after, u, rfl, ?_, malformed, rfl⟩
            intro f member
            rcases List.mem_cons.1 member with rfl | member
            · exact ⟨path, read⟩
            · exact wellFormed f member
          · rintro ⟨before, first, after, u, split, wellFormed, malformed, rfl⟩
            cases before with
            | nil =>
                obtain ⟨rfl, -⟩ := List.cons.inj split
                rw [read] at malformed
                cases malformed
            | cons head tail =>
                obtain ⟨rfl, rfl⟩ := List.cons.inj split
                exact ⟨tail, first, after, u, rfl,
                  fun f member => wellFormed f (List.mem_cons_of_mem _ member), malformed, rfl⟩

theorem ofDocument_of_unstarted {fs : FileSystem} {base : Option Path} {d : Document}
    {fault : SearchFault} (unstarted : startOf fs base d = .error fault)
    (folders : List WorkspaceFolder) : ofDocument fs base d folders = .error fault := by
  rw [ofDocument, unstarted]
  rfl

theorem ofDocument_of_started {fs : FileSystem} {base : Option Path} {d : Document} {cwd : Path}
    (started : startOf fs base d = .ok cwd) (folders : List WorkspaceFolder) :
    ofDocument fs base d folders =
      (folderPaths folders).map fun paths => ⟨cwd, distinct (cwd :: paths)⟩ := by
  rw [ofDocument, started]
  cases folderPaths folders <;> rfl

theorem ofDocument_of_fails {fs : FileSystem} {base : Option Path} {d : Document}
    {folders : List WorkspaceFolder} {fault : SearchFault} (fails : Fails fs base d folders fault) :
    ofDocument fs base d folders = .error fault := by
  cases fails with
  | document u unset malformed =>
      exact ofDocument_of_unstarted
        ((startOf_eq_error_iff ..).2 ⟨unset, Or.inl ⟨u, malformed, rfl⟩⟩) folders
  | directory path f unset named unknown =>
      exact ofDocument_of_unstarted
        ((startOf_eq_error_iff ..).2 ⟨unset, Or.inr ⟨path, f, named, unknown, rfl⟩⟩) folders
  | folder before after first u started split wellFormed malformed =>
      obtain ⟨cwd, started⟩ := started
      have failed := (folderPaths_eq_error_iff folders (.uri u)).2
        ⟨before, first, after, u, split, wellFormed, malformed, rfl⟩
      rw [ofDocument_of_started started, failed]
      rfl

/-- A search cannot be set up exactly for the causes that `Fails` names. -/
theorem ofDocument_eq_error_iff (fs : FileSystem) (base : Option Path) (d : Document)
    (folders : List WorkspaceFolder) (fault : SearchFault) :
    ofDocument fs base d folders = .error fault ↔ Fails fs base d folders fault := by
  refine ⟨fun failed => ?_, ofDocument_of_fails⟩
  cases started : startOf fs base d with
  | error e =>
      rw [ofDocument_of_unstarted started] at failed
      obtain rfl := Except.error.inj failed
      obtain ⟨unset, ⟨u, malformed, rfl⟩ | ⟨path, f, named, unknown, rfl⟩⟩ :=
        (startOf_eq_error_iff ..).1 started
      · exact .document u unset malformed
      · exact .directory path f unset named unknown
  | ok cwd =>
      rw [ofDocument_of_started started] at failed
      cases read : folderPaths folders with
      | ok paths => simp [read, Except.map] at failed
      | error e =>
          simp only [read, Except.map, Except.error.injEq] at failed
          subst failed
          obtain ⟨before, first, after, u, split, wellFormed, malformed, rfl⟩ :=
            (folderPaths_eq_error_iff folders e).1 read
          exact .folder before after first u ⟨cwd, started⟩ split wellFormed malformed

end LintBridge.SourceSearch
