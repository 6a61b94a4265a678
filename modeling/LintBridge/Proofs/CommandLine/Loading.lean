import LintBridge.CommandLine.Check
import LintBridge.Proofs.Document.Loading
import LintBridge.Proofs.Json.Integers
import LintBridge.Proofs.Report.Diagnostics

/-!
# Loading what a command line names

A command line that makes sense names no path with the character that no path can hold, so that a
loop of links is the one thing that keeps its paths from being resolved (`loop_of_read`). A path is
read, or refused, or not resolved, which stops the loading; if all are resolved, loading yields the
readable documents in the order of the paths (`loadAll_eq`).
-/
set_option autoImplicit false

namespace LintBridge.CommandLine

/-! ## Paths on a command line -/

/-- The paths that a command line names. -/
def CheckOptions.named (o : CheckOptions) : List Path := o.cwd.toList ++ o.paths ++ o.folders

theorem exists_setting_of_mem_valuesOf {settings : List (Setting CheckKey)} {key : CheckKey}
    {value : String} (member : value ∈ valuesOf settings key) :
    ∃ s ∈ settings, s.key = key := by
  obtain ⟨s, kept, -⟩ := List.mem_map.1 member
  obtain ⟨given, same⟩ := List.mem_filter.1 kept
  exact ⟨s, given, by simpa using same⟩

theorem isNoPath_eq_false_of_mem {texts : List String} (fine : ¬ texts.any isNoPath = true)
    {text : String} (member : text ∈ texts) : isNoPath text = false := by
  have each := List.any_eq_false.1 (Bool.eq_false_iff.2 fine) text member
  exact Bool.eq_false_iff.2 each

/-- Words without a fault: no option that was given has one, and all arguments can be paths. -/
theorem of_firstFault?_eq_none {words : Words CheckKey} (sound : firstFault? words = none) :
    (∀ form ∈ checkForms, ∀ value ∈ valuesOf words.settings form.key,
        faultOf? words.settings form = none) ∧
      ∀ text ∈ words.arguments, isNoPath text = false := by
  simp only [firstFault?] at sound
  split at sound
  · cases sound
  · rename_i faultless
    constructor
    · intro form known value member
      obtain ⟨s, given, key⟩ := exists_setting_of_mem_valuesOf member
      apply List.findSome?_eq_none_iff.1 faultless
      refine List.mem_flatMap.2 ⟨s, given, List.mem_filter.2 ⟨known, ?_⟩⟩
      simp [key]
    · split at sound
      · cases sound
      · split at sound
        · cases sound
        · rename_i fine
          intro text member
          exact isNoPath_eq_false_of_mem fine member

theorem hasNul_of_firstFault? {words : Words CheckKey} (sound : firstFault? words = none)
    {p : Path} (member : p ∈ (CheckOptions.ofWords words).named) : p.hasNul = false := by
  obtain ⟨faultless, fine⟩ := of_firstFault?_eq_none sound
  simp only [CheckOptions.named, CheckOptions.ofWords, List.mem_append, Option.mem_toList,
    Option.map_eq_some_iff, List.mem_map] at member
  rcases member with (⟨text, last, rfl⟩ | ⟨text, member, rfl⟩) | ⟨text, member, rfl⟩
  · have none := faultless ⟨.cwd, ["--cwd"], true⟩ (by simp [checkForms]) text
      (List.mem_of_getLast? last)
    simp only [faultOf?, last, Option.getD_some] at none
    split at none
    · cases none
    · rename_i plain
      exact Bool.eq_false_iff.2 plain
  · exact fine text member
  · have none := faultless ⟨.folder, ["--workspace-folder", "-w"], true⟩ (by simp [checkForms])
      text member
    simp only [faultOf?] at none
    split at none
    · cases none
    · rename_i plain
      exact isNoPath_eq_false_of_mem plain member

theorem CheckOptions.hasNul_of_read {arguments : List String} {o : CheckOptions}
    (given : CheckOptions.read arguments = .ok (some o)) {p : Path} (member : p ∈ o.named) :
    p.hasNul = false := by
  unfold CheckOptions.read at given
  split at given
  · cases given
  · split at given
    · cases given
    · split at given
      · cases given
      · rename_i sound
        obtain rfl := Option.some.inj (Except.ok.inj given)
        exact hasNul_of_firstFault? sound member

/-- Only a loop of links keeps the paths of a command line from being resolved. -/
theorem CheckOptions.loop_of_read {arguments : List String} {o : CheckOptions}
    (given : CheckOptions.read arguments = .ok (some o)) {fs : FileSystem} {p : Path}
    (member : p ∈ o.named) {fault : ResolveFault} (unresolved : fs.resolve p = .error fault) :
    ∃ q, fault = .loop q := by
  cases fault with
  | loop q => exact ⟨q, rfl⟩
  | nul =>
      rw [FileSystem.resolve, CheckOptions.hasNul_of_read given member] at unresolved
      simp only [Bool.false_eq_true, if_false] at unresolved
      split at unresolved <;> cases unresolved

theorem CheckOptions.resolves_of_read {arguments : List String} {o : CheckOptions}
    (given : CheckOptions.read arguments = .ok (some o)) {fs : FileSystem}
    (loopFree : ∀ p ∈ o.named, ∀ q, fs.resolve p ≠ .error (.loop q)) {p : Path}
    (member : p ∈ o.named) : ∃ q, fs.resolve p = .ok q := by
  cases found : fs.resolve p with
  | ok q => exact ⟨q, rfl⟩
  | error fault =>
      obtain ⟨q, rfl⟩ := CheckOptions.loop_of_read given member found
      exact absurd found (loopFree p member q)

/-! ## Documents and folders -/

/-- The documents that can be loaded, with their paths and in the order of these. -/
def readable (fs : FileSystem) (paths : List Path) : List (Path × Document) :=
  paths.filterMap fun p => (Document.load fs p).toOption.map fun d => (p, d)

theorem load_of_mem_readable {fs : FileSystem} {paths : List Path} {p : Path} {d : Document}
    (member : (p, d) ∈ readable fs paths) : Document.load fs p = .ok d := by
  obtain ⟨q, -, loaded⟩ := List.mem_filterMap.1 member
  cases found : Document.load fs q with
  | error fault => simp [found, Except.toOption] at loaded
  | ok d' =>
      simp only [found, Except.toOption, Option.map_some, Option.some.injEq,
        Prod.mk.injEq] at loaded
      rw [← loaded.1, ← loaded.2, found]

theorem mem_readable {fs : FileSystem} {paths : List Path} {p : Path} {d : Document}
    (named : p ∈ paths) (loaded : Document.load fs p = .ok d) : (p, d) ∈ readable fs paths := by
  refine List.mem_filterMap.2 ⟨p, named, ?_⟩
  rw [loaded]
  rfl

theorem path_of_mem_readable {fs : FileSystem} {paths : List Path} {e : Path × Document}
    (member : e ∈ readable fs paths) : e.1 ∈ paths := by
  obtain ⟨p, named, loaded⟩ := List.mem_filterMap.1 member
  obtain ⟨d, -, rfl⟩ := Option.map_eq_some_iff.1 loaded
  exact named

theorem loadAll_cons_of_load {fs : FileSystem} {p : Path} {d : Document}
    (loaded : Document.load fs p = .ok d) (more : List Path) :
    loadAll fs (p :: more) =
      (loadAll fs more).map fun l => { l with documents := (p, d) :: l.documents } := by
  rw [loadAll, loaded]

theorem loadAll_cons_of_readFails {fs : FileSystem} {p : Path} {fault : LoadFault}
    (fails : ReadFails fs p fault) (more : List Path) :
    loadAll fs (p :: more) =
      (loadAll fs more).map fun l => { l with unreadable := (p, fault) :: l.unreadable } := by
  rw [loadAll, Document.load_of_readFails fails]
  cases fails <;> rfl

/-- A path that cannot be resolved stops the loading. -/
theorem loadAll_cons_of_resolve {fs : FileSystem} {p : Path} {fault : ResolveFault}
    (found : fs.resolve p = .error fault) (more : List Path) :
    loadAll fs (p :: more) = .error fault := by
  have failed : Document.load fs p = .error (.resolve fault) := by rw [Document.load, found]
  rw [loadAll, failed]

/-- Whatever is unreadable, what is loaded are the documents that can be. -/
theorem documents_of_loadAll {fs : FileSystem} {paths : List Path} {loaded : Loaded}
    (loadedAll : loadAll fs paths = .ok loaded) : loaded.documents = readable fs paths := by
  induction paths generalizing loaded with
  | nil =>
      obtain rfl := Except.ok.inj loadedAll
      rfl
  | cons p more ih =>
      rcases load_cases fs p with ⟨fault, unresolved⟩ | ⟨d, isRead⟩ | ⟨fault, fails⟩
      · rw [loadAll_cons_of_resolve unresolved] at loadedAll
        cases loadedAll
      · have found := Document.load_eq_ok_iff_isReadAs.2 isRead
        rw [loadAll_cons_of_load found] at loadedAll
        obtain ⟨rest, others, rfl⟩ := Json.map_eq_ok loadedAll
        simp [readable, found, Except.toOption, ih others]
      · rw [loadAll_cons_of_readFails fails] at loadedAll
        obtain ⟨rest, others, rfl⟩ := Json.map_eq_ok loadedAll
        simp [readable, Document.load_of_readFails fails, Except.toOption, ih others]

/-- If every path is resolved, loading yields the readable documents, and something is unreadable
exactly if a path has no document. -/
theorem loadAll_eq {fs : FileSystem} {paths : List Path}
    (resolves : ∀ p ∈ paths, ∃ q, fs.resolve p = .ok q) :
    ∃ unreadable, loadAll fs paths = .ok ⟨readable fs paths, unreadable⟩ ∧
      (unreadable.isEmpty = false ↔ ∃ p ∈ paths, ∀ d, Document.load fs p ≠ .ok d) := by
  induction paths with
  | nil => exact ⟨[], rfl, by simp⟩
  | cons p more ih =>
      obtain ⟨unreadable, loadedAll, isEmpty_iff⟩ := ih fun q member =>
        resolves q (List.mem_cons_of_mem _ member)
      obtain ⟨resolved, found⟩ := resolves p (List.mem_cons_self ..)
      rcases load_cases fs p with ⟨fault, unresolved⟩ | ⟨d, isRead⟩ | ⟨fault, fails⟩
      · cases found.symm.trans unresolved
      · have loaded := Document.load_eq_ok_iff_isReadAs.2 isRead
        refine ⟨unreadable, ?_, ?_⟩
        · rw [loadAll_cons_of_load loaded, loadedAll]
          simp [readable, loaded, Except.map, Except.toOption]
        · simp [isEmpty_iff, loaded]
      · have refused := Document.load_of_readFails fails
        refine ⟨(p, fault) :: unreadable, ?_, ?_⟩
        · rw [loadAll_cons_of_readFails fails, loadedAll]
          simp [readable, refused, Except.map, Except.toOption]
        · simp [refused]

theorem loadFolders_eq {fs : FileSystem} {paths : List Path}
    (resolves : ∀ p ∈ paths, ∃ q, fs.resolve p = .ok q) :
    ∃ folders, loadFolders fs paths = .ok folders ∧
      ∀ f ∈ folders, ∃ q, WorkspaceFolder.load fs q none = .ok f := by
  have each : ∀ p ∈ paths, ∃ f, WorkspaceFolder.load fs p none = .ok f := by
    intro p member
    obtain ⟨resolved, found⟩ := resolves p member
    exact ⟨⟨FileUri.ofPath resolved, resolved.name⟩, by
      simp only [WorkspaceFolder.load, found, Except.map]⟩
  obtain ⟨folders, loaded⟩ := exists_forall₂_of_forall each
  refine ⟨folders, (mapM_eq_ok_iff _ _ _).2 loaded, ?_⟩
  intro f member
  obtain ⟨p, -, loaded'⟩ := exists_left_of_forall₂ loaded member
  exact ⟨p, loaded'⟩

end LintBridge.CommandLine
