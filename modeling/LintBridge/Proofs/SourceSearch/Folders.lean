import LintBridge.Proofs.Document.Loading
import LintBridge.Proofs.FileSystem.Resolution
import Mathlib.Data.List.Nodup

/-!
# The places of a search

A search looks in every path once (`nodup_distinct`), first where it starts and then in the folders
that are named by file URIs. Since the URI of a path names that path, two folders take up one place
if their paths resolve to the same one and two places if not (`paths_round_trip`).
-/
set_option autoImplicit false

namespace LintBridge

namespace SourceSearch

theorem mem_distinct {path : Path} {paths : List Path} : path ∈ distinct paths ↔ path ∈ paths := by
  induction paths with
  | nil => exact Iff.rfl
  | cons first more ih =>
      rw [distinct, List.mem_cons, List.mem_cons, List.mem_filter, ih, decide_eq_true_eq]
      by_cases same : path = first
      · simp only [same, true_or]
      · simp only [same, false_or, not_false_eq_true, ne_eq, and_true]

theorem nodup_distinct (paths : List Path) : (distinct paths).Nodup := by
  induction paths with
  | nil => exact List.nodup_nil
  | cons first more ih =>
      rw [distinct, List.nodup_cons]
      refine ⟨?_, ih.filter _⟩
      intro again
      have other := (List.mem_filter.1 again).2
      exact absurd rfl (of_decide_eq_true other)

/-- Folders whose URIs can be read have paths, those that these URIs name. -/
theorem exists_folderPaths {folders : List WorkspaceFolder}
    (wellFormed : ∀ f ∈ folders, ∃ path, FileUri.toPath? f.uri = .ok path) :
    ∃ paths, folderPaths folders = .ok paths ∧
      ∀ f ∈ folders, ∀ path, FileUri.toPath? f.uri = .ok (some path) → path ∈ paths := by
  induction folders with
  | nil => exact ⟨[], rfl, fun f none => by cases none⟩
  | cons first more ih =>
      obtain ⟨⟨path, read⟩, later⟩ := List.forall_mem_cons.1 wellFormed
      obtain ⟨paths, rest, members⟩ := ih later
      refine ⟨path.toList ++ paths, by simp only [folderPaths, read, rest, Except.map], ?_⟩
      intro f member path' named
      rcases List.mem_cons.1 member with rfl | member
      · rw [read, Except.ok.injEq] at named
        rw [named]
        exact List.mem_append_left _ (List.mem_singleton_self _)
      · exact List.mem_append_right _ (members f member path' named)

end SourceSearch

/-- Two members of a list without repetitions stand in one or in two of its places. -/
theorem length_filter_eq_or_eq {α : Type} [DecidableEq α] {l : List α} (nodup : l.Nodup) {a b : α}
    (first : a ∈ l) (second : b ∈ l) :
    (l.filter fun x => x = a ∨ x = b).length = if a = b then 1 else 2 := by
  have kept := nodup.filter fun x => x = a ∨ x = b
  split
  · rename_i same
    have alone : (l.filter fun x => x = a ∨ x = b).Perm [a] := by
      rw [List.perm_ext_iff_of_nodup kept (List.nodup_singleton a)]
      intro x
      rw [List.mem_filter, decide_eq_true_eq, List.mem_singleton, ← same, or_self]
      exact and_iff_right_of_imp fun is => is ▸ first
    exact alone.length_eq
  · rename_i differ
    have both : (l.filter fun x => x = a ∨ x = b).Perm [a, b] := by
      rw [List.perm_ext_iff_of_nodup kept (by simp [differ])]
      intro x
      rw [List.mem_filter, decide_eq_true_eq, List.mem_cons, List.mem_singleton]
      apply and_iff_right_of_imp
      rintro (rfl | rfl)
      · exact first
      · exact second
    exact both.length_eq

namespace FileUri

theorem toPath?_ofPath_of_nulFree {p : Path} (absolute : p.isAbsolute = true)
    (nulFree : p.hasNul = false) : toPath? (ofPath p) = .ok (some p) := by
  rw [toPath?_ofPath absolute, nulFree]
  rfl

theorem toPath?_of_possible {fs : FileSystem} (possible : fs.IsNulFree) {p resolved : Path}
    (found : fs.resolve p = .ok resolved) : toPath? (ofPath resolved) = .ok (some resolved) := by
  rw [toPath?_of_resolve found, FileSystem.hasNul_of_resolve possible found]
  rfl

theorem ofPath_inj {p q : Path} (absolute : p.isAbsolute = true) (absolute' : q.isAbsolute = true)
    (nulFree : p.hasNul = false) (nulFree' : q.hasNul = false) :
    ofPath p = ofPath q ↔ p = q := by
  constructor
  · intro same
    have read := toPath?_ofPath_of_nulFree absolute nulFree
    rw [same, toPath?_ofPath_of_nulFree absolute' nulFree', Except.ok.injEq] at read
    exact (Option.some.inj read).symm
  · exact congrArg ofPath

/-- The URI of an absolute path names it. So the URI of a document or folder that was loaded names
what its path resolves to, different paths have different URIs, and a search has one place for two
folders that resolve to the same path and two places for any others. -/
theorem paths_round_trip {fs : FileSystem} (possible : fs.IsNulFree) :
    (∀ p : Path, p.isAbsolute = true → p.hasNul = false → toPath? (ofPath p) = .ok (some p)) ∧
    (∀ p resolved, fs.resolve p = .ok resolved →
      (∀ d, Document.load fs p = .ok d → toPath? d.uri = .ok (some resolved)) ∧
        ∀ name, ∃ f, WorkspaceFolder.load fs p name = .ok f ∧
          toPath? f.uri = .ok (some resolved)) ∧
    (∀ p q resolved resolved', fs.resolve p = .ok resolved → fs.resolve q = .ok resolved' →
      (ofPath resolved = ofPath resolved' ↔ resolved = resolved')) ∧
    ∀ base d cwd folders, SourceSearch.startOf fs base d = .ok cwd →
      (∀ f ∈ folders, ∃ path, toPath? f.uri = .ok path) →
        ∃ s, SourceSearch.ofDocument fs base d folders = .ok s ∧
          ∀ f ∈ folders, ∀ g ∈ folders, ∀ p q name name' resolved resolved',
            WorkspaceFolder.load fs p name = .ok f → WorkspaceFolder.load fs q name' = .ok g →
            fs.resolve p = .ok resolved → fs.resolve q = .ok resolved' →
              (s.places.filter fun place => place = resolved ∨ place = resolved').length =
                if resolved = resolved' then 1 else 2 := by
  have rooted : ∀ p resolved, fs.resolve p = .ok resolved → resolved.isAbsolute = true := by
    intro p resolved found
    rw [Path.isAbsolute, FileSystem.anchor_of_resolve found]
    rfl
  have folderUri : ∀ p name f resolved, WorkspaceFolder.load fs p name = .ok f →
      fs.resolve p = .ok resolved → toPath? f.uri = .ok (some resolved) := by
    intro p name f resolved loaded found
    obtain ⟨again, found', uri⟩ := WorkspaceFolder.of_load loaded
    obtain rfl := Except.ok.inj (found.symm.trans found')
    rw [uri, toPath?_of_possible possible found]
  refine ⟨fun p => toPath?_ofPath_of_nulFree, ?_, ?_, ?_⟩
  · intro p resolved found
    constructor
    · intro d loaded
      obtain ⟨again, octets, found', readable, uri⟩ := Document.of_load loaded
      obtain rfl := Except.ok.inj (found.symm.trans found')
      rw [uri, toPath?_of_possible possible found]
    · intro name
      have loads : ∃ f, WorkspaceFolder.load fs p name = .ok f := by
        rw [WorkspaceFolder.load, found]
        exact ⟨_, rfl⟩
      obtain ⟨f, loaded⟩ := loads
      exact ⟨f, loaded, folderUri p name f resolved loaded found⟩
  · intro p q resolved resolved' found found'
    exact ofPath_inj (rooted p resolved found) (rooted q resolved' found')
      (FileSystem.hasNul_of_resolve possible found) (FileSystem.hasNul_of_resolve possible found')
  · intro base d cwd folders started wellFormed
    obtain ⟨paths, read, members⟩ := SourceSearch.exists_folderPaths wellFormed
    refine ⟨⟨cwd, SourceSearch.distinct (cwd :: paths)⟩, ?_, ?_⟩
    · rw [SourceSearch.ofDocument_of_started started, read]
      rfl
    · intro f member g member' p q name name' resolved resolved' loaded loaded' found found'
      have first := members f member resolved (folderUri p name f resolved loaded found)
      have second := members g member' resolved' (folderUri q name' g resolved' loaded' found')
      exact length_filter_eq_or_eq (SourceSearch.nodup_distinct _)
        (SourceSearch.mem_distinct.2 (List.mem_cons_of_mem _ first))
        (SourceSearch.mem_distinct.2 (List.mem_cons_of_mem _ second))

theorem three_folders_take_two_places :
    let fs : FileSystem := ⟨[(["a b%"], .directory true), (["é"], .directory true)], []⟩
    let p := Path.ofNames .root ["a b%"]
    let q := Path.ofNames .root ["é"]
    let folders : List WorkspaceFolder :=
      [⟨"file:///a%20b%25", "one"⟩, ⟨"file:///%C3%A9", "é"⟩, ⟨"file:///a%20b%25", "two"⟩]
    fs.IsNulFree ∧
      toPath? (ofPath (Path.ofString "//a b%/[;?#]")) =
        .ok (some (Path.ofString "//a b%/[;?#]")) ∧
      ∃ s, SourceSearch.ofDocument fs (some Path.here) ⟨"untitled:1", "", "shellscript"⟩ folders =
          .ok s ∧
        (s.places.filter fun place => place = p ∨ place = q).length = 2 ∧
        (s.places.filter fun place => place = p ∨ place = p).length = 1 := by
  intro fs p q folders
  have possible : fs.IsNulFree := FileSystem.isNulFree_of_nodes (by simp [fs]) (by simp [fs])
  have found : fs.resolve p = .ok p :=
    FileSystem.resolve_of_root_entry (by decide) (by decide) (by decide) (by decide) rfl (by simp)
  have found' : fs.resolve q = .ok q :=
    FileSystem.resolve_of_root_entry (by decide) (by decide) (by decide) (by decide) rfl (by simp)
  have uri : ofPath p = "file:///a%20b%25" := by decide +kernel
  have uri' : ofPath q = "file:///%C3%A9" := by decide +kernel
  have load : ∀ name, name ≠ "" →
      WorkspaceFolder.load fs p (some name) = .ok ⟨"file:///a%20b%25", name⟩ := by
    intro name named
    simp only [WorkspaceFolder.load, found, ← uri, Except.map, if_neg named]
  have load' : WorkspaceFolder.load fs q none = .ok ⟨"file:///%C3%A9", "é"⟩ := by
    rw [WorkspaceFolder.load, found', ← uri']
    rfl
  have differ : p ≠ q := by decide
  obtain ⟨roundTrip, -, -, merged⟩ := paths_round_trip possible
  have wellFormed : ∀ f ∈ folders, ∃ path, toPath? f.uri = .ok path := by
    intro f member
    simp only [folders, List.mem_cons, List.not_mem_nil, or_false] at member
    rcases member with rfl | rfl | rfl
    · exact ⟨some p, uri ▸ roundTrip p rfl (by decide)⟩
    · exact ⟨some q, uri' ▸ roundTrip q rfl (by decide)⟩
    · exact ⟨some p, uri ▸ roundTrip p rfl (by decide)⟩
  obtain ⟨s, made, taken⟩ := merged (some Path.here) ⟨"untitled:1", "", "shellscript"⟩ Path.here
    folders rfl wellFormed
  refine ⟨possible, roundTrip _ (by decide +kernel) (by decide +kernel), s, made, ?_, ?_⟩
  · have two := taken _ (.head _) _ (.tail _ (.head _)) p q (some "one") none p q
      (load "one" (by decide)) load' found found'
    rwa [if_neg differ] at two
  · have one := taken _ (.head _) _ (.tail _ (.tail _ (.head _))) p p (some "one") (some "two") p p
      (load "one" (by decide)) (load "two" (by decide)) found found
    rwa [if_pos rfl] at one

end FileUri

end LintBridge
