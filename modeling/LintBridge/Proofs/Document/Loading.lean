import LintBridge.Document.Loading
import LintBridge.Proofs.FileSystem.Walk
import LintBridge.Proofs.FileUri.RoundTrip
import LintBridge.Proofs.SourceSearch.Fault

/-!
# Documents from files

From a path that is resolved either a document is loaded (`IsReadAs`) or its file is refused for one
of two reasons (`ReadFails`). Documents from files do not break a search: the URI of a document that
was loaded names the resolved path of its file, and the file could be read, so that none of the
faults of a search for sourced scripts applies (`not_fails_of_load`).
-/
set_option autoImplicit false

namespace LintBridge

theorem Document.load_eq_ok_iff {fs : FileSystem} {p : Path} {d : Document} :
    Document.load fs p = .ok d ↔
      ∃ resolved octets text, fs.resolve p = .ok resolved ∧ fs.read resolved = .ok octets ∧
        Text.Utf8.decode octets = .ok text ∧
        d = ⟨FileUri.ofPath resolved, String.ofList (Text.unifyLineEnds text), "shellscript"⟩ := by
  unfold load
  cases found : fs.resolve p with
  | error fault => simp
  | ok resolved =>
      cases readable : fs.read resolved with
      | error fault => simp [readable]
      | ok octets =>
          cases decoded : Text.Utf8.decode octets with
          | error fault => simp [readable, textOf, decoded, Except.map]
          | ok text => simp [readable, textOf, decoded, Except.map, eq_comm]

/-- What a path is read as: the text of its file with line feeds for all line ends, known by the URI
of the resolved path. -/
def IsReadAs (fs : FileSystem) (p : Path) (d : Document) : Prop :=
  ∃ resolved text, fs.resolve p = .ok resolved ∧
    fs.read resolved = .ok (Text.Utf8.encode text) ∧
    d = ⟨FileUri.ofPath resolved, String.ofList (Text.unifyLineEnds text), "shellscript"⟩

/-- Why nothing is read from a path that is resolved: its file cannot be read, or the octets in it
are those of no text. -/
inductive ReadFails (fs : FileSystem) (p : Path) : LoadFault → Prop where
  | read {resolved : Path} {fault : FileFault} (found : fs.resolve p = .ok resolved)
      (refused : fs.read resolved = .error fault) : ReadFails fs p (.read fault resolved)
  | decode {resolved : Path} {octets : List UInt8} {fault : Text.Utf8.DecodeError}
      (found : fs.resolve p = .ok resolved) (opened : fs.read resolved = .ok octets)
      (malformed : Text.Utf8.decode octets = .error fault) : ReadFails fs p (.decode fault)

theorem Document.load_eq_ok_iff_isReadAs {fs : FileSystem} {p : Path} {d : Document} :
    Document.load fs p = .ok d ↔ IsReadAs fs p d := by
  rw [load_eq_ok_iff]
  constructor
  · rintro ⟨resolved, octets, text, found, opened, decoded, document⟩
    exact ⟨resolved, text, found, Text.Utf8.decode_eq_ok_iff.1 decoded ▸ opened, document⟩
  · rintro ⟨resolved, text, found, opened, document⟩
    exact ⟨resolved, _, text, found, opened, Text.Utf8.decode_eq_ok_iff.2 rfl, document⟩

theorem Document.load_of_readFails {fs : FileSystem} {p : Path} {fault : LoadFault}
    (fails : ReadFails fs p fault) : Document.load fs p = .error fault := by
  cases fails with
  | read found refused => simp only [load, found, refused]
  | decode found opened malformed => simp only [load, found, opened, textOf, malformed, Except.map]

/-- A path is not resolved, or it is read, or its file is refused. -/
theorem load_cases (fs : FileSystem) (p : Path) :
    (∃ fault, fs.resolve p = .error fault) ∨ (∃ d, IsReadAs fs p d) ∨
      ∃ fault, ReadFails fs p fault := by
  cases found : fs.resolve p with
  | error fault => exact .inl ⟨fault, rfl⟩
  | ok resolved =>
      cases opened : fs.read resolved with
      | error fault => exact .inr (.inr ⟨_, .read found opened⟩)
      | ok octets =>
          cases decoded : Text.Utf8.decode octets with
          | error fault => exact .inr (.inr ⟨_, .decode found opened decoded⟩)
          | ok text =>
              obtain rfl := Text.Utf8.decode_eq_ok_iff.1 decoded
              exact .inr (.inl ⟨_, resolved, text, found, opened, rfl⟩)

theorem Document.of_load {fs : FileSystem} {p : Path} {d : Document}
    (loaded : Document.load fs p = .ok d) :
    ∃ resolved octets, fs.resolve p = .ok resolved ∧ fs.read resolved = .ok octets ∧
      d.uri = FileUri.ofPath resolved := by
  obtain ⟨resolved, octets, text, found, readable, -, rfl⟩ := load_eq_ok_iff.1 loaded
  exact ⟨resolved, octets, found, readable, rfl⟩

theorem Document.load_of_root_entry {fs : FileSystem} {name text : String} {executable : Bool}
    {octets : List UInt8} (named : isPathName name = true) (notUp : name ≠ "..")
    (short : name.utf8ByteSize ≤ FileSystem.maxName) (noNul : '\x00' ∉ name.toList)
    (entry : fs.node? [name] = some (.file true executable octets))
    (decoded : Document.textOf octets = .ok text) :
    Document.load fs (Path.ofNames .root [name]) =
      .ok ⟨FileUri.ofPath (Path.ofNames .root [name]), text, "shellscript"⟩ := by
  have resolved := FileSystem.resolve_of_root_entry named notUp short noNul entry (by simp)
  have readable := FileSystem.read_of_root_entry named notUp short entry
  simp only [load, resolved, readable, decoded]

theorem WorkspaceFolder.of_load {fs : FileSystem} {p : Path} {name : Option String}
    {f : WorkspaceFolder} (loaded : WorkspaceFolder.load fs p name = .ok f) :
    ∃ resolved, fs.resolve p = .ok resolved ∧ f.uri = FileUri.ofPath resolved := by
  unfold load at loaded
  cases found : fs.resolve p with
  | error fault => simp [found, Except.map] at loaded
  | ok resolved =>
      simp only [found, Except.map, Except.ok.injEq] at loaded
      refine ⟨resolved, rfl, ?_⟩
      cases name <;> exact loaded ▸ rfl

/-- The URI of what a path resolves to names it. -/
theorem FileUri.toPath?_of_resolve {fs : FileSystem} {p resolved : Path}
    (found : fs.resolve p = .ok resolved) :
    toPath? (ofPath resolved) = .ok (if resolved.hasNul then none else some resolved) :=
  toPath?_ofPath (by rw [Path.isAbsolute, FileSystem.anchor_of_resolve found]; rfl)

namespace SourceSearch

/-- A document and folders that were loaded do not break a search. -/
theorem not_fails_of_load {fs : FileSystem} {p : Path} {d : Document}
    {folders : List WorkspaceFolder} (loaded : Document.load fs p = .ok d)
    (loadedFolders : ∀ f ∈ folders, ∃ q, WorkspaceFolder.load fs q none = .ok f)
    (base : Option Path) (fault : SearchFault) : ¬ Fails fs base d folders fault := by
  obtain ⟨resolved, octets, found, readable, uri⟩ := Document.of_load loaded
  have named := FileUri.toPath?_of_resolve found
  intro fails
  cases fails with
  | document u unset malformed =>
      rw [uri, named] at malformed
      cases malformed
  | directory path f unset read unknown =>
      rw [uri, named, Except.ok.injEq] at read
      split at read
      · cases read
      · obtain rfl := Option.some.inj read
        obtain ⟨answer, told⟩ :=
          FileSystem.exists_isDirectory_parent (FileSystem.anchor_of_resolve found) readable
        rw [told] at unknown
        cases unknown
  | folder before after first u started split wellFormed malformed =>
      have member : first ∈ folders := by simp [split]
      obtain ⟨q, loaded'⟩ := loadedFolders first member
      obtain ⟨resolved', found', uri'⟩ := WorkspaceFolder.of_load loaded'
      rw [uri', FileUri.toPath?_of_resolve found'] at malformed
      cases malformed

end SourceSearch

end LintBridge
