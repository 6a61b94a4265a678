import LintBridge.FileSystem.Resolution
import LintBridge.Proofs.Path

/-!
# The directory of a file that can be read

A look-up goes name by name, so that it fails wherever a look-up of the first of its names does
(`walk_append_of_error`). Whether the path of a file that can be read leads through a directory is
therefore a question with an answer (`exists_isDirectory_parent`). The name of an entry of the root
is resolved to itself (`resolve_of_root_entry`), and that of a link to itself is not resolved
(`resolve_of_self_link`).
-/
set_option autoImplicit false

namespace LintBridge.FileSystem

/-- A look-up that fails does so whatever names are behind. -/
theorem walk_append_of_error {fs : FileSystem} {links : Nat} {place front : List String}
    {fault : FileFault} (failed : fs.walk links place front = .error fault) (back : List String) :
    fs.walk links place (front ++ back) = .error fault := by
  fun_induction FileSystem.walk fs links place front with
  | case1 links place => cases failed
  | case2 links place rest entered ih =>
      rw [List.cons_append, walk, entered]
      exact ih failed
  | case3 links place rest entered notDot ih =>
      rw [List.cons_append, walk, entered]
      exact ih failed
  | case4 links place name rest entered notDot notDots long =>
      rw [List.cons_append, walk, entered]
      simp only [if_neg notDot, if_neg notDots, if_pos long]
      exact failed
  | case5 links place name rest entered notDot notDots short absent =>
      rw [List.cons_append, walk, entered]
      simp only [if_neg notDot, if_neg notDots, if_neg short, absent]
      exact failed
  | case6 place name rest entered notDot notDots short target linked =>
      rw [List.cons_append, walk, entered]
      simp only [if_neg notDot, if_neg notDots, if_neg short, linked]
      exact failed
  | case7 place name rest entered notDot notDots short target linked fewer ih =>
      rw [List.cons_append, walk, entered]
      simp only [if_neg notDot, if_neg notDots, if_neg short, linked]
      -- the names of the target take the place of the link, in front of what is behind
      rw [← List.append_assoc]
      exact ih failed
  | case8 links place name rest entered notDot notDots short node noLink found ih =>
      rw [List.cons_append, walk, entered]
      simp only [if_neg notDot, if_neg notDots, if_neg short, found]
      exact ih failed
  | case9 links place name rest barred =>
      rw [List.cons_append, walk, barred]
      exact failed
  | case10 links place name rest node notOpen notBarred found =>
      rw [List.cons_append, walk, found]
      cases node <;> simp_all
  | case11 links place name rest absent =>
      rw [List.cons_append, walk, absent]
      exact failed

/-- The name of an entry of a directory leads to that entry unless it is a link. -/
theorem walk_cons {fs : FileSystem} {place : List String} {name : String} {node : Node}
    (named : isPathName name = true) (notUp : name ≠ "..") (short : name.utf8ByteSize ≤ maxName)
    (inside : fs.node? place = some (.directory true))
    (entry : fs.node? (place ++ [name]) = some node) (noLink : ∀ target, node ≠ .link target)
    (links : Nat) (rest : List String) :
    fs.walk links place (name :: rest) = fs.walk links (place ++ [name]) rest := by
  rw [walk, inside]
  simp only [if_neg ((isPathName_iff name).1 named).2.1, if_neg notUp,
    if_neg (Nat.not_lt.2 short), entry]

/-! ## The names in the text of a path -/

theorem toList_toString_of_root {p : Path} (rooted : p.anchor = .root) :
    p.toString.toList = '/' :: p.body := by
  have slash : p.anchor.show.toList = ['/'] := by rw [rooted]; decide
  rw [Path.toList_toString_of_absolute (by simp [Path.isAbsolute, rooted]), slash,
    List.singleton_append]

theorem textNames_of_names_nil {p : Path} (rooted : p.anchor = .root) (empty : p.names = []) :
    textNames p.toString = ["."] := by
  rw [textNames, toList_toString_of_root rooted, Path.body_of_names_nil empty]
  decide

theorem textNames_of_root {p : Path} (rooted : p.anchor = .root) {front : List String}
    {last : String} (names : p.names = front ++ [last]) : textNames p.toString = p.names := by
  have solid : ∀ name ∈ front ++ [last], (name != "") = true := by
    intro name member
    exact bne_iff_ne.2 ((isPathName_iff name).1 (Path.isPathName_of_mem (names ▸ member))).1
  have frontKept : front.filter (· != "") = front :=
    List.filter_eq_self.2 fun name member => solid name (List.mem_append_left _ member)
  have lastKept : last ≠ "" := bne_iff_ne.1 (solid last (by simp))
  have pieces : Path.pieces p.toString.toList = ("" :: front) ++ [last] := by
    rw [toList_toString_of_root rooted, Path.pieces_slash, Path.pieces_body (by simp [names]),
      names, List.cons_append]
  simp only [textNames, pieces, List.dropLast_concat, List.getLast?_concat]
  rw [List.filter_cons_of_neg (by decide), frontKept, if_neg (by simpa using lastKept), names]
  rfl

/-! ## The directory that a path is in -/

theorem names_parent {p : Path} : p.parent.names = p.names.dropLast := by
  rw [Path.parent, Path.ofNames]
  exact List.filter_eq_self.2 fun name member =>
    Path.isPathName_of_mem (List.dropLast_subset _ member)

/-- The text of a path starts with that of its parent. -/
theorem intercalate_dropLast (texts : List String) :
    ∃ behind, "/".intercalate texts = "/".intercalate texts.dropLast ++ behind := by
  induction texts with
  | nil => exact ⟨"", by simp⟩
  | cons text more ih =>
      cases more with
      | nil => exact ⟨text, by simp⟩
      | cons next more =>
          obtain ⟨behind, split⟩ := ih
          rw [List.dropLast_cons_cons, String.intercalate_cons_cons, split]
          by_cases short : (next :: more).dropLast = []
          · exact ⟨"/" ++ behind, by simp [short, String.append_assoc]⟩
          · exact ⟨behind, by simp [String.intercalate_cons_of_ne_nil short, String.append_assoc]⟩

theorem toString_of_root {p : Path} (rooted : p.anchor = .root) :
    p.toString = "/" ++ "/".intercalate p.names := by
  simp [Path.toString, rooted, Anchor.show]

theorem utf8ByteSize_parent {p : Path} (rooted : p.anchor = .root) :
    p.parent.toString.utf8ByteSize ≤ p.toString.utf8ByteSize := by
  have above : p.parent.anchor = .root := rooted
  obtain ⟨behind, split⟩ := intercalate_dropLast p.names
  rw [toString_of_root rooted, toString_of_root above, names_parent, split,
    String.utf8ByteSize_append, String.utf8ByteSize_append, String.utf8ByteSize_append]
  omega

theorem locateText_of_root {fs : FileSystem} {p : Path} (rooted : p.anchor = .root)
    (short : p.toString.utf8ByteSize ≤ maxPath) :
    fs.locateText p.toString = fs.walk maxLinks [] (textNames p.toString) := by
  have text := toList_toString_of_root rooted
  have present : p.toString ≠ "" := by
    intro empty
    rw [empty] at text
    simp at text
  have fromRoot : startsAtRoot p.toString = true := by
    rw [startsAtRoot, text]
    rfl
  rw [locateText, if_neg present, if_neg (by omega), if_pos fromRoot]

/-- The directory of a path that leads somewhere can be looked up. -/
theorem exists_locateText_parent {fs : FileSystem} {p : Path} (rooted : p.anchor = .root)
    {place : List String} (located : fs.locateText p.toString = .ok place) :
    ∃ place', fs.locateText p.parent.toString = .ok place' := by
  have short : p.toString.utf8ByteSize ≤ maxPath := by
    apply Nat.le_of_not_lt
    intro long
    simp only [locateText, if_pos long] at located
    split at located <;> cases located
  have above : p.parent.anchor = .root := rooted
  rw [locateText_of_root above (Nat.le_trans (utf8ByteSize_parent rooted) short)]
  have root : fs.walk maxLinks [] ["."] = .ok [] := by
    simp [walk, node?]
  rcases List.eq_nil_or_concat p.names with empty | ⟨front, last, names⟩
  · -- the root is its own parent
    rw [textNames_of_names_nil above (by rw [names_parent, empty]; rfl)]
    exact ⟨[], root⟩
  · rw [List.concat_eq_append] at names
    have fewer : p.parent.names = front := by rw [names_parent, names, List.dropLast_concat]
    rcases List.eq_nil_or_concat front with empty | ⟨front', last', names'⟩
    · -- an entry of the root, whose parent is written with no name
      rw [textNames_of_names_nil above (fewer.trans empty)]
      exact ⟨[], root⟩
    · rw [List.concat_eq_append] at names'
      rw [textNames_of_root above (fewer.trans names'), fewer]
      rw [locateText_of_root rooted short, textNames_of_root rooted names, names] at located
      cases walked : fs.walk maxLinks [] front with
      | ok place' => exact ⟨place', rfl⟩
      | error fault =>
          rw [walk_append_of_error walked] at located
          cases located

theorem exists_names_of_stat {fs : FileSystem} {p : Path} {node : Node}
    (found : fs.stat p = .ok node) :
    ∃ names, fs.locateText p.toString = .ok names ∧ fs.node? names = some node := by
  rw [stat, statText] at found
  cases located : fs.locateText p.toString with
  | error fault => simp [located, bind, Except.bind] at found
  | ok names =>
      simp only [located, bind, Except.bind] at found
      refine ⟨names, rfl, ?_⟩
      split at found
      · rename_i node' present
        rw [present, Except.ok.inj found]
      · cases found

theorem isDirectory_eq_true_iff {fs : FileSystem} {p : Path} :
    fs.isDirectory p = .ok true ↔
      p.hasNul = false ∧ ∃ enterable, fs.stat p = .ok (.directory enterable) := by
  rw [isDirectory]
  constructor
  · intro exists'
    split at exists'
    · cases exists'
    · rename_i nulFree
      refine ⟨Bool.eq_false_iff.2 nulFree, ?_⟩
      split at exists'
      · rename_i enterable found
        exact ⟨enterable, found⟩
      · cases exists'
      · split at exists' <;> cases exists'
  · rintro ⟨nulFree, enterable, found⟩
    rw [nulFree, found]
    rfl

/-- Whether the parent of a file that can be read is a directory can be told. -/
theorem exists_isDirectory_parent {fs : FileSystem} {p : Path} (rooted : p.anchor = .root)
    {octets : List UInt8} (readable : fs.read p = .ok octets) :
    ∃ answer, fs.isDirectory p.parent = .ok answer := by
  have located : ∃ place, fs.locateText p.toString = .ok place := by
    cases located : fs.locateText p.toString with
    | ok place => exact ⟨place, rfl⟩
    | error fault => simp [read, stat, statText, located, bind, Except.bind] at readable
  obtain ⟨place, located⟩ := located
  obtain ⟨place', found⟩ := exists_locateText_parent rooted located
  unfold isDirectory
  split
  · exact ⟨false, rfl⟩
  · simp only [stat, statText, found, bind, Except.bind]
    cases fs.node? place' with
    | none => exact ⟨false, rfl⟩
    | some node =>
        cases node with
        | directory enterable => exact ⟨true, rfl⟩
        | _ => exact ⟨false, rfl⟩

/-! ## Paths that were resolved -/

theorem anchor_of_resolve {fs : FileSystem} {p resolved : Path}
    (found : fs.resolve p = .ok resolved) : resolved.anchor = .root := by
  unfold resolve at found
  split at found
  · cases found
  · simp only at found
    split at found
    · cases found
    · obtain rfl := Except.ok.inj found
      rfl

theorem names_of_root {name : String} (named : isPathName name = true) :
    (Path.ofNames .root [name]).names = [name] := by
  simp [Path.ofNames, named]

theorem utf8ByteSize_of_root {name : String} (named : isPathName name = true)
    (short : name.utf8ByteSize ≤ maxName) :
    (Path.ofNames .root [name]).toString.utf8ByteSize ≤ maxPath := by
  have slash : "/".utf8ByteSize = 1 := rfl
  rw [toString_of_root rfl, names_of_root named, String.utf8ByteSize_append, slash,
    String.intercalate_singleton]
  simp only [maxName] at short
  simp only [maxPath]
  omega

theorem locateText_of_root_entry {fs : FileSystem} {name : String} {node : Node}
    (named : isPathName name = true) (notUp : name ≠ "..") (short : name.utf8ByteSize ≤ maxName)
    (entry : fs.node? [name] = some node) (noLink : ∀ target, node ≠ .link target) :
    fs.locateText (Path.ofNames .root [name]).toString = .ok [name] := by
  have one : (Path.ofNames .root [name]).names = [] ++ [name] := names_of_root named
  rw [locateText_of_root rfl (utf8ByteSize_of_root named short), textNames_of_root rfl one,
    names_of_root named, walk_cons named notUp short rfl entry noLink, walk]
  rfl

theorem stat_of_root_entry {fs : FileSystem} {name : String} {node : Node}
    (named : isPathName name = true) (notUp : name ≠ "..") (short : name.utf8ByteSize ≤ maxName)
    (entry : fs.node? [name] = some node) (noLink : ∀ target, node ≠ .link target) :
    fs.stat (Path.ofNames .root [name]) = .ok node := by
  rw [stat, statText, locateText_of_root_entry named notUp short entry noLink]
  simp only [bind, Except.bind, entry]

theorem read_of_root_entry {fs : FileSystem} {name : String} {executable : Bool}
    {octets : List UInt8} (named : isPathName name = true) (notUp : name ≠ "..")
    (short : name.utf8ByteSize ≤ maxName)
    (entry : fs.node? [name] = some (.file true executable octets)) :
    fs.read (Path.ofNames .root [name]) = .ok octets := by
  rw [read, stat_of_root_entry named notUp short entry (by simp)]
  rfl

section

variable {fs : FileSystem} {name : String}

theorem normal_join_of_root (named : isPathName name = true) (notUp : name ≠ "..") :
    (fs.cwd.join (Path.ofNames .root [name])).normal = Path.ofNames .root [name] := by
  have absolute : (Path.ofNames .root [name]).isAbsolute = true := rfl
  rw [Path.join, if_pos absolute, Path.normal, names_of_root named]
  simp [Path.collapse, notUp]

/-- A name in the root that stands for itself is resolved if it leads somewhere, and has a loop if
there are too many links on the way. -/
theorem resolve_of_expand (named : isPathName name = true) (notUp : name ≠ "..")
    (noNul : '\x00' ∉ name.toList)
    (expanded : fs.expand fs.maxDepth [] (Path.ofNames .root []) [name] =
        .ok (Path.ofNames .root [name]) ∨
      fs.expand fs.maxDepth [] (Path.ofNames .root []) [name] =
        .error (Path.ofNames .root [name])) :
    (∀ node, fs.stat (Path.ofNames .root [name]) = .ok node →
      fs.resolve (Path.ofNames .root [name]) = .ok (Path.ofNames .root [name])) ∧
    (fs.stat (Path.ofNames .root [name]) = .error .tooManyLinks →
      fs.resolve (Path.ofNames .root [name]) = .error (.loop (Path.ofNames .root [name]))) := by
  have names := names_of_root named
  have normal : (fs.cwd.join (Path.ofNames .root [name])).normal = Path.ofNames .root [name] :=
    normal_join_of_root named notUp
  generalize made : Path.ofNames .root [name] = p at names normal expanded
  have absolute : p.isAbsolute = true := by
    rw [← made]
    rfl
  have fine : p.hasNul = false := by simp [Path.hasNul, names, noNul]
  constructor
  · intro node looked
    rcases expanded with found | found <;>
      simp only [resolve, fine, absolute, names, found, normal, looked, if_true,
        Bool.false_eq_true, if_false]
  · intro looked
    rcases expanded with found | found <;>
      simp only [resolve, fine, absolute, names, found, normal, looked, if_true,
        Bool.false_eq_true, if_false]

theorem resolve_of_root_entry {node : Node} (named : isPathName name = true) (notUp : name ≠ "..")
    (short : name.utf8ByteSize ≤ maxName) (noNul : '\x00' ∉ name.toList)
    (entry : fs.node? [name] = some node) (noLink : ∀ target, node ≠ .link target) :
    fs.resolve (Path.ofNames .root [name]) = .ok (Path.ofNames .root [name]) := by
  have plain : fs.linkAt? (Path.ofNames .root [name]) = none := by
    rw [linkAt?, normal_join_of_root named notUp, names_of_root named, entry]
    cases node with
    | link target => exact absurd rfl (noLink target)
    | _ => rfl
  have expanded : fs.expand fs.maxDepth [] (Path.ofNames .root []) [name] =
      .ok (Path.ofNames .root [name]) := by
    have next : (Path.ofNames .root []).child name = Path.ofNames .root [name] := rfl
    rw [expand, if_neg notUp]
    simp only [next, plain]
    rw [expand]
  exact (resolve_of_expand named notUp noNul (.inl expanded)).1 node
    (stat_of_root_entry named notUp short entry noLink)

/-! ## A link that leads to itself -/

theorem walk_of_self_link (named : isPathName name = true) (notUp : name ≠ "..")
    (short : name.utf8ByteSize ≤ maxName)
    (entry : fs.node? [name] = some (.link (Path.ofNames .root [name]).toString)) (links : Nat) :
    fs.walk links [] [name] = .error .tooManyLinks := by
  have rooted : (Path.ofNames .root [name]).anchor = .root := rfl
  have one : (Path.ofNames .root [name]).names = [] ++ [name] := names_of_root named
  have inside : fs.node? [] = some (.directory true) := rfl
  have onTheWay : fs.node? ([] ++ [name]) = some (.link (Path.ofNames .root [name]).toString) :=
    entry
  have fromRoot : startsAtRoot (Path.ofNames .root [name]).toString = true := by
    rw [startsAtRoot, toList_toString_of_root rooted]
    rfl
  -- Each link that is followed leads to where the look-up was before.
  induction links with
  | zero =>
      rw [walk, inside]
      simp only [if_neg ((isPathName_iff name).1 named).2.1, if_neg notUp,
        if_neg (Nat.not_lt.2 short), onTheWay]
  | succ fewer ih =>
      rw [walk, inside]
      simp only [if_neg ((isPathName_iff name).1 named).2.1, if_neg notUp,
        if_neg (Nat.not_lt.2 short), onTheWay, fromRoot, if_true]
      rw [textNames_of_root rooted one, names_of_root named, List.append_nil, ih]

/-- A link that leads to itself cannot be resolved. -/
theorem resolve_of_self_link (named : isPathName name = true) (notUp : name ≠ "..")
    (short : name.utf8ByteSize ≤ maxName) (noNul : '\x00' ∉ name.toList)
    (entry : fs.node? [name] = some (.link (Path.ofNames .root [name]).toString)) :
    fs.resolve (Path.ofNames .root [name]) = .error (.loop (Path.ofNames .root [name])) := by
  have rooted : (Path.ofNames .root [name]).anchor = .root := rfl
  have one : (Path.ofNames .root [name]).names = [] ++ [name] := names_of_root named
  have linked : fs.linkAt? (Path.ofNames .root [name]) =
      some (Path.ofNames .root [name]).toString := by
    rw [linkAt?, normal_join_of_root named notUp, names_of_root named, entry]
  have looked : fs.stat (Path.ofNames .root [name]) = .error .tooManyLinks := by
    rw [stat, statText, locateText_of_root rooted (utf8ByteSize_of_root named short),
      textNames_of_root rooted one, names_of_root named,
      walk_of_self_link named notUp short entry]
    rfl
  have expanded : fs.expand fs.maxDepth [] (Path.ofNames .root []) [name] =
      .error (Path.ofNames .root [name]) := by
    have next : (Path.ofNames .root []).child name = Path.ofNames .root [name] := rfl
    have fromRoot : startsAtRoot (Path.ofNames .root [name]).toString = true := by
      rw [startsAtRoot, toList_toString_of_root rooted]
      rfl
    have same : Path.ofString (Path.ofNames .root [name]).toString = Path.ofNames .root [name] :=
      Path.ofText_toString _
    have stays : Path.ofNames .root (Path.ofNames .root [name]).names =
        Path.ofNames .root [name] := by
      rw [names_of_root named]
    rw [maxDepth, expand, if_neg notUp]
    simp only [next, linked, List.contains_nil, Bool.false_eq_true, if_false, fromRoot, if_true,
      same, names_of_root named]
    rw [expand, if_neg notUp]
    simp only [next, linked]
    simp [rooted, stays]
  exact (resolve_of_expand named notUp noNul (.inr expanded)).2 looked

end

end LintBridge.FileSystem
