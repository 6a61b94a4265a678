import LintBridge.Command.Run
import LintBridge.Proofs.FileSystem.Walk

/-!
# The file that a command runs

The first word of a command is located from the directory of the process, and the child looks up
what was located from its own directory (`spawn_eq_ok`). Both find the same file if what was located
starts at the root, and it does so exactly if the word is anchored: if it is an absolute path, or if
the first directory of the search path that has an executable of its name is one
(`startsAtRoot_of_locate_iff`). Anything else is looked up once more, and may be another file by
then.
-/
set_option autoImplicit false

namespace LintBridge

namespace FileSystem

/-- The files as a process sees them that is in the directory under some names. -/
def seenFrom (fs : FileSystem) (here : List String) : FileSystem := { fs with here }

@[simp] theorem node?_seenFrom (fs : FileSystem) (here names : List String) :
    (fs.seenFrom here).node? names = fs.node? names := rfl

@[simp] theorem here_seenFrom (fs : FileSystem) (here : List String) :
    (fs.seenFrom here).here = here := rfl

/-- A look-up that has started does not depend on the directory of the process. -/
theorem walk_seenFrom (fs : FileSystem) (here : List String) (links : Nat)
    (place names : List String) :
    (fs.seenFrom here).walk links place names = fs.walk links place names := by
  fun_induction FileSystem.walk fs links place names with
  | case1 links place => rw [walk]
  | case7 place name rest entered notDot notDots short target linked fewer ih =>
      rw [walk, node?_seenFrom, entered]
      simp only [if_neg notDot, if_neg notDots, if_neg short, node?_seenFrom, linked]
      exact ih
  | case8 links place name rest entered notDot notDots short node noLink found ih =>
      rw [walk, node?_seenFrom, entered]
      simp only [if_neg notDot, if_neg notDots, if_neg short, node?_seenFrom, found, ih]
  | _ => rw [walk]; simp_all

theorem locateText_seenFrom_of_root (fs : FileSystem) (here : List String) {text : String}
    (fromRoot : startsAtRoot text = true) :
    (fs.seenFrom here).locateText text = fs.locateText text := by
  simp only [locateText, fromRoot, if_true, walk_seenFrom]

end FileSystem

namespace Command

/-! ## What is located -/

/-- The first directory of the search path that has an executable of a name. -/
def IsFoundIn (host : Host) (word directory : String) : Prop :=
  ∃ before after, directoriesOf host.searchPath = before ++ directory :: after ∧
    (∀ d ∈ before, isExecutable host.files (entryText d word) = false) ∧
      isExecutable host.files (entryText directory word) = true

/-- A word that leads to the same executable wherever the child is: an absolute path, or the name of
an executable that is found in an absolute directory. -/
def IsAnchored (host : Host) (word : String) : Prop :=
  FileSystem.startsAtRoot word = true ∨
    hasDirectory word = false ∧ ∃ directory, IsFoundIn host word directory ∧
      FileSystem.startsAtRoot directory = true

theorem isFoundIn_iff (host : Host) (word directory : String) :
    IsFoundIn host word directory ↔
      (directoriesOf host.searchPath).find?
        (fun d => isExecutable host.files (entryText d word)) = some directory := by
  rw [List.find?_eq_some_iff_append]
  constructor
  · rintro ⟨before, after, split, earlier, executable⟩
    exact ⟨executable, before, after, split, fun d member => by simp [earlier d member]⟩
  · rintro ⟨executable, before, after, split, earlier⟩
    exact ⟨before, after, split, fun d member => by simpa using earlier d member, executable⟩

theorem IsFoundIn.unique {host : Host} {word directory directory' : String}
    (found : IsFoundIn host word directory) (found' : IsFoundIn host word directory') :
    directory = directory' := by
  rw [isFoundIn_iff] at found found'
  exact Option.some.inj (found.symm.trans found')

theorem isAbsolute_ofString (text : String) :
    (Path.ofString text).isAbsolute = FileSystem.startsAtRoot text := by
  rw [Path.ofString, FileSystem.startsAtRoot]
  cases text.toList with
  | nil => rfl
  | cons c rest =>
      by_cases slash : c = '/'
      · subst slash
        simp only [Path.ofText, List.takeWhile_cons_of_pos, beq_self_eq_true, List.length_cons]
        split
        · rename_i none
          cases none
        · rfl
        · rfl
      · have relative : (Path.ofText (c :: rest)).anchor = .relative := by
          simp [Path.ofText, Path.ofNames, slash]
        simp [Path.isAbsolute, relative, slash]

theorem startsAtRoot_toString {p : Path} (absolute : p.isAbsolute = true) :
    FileSystem.startsAtRoot p.toString = true := by
  rw [FileSystem.startsAtRoot, Path.toList_toString_of_absolute absolute]
  cases anchor : p.anchor with
  | relative => simp [Path.isAbsolute, anchor] at absolute
  | root => rfl
  | doubleRoot => rfl

theorem startsAtRoot_of_no_directory {word : String} (plain : hasDirectory word = false) :
    FileSystem.startsAtRoot word = false := by
  rw [hasDirectory] at plain
  rw [FileSystem.startsAtRoot]
  cases letters : word.toList with
  | nil => rfl
  | cons c rest =>
      have first : c ≠ '/' := by
        rintro rfl
        simp [letters] at plain
      simp [first]

/-- An entry of a directory is an absolute path exactly if the directory is. -/
theorem startsAtRoot_entryText (directory : String) {word : String}
    (plain : hasDirectory word = false) :
    FileSystem.startsAtRoot (entryText directory word) = FileSystem.startsAtRoot directory := by
  have relative := startsAtRoot_of_no_directory plain
  by_cases empty : directory = ""
  · subst empty
    simpa [entryText, FileSystem.startsAtRoot] using relative
  · obtain ⟨c, rest, letters⟩ : ∃ c rest, directory.toList = c :: rest := by
      apply List.exists_cons_of_ne_nil
      simpa using empty
    rw [FileSystem.startsAtRoot, FileSystem.startsAtRoot, letters, entryText]
    split <;> simp [letters]

/-- The three kinds of words that are located. -/
theorem locate_cases {host : Host} {word executable : String}
    (located : locate host word = .ok executable) :
    (FileSystem.startsAtRoot word = true ∧ executable = (Path.ofString word).toString) ∨
      (FileSystem.startsAtRoot word = false ∧ hasDirectory word = true ∧
        isExecutable host.files word = true ∧ executable = word) ∨
      (FileSystem.startsAtRoot word = false ∧ hasDirectory word = false ∧
        ∃ directory, IsFoundIn host word directory ∧ executable = entryText directory word) := by
  simp only [locate, isAbsolute_ofString] at located
  split at located
  · rename_i absolute
    exact Or.inl ⟨absolute, (Except.ok.inj located).symm⟩
  · rename_i relative
    rw [Bool.not_eq_true] at relative
    refine Or.inr ?_
    cases searched : search? host word with
    | none => simp [searched] at located
    | some found =>
        simp only [searched, Except.ok.injEq] at located
        subst located
        unfold search? at searched
        split at searched
        · rename_i slash
          split at searched
          · rename_i executable
            exact Or.inl ⟨relative, slash, executable, (Option.some.inj searched).symm⟩
          · cases searched
        · rename_i plain
          rw [List.find?_map, Option.map_eq_some_iff] at searched
          obtain ⟨directory, first, rfl⟩ := searched
          exact Or.inr ⟨relative, Bool.eq_false_iff.2 plain, directory,
            (isFoundIn_iff host word directory).2 first, rfl⟩

/-- What is located starts at the root exactly if the word is anchored. -/
theorem startsAtRoot_of_locate_iff {host : Host} {word executable : String}
    (located : locate host word = .ok executable) :
    FileSystem.startsAtRoot executable = true ↔ IsAnchored host word := by
  rcases locate_cases located with ⟨absolute, rfl⟩ | ⟨relative, slash, -, rfl⟩ |
    ⟨relative, plain, directory, found, rfl⟩
  · have whole := startsAtRoot_toString ((isAbsolute_ofString word).trans absolute)
    exact iff_of_true whole (Or.inl absolute)
  · simp [IsAnchored, relative, slash]
  · rw [startsAtRoot_entryText directory plain]
    constructor
    · intro fromRoot
      exact Or.inr ⟨plain, directory, found, fromRoot⟩
    · rintro (absolute | ⟨-, directory', found', fromRoot⟩)
      · rw [relative] at absolute
        cases absolute
      · rwa [found.unique found']

/-! ## What is started -/

/-- The file under some names is the one that a child was made from, which looked it up under a path
from its own directory. -/
structure Child.Executes (c : Child) (path : String) (names : List String) : Prop where
  located : c.files.locateText path = .ok names
  loaded : ∃ called arguments tries,
    load c.files path called arguments tries = .ok (c.utility, c.called, c.arguments)

theorem hasDirectory_of_startsAtRoot {text : String}
    (fromRoot : FileSystem.startsAtRoot text = true) : hasDirectory text = true := by
  cases slash : hasDirectory text with
  | true => rfl
  | false =>
      rw [startsAtRoot_of_no_directory slash] at fromRoot
      cases fromRoot

theorem candidates_of_directory {executable : String} (slash : hasDirectory executable = true)
    (searchPath : String) : candidates searchPath executable = [executable] := by
  rw [candidates, if_pos slash]

theorem exists_locateText_of_load {fs : FileSystem} {path called : String}
    {arguments : List String} {tries : Nat} {loaded : String × String × List String}
    (succeeds : load fs path called arguments tries = .ok loaded) :
    ∃ names, fs.locateText path = .ok names := by
  cases tries with
  | zero => cases succeeds
  | succ tries =>
      rw [load] at succeeds
      cases located : fs.locateText path with
      | ok names => exact ⟨names, rfl⟩
      | error fault => simp [FileSystem.statText, located, bind, Except.bind] at succeeds

theorem mem_of_loadFirst {fs : FileSystem} {called : String} {arguments paths : List String}
    {loaded : String × String × List String}
    (succeeds : loadFirst fs called arguments paths = .ok loaded) :
    ∃ path ∈ paths, load fs path called arguments maxInterpreters = .ok loaded := by
  fun_induction loadFirst fs called arguments paths with
  | case1 => cases succeeds
  | case2 path => exact ⟨path, List.mem_singleton_self _, succeeds⟩
  | case3 path more notLast first found =>
      obtain rfl := Except.ok.inj succeeds
      exact ⟨path, List.mem_cons_self .., found⟩
  | case4 path more notLast fault failed later found ih =>
      obtain ⟨path', member, found'⟩ := ih (found.trans succeeds)
      exact ⟨path', List.mem_cons_of_mem _ member, found'⟩
  | case5 => cases succeeds

theorem spawn_of_utility {host : Host} {executable name : String} {arguments : List String}
    {cwd : Option Path} {inside : FileSystem}
    (noNul : (executable :: arguments).any (fun word => word.toList.contains '\x00') = false)
    (short : isTooLong (executable :: arguments) = false)
    (entered : enter host.files cwd = .ok inside) (slash : hasDirectory executable = true)
    (found : inside.statText executable = .ok (.utility name)) :
    spawn host executable arguments cwd = .ok ⟨name, executable, arguments, inside⟩ := by
  have loaded : loadFirst inside executable arguments (candidates host.searchPath executable) =
      .ok (name, executable, arguments) := by
    rw [candidates_of_directory slash, loadFirst, maxInterpreters, load, found]
  simp only [spawn, noNul, short, entered, loaded, Bool.false_eq_true, if_false]

/-- A child sees the files of its host from the directory that it was started in. -/
theorem enter_eq_ok {fs inside : FileSystem} {cwd : Option Path}
    (entered : enter fs cwd = .ok inside) :
    ∃ here, inside = fs.seenFrom here ∧ (cwd = none → here = fs.here) ∧
      ∀ path, cwd = some path → fs.locateText path.toString = .ok here := by
  cases cwd with
  | none =>
      obtain rfl := Except.ok.inj entered
      exact ⟨fs.here, rfl, fun _ => rfl, fun path given => by cases given⟩
  | some path =>
      cases located : fs.locateText path.toString with
      | error fault => simp [enter, located] at entered
      | ok names =>
          simp only [enter, located] at entered
          split at entered
          · obtain rfl := Except.ok.inj entered
            refine ⟨names, rfl, fun unset => ?_, fun path' given => ?_⟩
            · cases unset
            · rw [← Option.some.inj given, located]
          · cases entered
          · cases entered

theorem spawn_eq_ok {host : Host} {executable : String} {arguments : List String}
    {cwd : Option Path} {child : Child}
    (started : spawn host executable arguments cwd = .ok child) :
    (∃ here, child.files = host.files.seenFrom here ∧ (cwd = none → here = host.files.here) ∧
        ∀ path, cwd = some path → host.files.locateText path.toString = .ok here) ∧
      ∃ path ∈ candidates host.searchPath executable, ∃ names, child.Executes path names := by
  unfold spawn at started
  split at started
  · cases started
  · cases entered : enter host.files cwd with
    | error fault => simp [entered] at started
    | ok inside =>
        simp only [entered] at started
        split at started
        · cases started
        · cases succeeds : loadFirst inside executable arguments
              (candidates host.searchPath executable) with
          | error fault => simp [succeeds] at started
          | ok loaded =>
              simp only [succeeds, Except.ok.injEq] at started
              subst started
              obtain ⟨path, member, found⟩ := mem_of_loadFirst succeeds
              obtain ⟨names, located⟩ := exists_locateText_of_load found
              exact ⟨enter_eq_ok entered, path, member, names, located, _, _, _, found⟩

theorem run_of_spawn {host : Host} {i : Invocation} {word executable : String}
    {arguments : List String} {cwd : Option Path} {child : Child}
    (given : i.command = word :: arguments) (located : locate host word = .ok executable)
    (checked : checkDirectory host i.cwd = .ok cwd)
    (started : spawn host executable arguments cwd = .ok child) (cancelAfter : Option Binary64) :
    run host i cancelAfter =
      watch child (executable :: arguments) (i.input.getD "") i.timeout cancelAfter := by
  simp only [run, given, locateCommand, located, checked, started, Except.map, bind, Except.bind]

/-- The file that a child executes is the one that its path leads to from the directory of the
child. If the word of the command is anchored, this is the file that was located from the directory
of the process, whatever directory the child is in. Otherwise what was located does not start at the
root, and it is surely the same file only if the child is in the directory of the process. -/
theorem runs_located_file_if_anchored {host : Host} {i : Invocation} {word executable : String}
    {arguments : List String} {cwd : Option Path} {child : Child}
    (given : i.command = word :: arguments) (located : locate host word = .ok executable)
    (checked : checkDirectory host i.cwd = .ok cwd)
    (started : spawn host executable arguments cwd = .ok child) (cancelAfter : Option Binary64) :
    run host i cancelAfter =
        watch child (executable :: arguments) (i.input.getD "") i.timeout cancelAfter ∧
      (FileSystem.startsAtRoot executable = true ↔ IsAnchored host word) ∧
      (∃ here, child.files = host.files.seenFrom here ∧ (cwd = none → here = host.files.here) ∧
        ∀ path, cwd = some path → host.files.locateText path.toString = .ok here) ∧
      ∃ path ∈ candidates host.searchPath executable, ∃ names, child.Executes path names ∧
        (IsAnchored host word →
          path = executable ∧ host.files.locateText executable = .ok names) ∧
        (hasDirectory executable = true → child.files.here = host.files.here →
          path = executable ∧ host.files.locateText executable = .ok names) := by
  have anchored_iff := startsAtRoot_of_locate_iff located
  obtain ⟨⟨here, files, directory⟩, path, member, names, executes⟩ := spawn_eq_ok started
  have only (slash : hasDirectory executable = true) : path = executable := by
    rw [candidates_of_directory slash] at member
    exact List.mem_singleton.1 member
  refine ⟨run_of_spawn given located checked started cancelAfter, anchored_iff,
    ⟨here, files, directory⟩, path, member, names, executes, ?_, ?_⟩
  · intro anchored
    have fromRoot := anchored_iff.2 anchored
    have same := only (hasDirectory_of_startsAtRoot fromRoot)
    have seen := executes.located
    rw [files, same, FileSystem.locateText_seenFrom_of_root _ _ fromRoot] at seen
    exact ⟨same, seen⟩
  · intro slash home
    have same := only slash
    have seen := executes.located
    rw [files, FileSystem.here_seenFrom] at home
    rw [files, home, same] at seen
    exact ⟨same, seen⟩

/-- An executable on the search path is the same file from everywhere. One that is named with its
directory is not: the process finds `/bin/tool`, and the child runs `/srv/bin/tool`. -/
theorem anchored_word_keeps_its_file_and_relative_path_does_not :
    let host : Host :=
      ⟨⟨[(["bin"], .directory true), (["bin", "tool"], .utility "true"), (["srv"], .directory true),
        (["srv", "bin"], .directory true), (["srv", "bin", "tool"], .utility "false")], []⟩, "/bin"⟩
    let cwd := Path.ofNames .root ["srv"]
    IsAnchored host "tool" ∧ ¬ IsAnchored host "bin/tool" ∧
      locate host "tool" = .ok "/bin/tool" ∧ locate host "bin/tool" = .ok "bin/tool" ∧
      host.files.locateText "/bin/tool" = .ok ["bin", "tool"] ∧
      host.files.locateText "bin/tool" = .ok ["bin", "tool"] ∧
      checkDirectory host (some cwd) = .ok (some cwd) ∧
      (∃ child, spawn host "/bin/tool" [] (some cwd) = .ok child ∧
        child.Executes "/bin/tool" ["bin", "tool"]) ∧
      ∃ child, spawn host "bin/tool" [] (some cwd) = .ok child ∧
        child.Executes "bin/tool" ["srv", "bin", "tool"] := by
  intro host cwd
  -- look-ups
  have absolute : FileSystem.textNames "/bin/tool" = ["bin", "tool"] := by decide +kernel
  have relative : FileSystem.textNames "bin/tool" = ["bin", "tool"] := by decide +kernel
  have bin : host.files.node? ([] ++ ["bin"]) = some (.directory true) := rfl
  have tool : host.files.node? ([] ++ ["bin"] ++ ["tool"]) = some (.utility "true") := rfl
  have srv : host.files.node? ["srv"] = some (.directory true) := rfl
  have srvBin : host.files.node? (["srv"] ++ ["bin"]) = some (.directory true) := rfl
  have srvTool : host.files.node? (["srv"] ++ ["bin"] ++ ["tool"]) = some (.utility "false") := rfl
  have outer : host.files.walk FileSystem.maxLinks [] ["bin", "tool"] = .ok ["bin", "tool"] := by
    rw [FileSystem.walk_cons (by decide) (by decide) (by decide) rfl bin (by simp),
      FileSystem.walk_cons (by decide) (by decide) (by decide) rfl tool (by simp), FileSystem.walk]
    rfl
  have inner : host.files.walk FileSystem.maxLinks ["srv"] ["bin", "tool"] =
      .ok ["srv", "bin", "tool"] := by
    rw [FileSystem.walk_cons (by decide) (by decide) (by decide) rfl srvBin (by simp),
      FileSystem.walk_cons (by decide) (by decide) (by decide) rfl srvTool (by simp),
      FileSystem.walk]
    rfl
  have outerAbsolute : host.files.locateText "/bin/tool" = .ok ["bin", "tool"] := by
    rw [FileSystem.locateText, absolute, if_neg (by decide), if_neg (by decide), if_pos (by decide),
      outer]
  have outerRelative : host.files.locateText "bin/tool" = .ok ["bin", "tool"] := by
    rw [FileSystem.locateText, relative, if_neg (by decide), if_neg (by decide), if_neg (by decide)]
    exact outer
  have innerRelative : (host.files.seenFrom ["srv"]).locateText "bin/tool" =
      .ok ["srv", "bin", "tool"] := by
    rw [FileSystem.locateText, relative, if_neg (by decide), if_neg (by decide), if_neg (by decide),
      FileSystem.walk_seenFrom]
    exact inner
  have entered : enter host.files (some cwd) = .ok (host.files.seenFrom ["srv"]) := by
    have there : host.files.locateText cwd.toString = .ok ["srv"] :=
      FileSystem.locateText_of_root_entry (by decide) (by decide) (by decide) srv (by simp)
    simp only [enter, there]
    rfl
  have checked : checkDirectory host (some cwd) = .ok (some cwd) := by
    have found : host.files.stat cwd = .ok (.directory true) :=
      FileSystem.stat_of_root_entry (by decide) (by decide) (by decide) srv (by simp)
    have directory : host.files.isDirectory cwd = .ok true := by
      rw [FileSystem.isDirectory, found]
      rfl
    rw [checkDirectory, directory]
  -- the words
  have bare : locate host "tool" = .ok "/bin/tool" := by
    have searched : search? host "tool" = some "/bin/tool" := by
      have directories : (directoriesOf "/bin").map (entryText · "tool") = ["/bin/tool"] := by
        decide +kernel
      have executable : isExecutable host.files "/bin/tool" = true := by
        rw [isExecutable, FileSystem.statText, outerAbsolute]
        decide
      rw [search?, if_neg (by decide), directories, List.find?_cons, executable]
    rw [locate, if_neg (by decide), searched]
  have slashed : locate host "bin/tool" = .ok "bin/tool" := by
    have executable : isExecutable host.files "bin/tool" = true := by
      rw [isExecutable, FileSystem.statText, outerRelative]
      decide
    rw [locate, if_neg (by decide), search?, if_pos (by decide), if_pos executable]
  have started : spawn host "/bin/tool" [] (some cwd) =
      .ok ⟨"true", "/bin/tool", [], host.files.seenFrom ["srv"]⟩ := by
    apply spawn_of_utility (by decide) (by decide) entered (by decide)
    rw [FileSystem.statText, FileSystem.locateText_seenFrom_of_root _ _ (by decide), outerAbsolute]
    rfl
  have started' : spawn host "bin/tool" [] (some cwd) =
      .ok ⟨"false", "bin/tool", [], host.files.seenFrom ["srv"]⟩ := by
    apply spawn_of_utility (by decide) (by decide) entered (by decide)
    rw [FileSystem.statText, innerRelative]
    rfl
  obtain ⟨-, anchored, -, path, -, names, executes, same, -⟩ :=
    runs_located_file_if_anchored (i := { command := ["tool"], cwd := some cwd }) rfl bare checked
      started none
  have isAnchored := anchored.1 (by decide)
  obtain ⟨rfl, seen⟩ := same isAnchored
  obtain rfl := Except.ok.inj (outerAbsolute.symm.trans seen)
  obtain ⟨-, anchored', -, path', candidate, names', executes', -⟩ :=
    runs_located_file_if_anchored (i := { command := ["bin/tool"], cwd := some cwd }) rfl slashed
      checked started' none
  rw [candidates_of_directory (by decide), List.mem_singleton] at candidate
  subst candidate
  obtain rfl := Except.ok.inj (innerRelative.symm.trans executes'.located)
  refine ⟨isAnchored, fun other => ?_, bare, slashed, outerAbsolute, outerRelative, checked,
    ⟨_, started, executes⟩, _, started', executes'⟩
  exact absurd (anchored'.2 other) (by decide)

end Command

end LintBridge
