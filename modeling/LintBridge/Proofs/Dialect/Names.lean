import LintBridge.Dialect
import LintBridge.Proofs.Dialect.Directive
import LintBridge.Proofs.Path
import LintBridge.Proofs.Text.Words

/-!
# The shells that headers name

The header of a script names a shell by its first directive or, if there is none, by the last name
of the path that its shebang calls (`Dialect.Names`). Such a name is never empty and holds no slash
and no blank. A path of slashes and single dots has no last name; a shebang that calls one declares
the empty shell, and the script is skipped as one of a shell that the analyser does not know, while
one whose header calls nothing is checked as bash (`Dialect.declares_name_unless_nameless`).
-/
set_option autoImplicit false

namespace LintBridge

open Text (isBlank isSolid trim firstLine Stops)

/-! ## Last names of paths -/

/-- The last name of a path: of what stands between its slashes, the last that is neither empty nor
a single dot. -/
def IsLastName (path name : List Char) : Prop :=
  ∃ front behind, path.splitOn '/' = front ++ name :: behind ∧ name ≠ [] ∧ name ≠ ['.'] ∧
    ∀ piece ∈ behind, piece = [] ∨ piece = ['.']

/-- A path of slashes and single dots. -/
def IsNameless (path : List Char) : Prop := ∀ piece ∈ path.splitOn '/', piece = [] ∨ piece = ['.']

theorem isPathName_ofList_iff {path piece : List Char} (member : piece ∈ path.splitOn '/') :
    isPathName (String.ofList piece) = true ↔ ¬ (piece = [] ∨ piece = ['.']) := by
  have empty : String.ofList piece = "" ↔ piece = [] := by
    rw [← String.toList_inj, String.toList_ofList, String.toList_empty]
  have dot : String.ofList piece = "." ↔ piece = ['.'] := by
    rw [← String.toList_inj, String.toList_ofList]
    rfl
  have slashless : '/' ∉ piece := fun slash => (Text.mem_and_ne_of_mem_splitOn member slash).2 rfl
  rw [isPathName_iff, String.toList_ofList, Ne, empty, Ne, dot, not_or]
  exact ⟨fun ok => ⟨ok.1, ok.2.1⟩, fun ok => ⟨ok.1, ok.2, slashless⟩⟩

theorem getLast?_filter_eq_some_iff {α : Type} (p : α → Bool) (xs : List α) (x : α) :
    (xs.filter p).getLast? = some x ↔
      ∃ front behind, xs = front ++ x :: behind ∧ p x = true ∧ ∀ y ∈ behind, p y = false := by
  rw [← List.head?_reverse, ← List.filter_reverse, List.head?_filter,
    List.find?_eq_some_iff_append]
  constructor
  · rintro ⟨kept, behind, front, split, dropped⟩
    refine ⟨front.reverse, behind.reverse, ?_, kept, fun y member => ?_⟩
    · rw [← List.reverse_inj, split]
      simp
    · simpa using dropped y (List.mem_reverse.1 member)
  · rintro ⟨front, behind, rfl, kept, dropped⟩
    refine ⟨kept, behind.reverse, front.reverse, by simp, fun y member => ?_⟩
    simpa using dropped y (List.mem_reverse.1 member)

/-- What stands between the slashes of a path and is a name, the last of it. -/
def lastName? (path : List Char) : Option (List Char) :=
  ((path.splitOn '/').filter fun piece => isPathName (String.ofList piece)).getLast?

theorem lastName?_eq_some_iff (path name : List Char) :
    lastName? path = some name ↔ IsLastName path name := by
  have iff_of_split {front behind : List (List Char)}
      (split : path.splitOn '/' = front ++ name :: behind) :
      (isPathName (String.ofList name) = true ∧
          ∀ piece ∈ behind, isPathName (String.ofList piece) = false) ↔
        name ≠ [] ∧ name ≠ ['.'] ∧ ∀ piece ∈ behind, piece = [] ∨ piece = ['.'] := by
    have inPath : ∀ piece ∈ name :: behind, piece ∈ path.splitOn '/' := by
      intro piece member
      rw [split]
      exact List.mem_append_right _ member
    rw [List.forall_mem_cons] at inPath
    rw [isPathName_ofList_iff inPath.1, not_or, and_assoc]
    refine and_congr_right fun _ => and_congr_right fun _ => forall₂_congr fun piece member => ?_
    rw [← Bool.not_eq_true, isPathName_ofList_iff (inPath.2 piece member), not_not]
  rw [lastName?, getLast?_filter_eq_some_iff, IsLastName]
  refine exists₂_congr fun front behind => and_congr_right iff_of_split

theorem lastName?_eq_none_iff (path : List Char) : lastName? path = none ↔ IsNameless path := by
  rw [lastName?, List.getLast?_eq_none_iff, List.filter_eq_nil_iff, IsNameless]
  refine forall₂_congr fun piece cut => ?_
  rw [isPathName_ofList_iff cut, not_not]

theorem IsLastName.mem_and_ne {path name : List Char} (last : IsLastName path name) {c : Char}
    (member : c ∈ name) : c ∈ path ∧ c ≠ '/' := by
  obtain ⟨front, behind, split, -⟩ := last
  have cut : name ∈ path.splitOn '/' := by simp [split]
  exact Text.mem_and_ne_of_mem_splitOn cut member

namespace Shebang

/-! ## What a shebang calls -/

/-- A line without blanks around it is a shebang: number sign and exclamation mark, blanks or none,
the path of a command and, behind a blank, its arguments. -/
structure IsShebang (line path arguments : List Char) : Prop where
  exists_space : ∃ space, line = '#' :: '!' :: (space ++ (path ++ arguments)) ∧
    ∀ c ∈ space, isBlank c = true
  path_ne_nil : path ≠ []
  path_solid : ∀ c ∈ path, isBlank c = false
  path_stops : Stops isSolid arguments

/-- The first word that is no option. -/
def IsOperand (words : List (List Char)) (word : List Char) : Prop :=
  ∃ options more, words = options ++ word :: more ∧ (∀ o ∈ options, o.head? = some '-') ∧
    word.head? ≠ some '-'

/-- The command that the first line of a text calls: the one of a shebang, or what it gives to
`env`. -/
inductive Calls (text : List Char) : List Char → Prop
  | command {path arguments : List Char}
      (shebang : IsShebang (trim (firstLine text)) path arguments) (other : ¬ IsLastName path "env".toList) : Calls text path
  | operand {path arguments word : List Char}
      (shebang : IsShebang (trim (firstLine text)) path arguments)
      (env : IsLastName path "env".toList) (first : IsOperand (Text.words arguments) word) :
      Calls text word

theorem command?_eq_some_iff (line path : List Char) (words : List (List Char)) :
    command? line = some (path, words) ↔
      ∃ arguments, IsShebang (trim line) path arguments ∧ Text.words arguments = words := by
  have read (rest : List Char) : Text.words rest = path :: words ↔
      ∃ arguments, IsShebang ('#' :: '!' :: rest) path arguments ∧
        Text.words arguments = words := by
    rw [Text.words_eq_cons_iff]
    constructor
    · rintro ⟨space, arguments, rfl, blank, given, solid, stops, same⟩
      exact ⟨arguments, ⟨⟨space, rfl, blank⟩, given, solid, stops⟩, same⟩
    · rintro ⟨arguments, ⟨⟨space, line, blank⟩, given, solid, stops⟩, same⟩
      have rest := (List.cons.inj (List.cons.inj line).2).2
      exact ⟨space, arguments, rest, blank, given, solid, stops, same⟩
  rw [command?]
  split
  · rename_i rest trimmed
    rw [trimmed, ← read]
    cases Text.words rest with
    | nil => simp
    | cons first more => simp
  · rename_i other
    simp only [reduceCtorEq, false_iff]
    rintro ⟨arguments, ⟨⟨space, line, -⟩, -⟩, -⟩
    exact other _ line

theorem find?_eq_some_iff_isOperand (words : List (List Char)) (word : List Char) :
    (words.find? fun word => word.head? != some '-') = some word ↔ IsOperand words word := by
  rw [List.find?_eq_some_iff_append, IsOperand]
  simp only [bne_iff_ne, Bool.not_eq_true', bne_eq_false_iff_eq]
  constructor
  · rintro ⟨operand, options, more, split, option⟩
    exact ⟨options, more, split, option, operand⟩
  · rintro ⟨options, more, split, option, operand⟩
    exact ⟨operand, options, more, split, option⟩

theorem baseName_eq (path : List Char) :
    baseName path = ((lastName? path).map String.ofList).getD "" := by
  have names : (Path.ofText path).names =
      ((path.splitOn '/').filter fun piece => isPathName (String.ofList piece)).map String.ofList :=
    List.filter_map
  rw [baseName, Path.name, names, List.getLast?_map, lastName?]

theorem baseName_eq_iff (path : List Char) (name : String) :
    baseName path = name ↔ IsLastName path name.toList ∨ (name = "" ∧ IsNameless path) := by
  rw [baseName_eq, ← lastName?_eq_some_iff, ← lastName?_eq_none_iff]
  cases lastName? path with
  | none => simp [eq_comm]
  | some last =>
      simp only [Option.map_some, Option.getD_some, Option.some.injEq, reduceCtorEq, and_false,
        or_false, ← String.toList_inj, String.toList_ofList]

theorem ofText?_eq_some_iff (text : List Char) (name : String) :
    ofText? text = some name ↔ ∃ word, Calls text word ∧ baseName word = name := by
  have env (path : List Char) : baseName path = "env" ↔ IsLastName path "env".toList := by
    rw [baseName_eq_iff]
    exact or_iff_left fun empty => absurd empty.1 (by decide)
  rw [ofText?, interpreter?]
  simp only [Option.bind_eq_bind, Option.bind_eq_some_iff, Prod.exists, command?_eq_some_iff]
  constructor
  · rintro ⟨path, _, ⟨arguments, shebang, rfl⟩, found⟩
    split_ifs at found with named
    · obtain ⟨word, first, same⟩ := Option.map_eq_some_iff.1 found
      have operand := (find?_eq_some_iff_isOperand _ _).1 first
      exact ⟨word, .operand shebang ((env path).1 named) operand, same⟩
    · exact ⟨path, .command shebang (mt (env path).2 named), Option.some.inj found⟩
  · rintro ⟨word, calls, same⟩
    cases calls with
    | command shebang other =>
        refine ⟨word, _, ⟨_, shebang, rfl⟩, ?_⟩
        rw [if_neg (mt (env word).1 other), same]
    | operand shebang named first =>
        refine ⟨_, _, ⟨_, shebang, rfl⟩, ?_⟩
        rw [if_pos ((env _).2 named), (find?_eq_some_iff_isOperand _ _).2 first, Option.map_some,
          same]

theorem Calls.solid {text word : List Char} (calls : Calls text word) :
    ∀ c ∈ word, isBlank c = false := by
  cases calls with
  | command shebang _ => exact shebang.path_solid
  | operand _ _ first =>
      obtain ⟨options, more, split, -⟩ := first
      exact (Text.of_mem_words (by rw [split]; simp)).2

end Shebang

namespace Dialect

open Directive (IsDirective Gives headerLines)

/-- The header of a text has no directive. -/
def LacksDirective (text : List Char) : Prop := ∀ line ∈ headerLines text, ¬ IsDirective (trim line)

/-- The shell that the header of a text names: by its first directive, or else by the last name of
what its shebang calls. -/
inductive Names (text : List Char) : List Char → Prop
  | directive {front behind : List (List Char)} {line name : List Char}
      (header : headerLines text = front ++ line :: behind)
      (first : ∀ other ∈ front, ¬ IsDirective (trim other)) (gives : Gives (trim line) name) :
      Names text name
  | shebang {word name : List Char} (lacks : LacksDirective text) (calls : Shebang.Calls text word)
      (last : IsLastName word name) : Names text name

/-- The header of a text names no shell, though its shebang calls a path. -/
def CallsNameless (text : List Char) : Prop :=
  LacksDirective text ∧ ∃ word, Shebang.Calls text word ∧ IsNameless word

theorem Names.isName {text name : List Char} (names : Names text name) :
    name ≠ [] ∧ '/' ∉ name ∧ ∀ c ∈ name, isBlank c = false := by
  cases names with
  | directive _ _ gives =>
      obtain ⟨-, -, -, ⟨-, -, -, -, -, -, given, all, -⟩, -⟩ := gives
      refine ⟨given, fun slash => absurd (all _ slash) (by decide), fun c member => ?_⟩
      by_contra blank
      have other := Directive.isNameChar_of_isBlank (Bool.of_not_eq_false blank)
      rw [all c member] at other
      cases other
  | shebang _ calls last =>
      refine ⟨?_, fun slash => (last.mem_and_ne slash).2 rfl, fun c member => ?_⟩
      · obtain ⟨-, -, -, given, -⟩ := last
        exact given
      · exact calls.solid c (last.mem_and_ne member).1

theorem directive_eq_none_iff (text : List Char) :
    Directive.ofText? text = none ↔ LacksDirective text := by
  rw [Directive.ofText?_eq, Option.map_eq_none_iff, List.findSome?_eq_none_iff]
  exact forall₂_congr fun line _ => Directive.ofLine?_eq_none_iff _

theorem directive_eq_some_iff (text : List Char) (shell : String) :
    Directive.ofText? text = some shell ↔
      ∃ front line behind, headerLines text = front ++ line :: behind ∧
        (∀ other ∈ front, ¬ IsDirective (trim other)) ∧ Gives (trim line) shell.toList := by
  have found (name : List Char) : String.ofList name = shell ↔ name = shell.toList := by
    rw [← String.toList_inj, String.toList_ofList]
  simp only [Directive.ofText?_eq, Option.map_eq_some_iff, found, exists_eq_right,
    List.findSome?_eq_some_iff, Directive.ofLine?_eq_some_iff, Directive.ofLine?_eq_none_iff]
  refine exists₃_congr fun front line behind => and_congr_right fun _ => and_comm

theorem declared?_eq_some_iff (text shell : String) :
    declared? text = some shell ↔
      Names text.toList shell.toList ∨ (shell = "" ∧ CallsNameless text.toList) := by
  rw [declared?, Option.or_eq_some_iff, directive_eq_some_iff, directive_eq_none_iff,
    Shebang.ofText?_eq_some_iff]
  simp only [Shebang.baseName_eq_iff]
  constructor
  · rintro (⟨front, line, behind, header, first, gives⟩ | ⟨lacks, word, calls, last | nameless⟩)
    · exact .inl (.directive header first gives)
    · exact .inl (.shebang lacks calls last)
    · exact .inr ⟨nameless.1, lacks, word, calls, nameless.2⟩
  · rintro (names | ⟨empty, lacks, word, calls, nameless⟩)
    · cases names with
      | directive header first gives => exact .inl ⟨_, _, _, header, first, gives⟩
      | shebang lacks calls last => exact .inr ⟨lacks, _, calls, .inl last⟩
    · exact .inr ⟨lacks, word, calls, .inr ⟨empty, nameless⟩⟩

theorem argument?_eq_none_iff (text : String) :
    argument? text = none ↔ ∃ shell, declared? text = some shell ∧ shell ∉ supported := by
  rw [argument?]
  cases declared? text with
  | none => simp
  | some shell =>
      simp only [Option.some.injEq, exists_eq_left']
      split_ifs with known
      · have member := List.contains_iff_mem.1 known
        simp [member]
      · have unknown := mt List.contains_iff_mem.2 known
        simp [unknown]

/-- The shell that a script declares is a name, neither empty nor with a slash or a blank in it,
that the header names in one of three ways; only a shebang that calls a path without names declares
the empty shell. Accordingly a script is skipped exactly if its header names a shell that the
analyser does not know or calls such a path, and one whose header names no shell is checked as bash
exactly if it calls no such path. -/
theorem declares_name_unless_nameless (text : String) :
    (∀ shell, declared? text = some shell ↔
        Names text.toList shell.toList ∨ (shell = "" ∧ CallsNameless text.toList)) ∧
      (∀ name, Names text.toList name →
        name ≠ [] ∧ '/' ∉ name ∧ ∀ c ∈ name, isBlank c = false) ∧
      (argument? text = none ↔
        (∃ name, Names text.toList name ∧ String.ofList name ∉ supported) ∨
          CallsNameless text.toList) ∧
      ((∀ name, ¬ Names text.toList name) →
        (argument? text = some fallback ↔ ¬ CallsNameless text.toList)) := by
  have skipped : argument? text = none ↔
      (∃ name, Names text.toList name ∧ String.ofList name ∉ supported) ∨
        CallsNameless text.toList := by
    simp only [argument?_eq_none_iff, declared?_eq_some_iff]
    constructor
    · rintro ⟨shell, names | ⟨-, nameless⟩, unknown⟩
      · exact .inl ⟨_, names, by rwa [String.ofList_toList]⟩
      · exact .inr nameless
    · rintro (⟨name, names, unknown⟩ | nameless)
      · exact ⟨_, .inl (by rwa [String.toList_ofList]), unknown⟩
      · exact ⟨"", .inr ⟨rfl, nameless⟩, by decide⟩
  refine ⟨declared?_eq_some_iff text, fun name => Names.isName, skipped, fun unnamed => ?_⟩
  constructor
  · intro checked nameless
    rw [skipped.2 (.inr nameless)] at checked
    cases checked
  · intro named
    have undeclared : declared? text = none := by
      refine Option.eq_none_iff_forall_ne_some.2 fun shell declared => ?_
      rcases (declared?_eq_some_iff text shell).1 declared with names | ⟨-, nameless⟩
      · exact unnamed _ names
      · exact named nameless
    rw [argument?, undeclared]

example : declared? "#!/usr/bin/env ./\n" = some "" ∧ argument? "#!/usr/bin/env ./\n" = none := by
  decide +kernel

end Dialect

end LintBridge
