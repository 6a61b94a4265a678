/-!
File paths.

A path is an anchor and a list of names. The names of a path are never empty, never a single dot and
hold no slash (`names_ok`); two dots are a name like any other. Text of any form reads as a path:
empty names, dots and slashes at the end are dropped. Exactly two slashes in front are an anchor of
their own, and any other number above zero is the usual root.
-/
set_option autoImplicit false

namespace LintBridge

inductive Anchor where
  | relative
  | root
  | doubleRoot
  deriving DecidableEq, Repr

def Anchor.show : Anchor → String
  | .relative => ""
  | .root => "/"
  | .doubleRoot => "//"

def isPathName (s : String) : Bool := s != "" && s != "." && !s.toList.contains '/'

structure Path where
  anchor : Anchor
  names : List String
  names_ok : names.all isPathName = true := by decide
  deriving DecidableEq

namespace Path

/-- The path that starts at an anchor and goes along those of the texts that are names. -/
def ofNames (anchor : Anchor) (texts : List String) : Path :=
  ⟨anchor, texts.filter isPathName, by simp [List.all_eq_true]⟩

def pieces (text : List Char) : List String := (text.splitOn '/').map String.ofList

def ofText (text : List Char) : Path :=
  let anchor :=
    match (text.takeWhile (· == '/')).length with
    | 0 => Anchor.relative
    | 2 => Anchor.doubleRoot
    | _ => Anchor.root
  ofNames anchor (pieces text)

def ofString (s : String) : Path := ofText s.toList

/-- The path as text. The empty path is a dot. -/
def toString (p : Path) : String :=
  if p.anchor = .relative && p.names.isEmpty then "."
  else p.anchor.show ++ "/".intercalate p.names

instance : ToString Path := ⟨toString⟩

/-- The path with no names and no root. -/
def here : Path := ⟨.relative, [], by decide⟩

def isAbsolute (p : Path) : Bool := p.anchor != .relative

def name (p : Path) : String := p.names.getLast?.getD ""

def parent (p : Path) : Path := ofNames p.anchor p.names.dropLast

/-- The path `q` as seen from `p`. -/
def join (p q : Path) : Path :=
  if q.isAbsolute then q else ofNames p.anchor (p.names ++ q.names)

def child (p : Path) (name : String) : Path := ofNames p.anchor (p.names ++ [name])

/-- The directory above the one at a path, if no link is on the way. -/
def above (p : Path) : Path :=
  match p.names.getLast? with
  | some last => if last = ".." then p.child ".." else p.parent
  | none => if p.anchor = .relative then p.child ".." else p

/-- The names that are left when every two dots take the name in front of them away. -/
def collapse (kept : List String) : List String → List String
  | [] => kept
  | name :: more =>
    if name = ".." then collapse kept.dropLast more else collapse (kept ++ [name]) more

/-- The path from the root with no two dots in it, if no link is on the way. -/
def normal (p : Path) : Path := ofNames .root (collapse [] p.names)

/-- Whether the path holds a character that no file's path can hold. -/
def hasNul (p : Path) : Bool := p.names.any fun name => name.toList.contains '\x00'

theorem ofNames_names (p : Path) : ofNames p.anchor p.names = p := by
  obtain ⟨anchor, names, ok⟩ := p
  simp only [ofNames, mk.injEq, true_and]
  exact List.filter_eq_self.2 (fun name h => List.all_eq_true.1 ok name h)

example : (ofString "./a//b/../c/").toString = "a/b/../c" := by decide +kernel
example : (ofString "//a").toString = "//a" ∧ (ofString "///a").toString = "/a" := by decide +kernel

end Path

end LintBridge
