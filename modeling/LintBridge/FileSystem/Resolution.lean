import LintBridge.FileSystem
import LintBridge.Text.Quoted

/-!
Paths without links.

A path is resolved name by name: two dots go back to the directory above, a link is replaced by what
its target resolves to, and a name that does not exist is kept. A link that is met again while its
target is being resolved stands for itself, and so does all behind it. A path whose resolution the
system still refuses for its links has a loop.
-/
set_option autoImplicit false

namespace LintBridge

inductive ResolveFault where
  | nul
  /-- The links on a path lead round in a circle. -/
  | loop (path : Path)

def ResolveFault.message : ResolveFault → String
  | .nul => "embedded null byte"
  | .loop path => s!"Symlink loop from {Text.quotedString path.toString}"

namespace FileSystem

/-- The target of the link at a path with no link on the way. -/
def linkAt? (fs : FileSystem) (p : Path) : Option String :=
  match fs.node? (fs.cwd.join p).normal.names with
  | some (.link target) => some target
  | _ => none

/-- What the names lead to from a place without links, or the path on which a link is met again. The
links of `open'` are being resolved, and further ones may be opened to the given depth. -/
def expand (fs : FileSystem) (depth : Nat) (open' : List Path) (place : Path) :
    List String → Except Path Path
  | [] => .ok place
  | name :: rest =>
    if name = ".." then expand fs depth open' place.above rest
    else
      let next := place.child name
      match fs.linkAt? next with
      | none => expand fs depth open' next rest
      | some target =>
        if open'.contains next then .error (Path.ofNames next.anchor (next.names ++ rest))
        else
          match depth with
          | 0 => .error (Path.ofNames next.anchor (next.names ++ rest))
          | depth + 1 =>
            let start := if startsAtRoot target then Path.ofNames .root [] else place
            match expand fs depth (next :: open') start (Path.ofString target).names with
            | .error p => .error (Path.ofNames p.anchor (p.names ++ rest))
            | .ok p => expand fs (depth + 1) open' p rest
termination_by names => (depth, names.length)

/-- A depth that is enough: no link has more names than its own and one for each directory above
that of the process. -/
def maxDepth (fs : FileSystem) : Nat := fs.nodes.length * (fs.here.length + 2) + 1

/-- The path from the root, without links and two dots, of what a path stands for. -/
def resolve (fs : FileSystem) (p : Path) : Except ResolveFault Path :=
  if p.hasNul then .error .nul
  else
    let start := if p.isAbsolute then Path.ofNames .root [] else Path.here
    let found :=
      match fs.expand fs.maxDepth [] start p.names with
      | .ok q => q
      | .error q => q
    let resolved := (fs.cwd.join found).normal
    match fs.stat resolved with
    | .error .tooManyLinks => .error (.loop resolved)
    | _ => .ok resolved

end FileSystem

end LintBridge
