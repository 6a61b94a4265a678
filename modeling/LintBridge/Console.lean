import LintBridge.Text.Columns

/-!
Lines of text on a console, with colours where the console has them.

A text is a list of pieces, each with the codes of its colour. Five control characters are dropped
from it. Each of its lines is written on its own, with a line feed behind it, so that colours never
run across line ends. A tab is filled with spaces up to the next tab stop and ends its piece. On a
console with colours every piece that is not empty stands between the sequence that sets its codes
and the one that resets them; on any other console the pieces are written as they are.
-/
set_option autoImplicit false

namespace LintBridge

/-- What a console was set up for: colours, pictograms, and whether it is a terminal. -/
structure Console where
  color : Bool
  emoji : Bool
  terminal : Bool
  deriving DecidableEq, Repr

structure Piece where
  codes : String
  text : List Char
  deriving DecidableEq, Repr

namespace Console

/-- Colours appear on terminals only. -/
def hasColors (c : Console) : Bool := c.color && c.terminal

/-- The number of colours of the console, if it has any. -/
def palette? (c : Console) : Option String := if c.hasColors then some "256" else none

/-- A control character that is not written: bell, backspace, vertical tab, form feed and carriage
return. -/
def isDropped (c : Char) : Bool :=
  let n := c.toNat
  n == 7 || n == 8 || (11 ≤ n && n ≤ 13)

def clean (p : Piece) : Piece := { p with text := p.text.filter (!isDropped ·) }

def linesOf : List Piece → List (List Piece)
  | [] => [[]]
  | p :: more =>
    let texts := p.text.splitOn '\n'
    let last := Piece.mk p.codes (texts.getLast?.getD [])
    let full := texts.dropLast.map fun text => [Piece.mk p.codes text]
    match linesOf more with
    | [] => full ++ [[last]]
    | line :: lines => full ++ (last :: line) :: lines

def tabStop : Nat := 8

/-- A line since its last tab: the column that it starts at and its text. -/
structure Stretch where
  start : Nat := 0
  text : List Char := []

/-- The spaces for a tab that ends a stretch, and the column behind them. -/
def fill (s : Stretch) : List Char × Nat :=
  let column := s.start + Text.columns (s.text ++ [' '])
  let more := (tabStop - column % tabStop) % tabStop
  (List.replicate (more + 1) ' ', column + more)

/-- The pieces for texts with a tab between each two, and the stretch behind them. -/
def fillTabs (codes : String) (s : Stretch) : List (List Char) → List Piece × Stretch
  | [] => ([], s)
  | [text] => ([⟨codes, text⟩], { s with text := s.text ++ text })
  | text :: more =>
    let (spaces, column) := fill { s with text := s.text ++ text }
    let (pieces, behind) := fillTabs codes ⟨column, []⟩ more
    (⟨codes, text ++ spaces⟩ :: pieces, behind)

def expandTabs (s : Stretch) : List Piece → List Piece
  | [] => []
  | p :: more =>
    let (pieces, behind) := fillTabs p.codes s (p.text.splitOn '\t')
    pieces ++ expandTabs behind more

def paint (c : Console) (p : Piece) : List Char :=
  if p.text.isEmpty || !c.hasColors then p.text
  else '\x1b' :: '[' :: p.codes.toList ++ 'm' :: p.text ++ "\x1b[0m".toList

def paintLine (c : Console) (line : List Piece) : List Char :=
  (expandTabs {} line).flatMap (paint c) ++ ['\n']

def render (c : Console) (pieces : List Piece) : String :=
  String.ofList ((linesOf (pieces.map clean)).flatMap (paintLine c))

theorem linesOf_ne_nil (pieces : List Piece) : linesOf pieces ≠ [] := by
  cases pieces with
  | nil => simp [linesOf]
  | cons p more =>
      rw [linesOf]
      split <;> simp

/-- There is a line feed at least in what is written. -/
theorem render_ne_empty (c : Console) (pieces : List Piece) : c.render pieces ≠ "" := by
  obtain ⟨line, lines, split⟩ := List.exists_cons_of_ne_nil (linesOf_ne_nil (pieces.map clean))
  simp [render, split, paintLine]

end Console

end LintBridge
