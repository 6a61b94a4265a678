/-!
How alike two texts are.

The longest run of characters that two texts share is matched, of several the one that is first in
the first text and then in the second; what is in front of it and what is behind it are matched in
the same way. The texts are alike if the matched characters, counted in both texts, are at least
three fifths of all.
-/
set_option autoImplicit false

namespace LintBridge.Text

def commonStart : List Char → List Char → Nat
  | a :: as, b :: bs => if a = b then commonStart as bs + 1 else 0
  | _, _ => 0

/-- A run that two texts share: where it starts in each, and its length. -/
structure SharedRun where
  first : Nat
  second : Nat
  length : Nat
  deriving DecidableEq, Repr

/-- The longer of two runs; of runs of one length the one that was found before. -/
def SharedRun.longer (found next : SharedRun) : SharedRun :=
  if found.length < next.length then next else found

def longestRun (a b : List Char) : SharedRun :=
  (List.range a.length).foldl (fun found i =>
    (List.range b.length).foldl (fun found j =>
      found.longer ⟨i, j, commonStart (a.drop i) (b.drop j)⟩) found) ⟨0, 0, 0⟩

/-- The number of characters that are matched in two texts; `depth` bounds how often what is left
over is matched again. -/
def matchedTo : Nat → List Char → List Char → Nat
  | 0, _, _ => 0
  | depth + 1, a, b =>
    let run := longestRun a b
    if run.length = 0 then 0
    else
      matchedTo depth (a.take run.first) (b.take run.second) + run.length +
        matchedTo depth (a.drop (run.first + run.length)) (b.drop (run.second + run.length))

def matched (a b : List Char) : Nat := matchedTo a.length a b

def isAlike (a b : List Char) : Bool := 3 * (a.length + b.length) ≤ 10 * matched a b

/-- A candidate and how alike it is to a text: the matched part of all characters. -/
structure Candidate where
  text : String
  matched : Nat
  total : Nat

/-- Whether a candidate comes before another: it is more alike, or equally and greater as a text. -/
def Candidate.isBefore (p q : Candidate) : Bool :=
  q.matched * p.total < p.matched * q.total ||
    (q.matched * p.total == p.matched * q.total && decide (q.text < p.text))

def maxProposals : Nat := 3

/-- The candidates that are most alike to a text, the most alike first. -/
def proposals (text : String) (candidates : List String) : List String :=
  let target := text.toList
  let alike := candidates.filter fun c => isAlike c.toList target
  let scored := alike.map fun c =>
    Candidate.mk c (matched c.toList target) (c.toList.length + target.length)
  ((scored.mergeSort fun p q => !q.isBefore p).take maxProposals).map Candidate.text

example : proposals "--nope" ["--cwd", "--no-emoji", "--debug"] = ["--no-emoji"] := by
  decide +kernel

end LintBridge.Text
