import LintBridge.Console

/-!
Consoles that are kept for later use.

A console is set up when its settings are asked for the first time, and is kept. Consoles are known
by the order in which they were set up.
-/
set_option autoImplicit false

namespace LintBridge

inductive ErrorOutput where
  | terminal
  | file
  | missing
  | closed
  deriving DecidableEq, Repr

def ErrorOutput.isTerminal (o : ErrorOutput) : Bool := o == .terminal

/-- The consoles that were set up so far. -/
abbrev ConsoleCache := List Console

namespace ConsoleCache

/-- The cache in which there is a console of some settings. -/
def provide (cache : ConsoleCache) (settings : Console) : ConsoleCache :=
  if cache.contains settings then cache else cache ++ [settings]

def number (cache : ConsoleCache) (settings : Console) : Nat :=
  (cache.provide settings).idxOf settings

def console (cache : ConsoleCache) (settings : Console) : Console :=
  (cache.provide settings)[cache.number settings]?.getD settings

theorem mem_provide (cache : ConsoleCache) (settings : Console) :
    settings ∈ cache.provide settings := by
  unfold provide
  split
  · rename_i h
    exact List.contains_iff_mem.1 h
  · simp

theorem console_eq (cache : ConsoleCache) (settings : Console) :
    cache.console settings = settings := by
  have h : (cache.provide settings).idxOf settings < (cache.provide settings).length :=
    List.idxOf_lt_length_of_mem (mem_provide cache settings)
  simp [console, number, List.getElem?_eq_getElem h, List.getElem_idxOf h]

end ConsoleCache

end LintBridge
