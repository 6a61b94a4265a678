import LintBridge.Console.Cache
import LintBridge.Console.KeyValue
import LintBridge.Linter

/-!
Status lines and log messages on the console for errors.

Colours are used if they are asked for, and where nothing is asked if error output is a terminal. A
status line has a pictogram in front and one colour; warnings and errors of the log are status
lines. A debugging message is only written if debugging is on, with its keys and values set off.
-/
set_option autoImplicit false

namespace LintBridge

structure Preferences where
  emoji : Bool := true
  /-- Colours forced on or off; none follows the terminal. -/
  color : Option Bool := none
  debug : Bool := false

inductive Status where
  | success
  | warning
  | failure
  deriving DecidableEq, Repr

namespace Status

def mark : Status → String
  | success => "✅ "
  | warning => "⚠️ "
  | failure => "❌ "

def codes : Status → String
  | success => "32"
  | warning => "33"
  | failure => "31"

end Status

def symbolIf (isWanted : Bool) (symbol : String) : String := if isWanted then symbol else ""

namespace Preferences

def settings (p : Preferences) (isTerminal : Bool) : Console :=
  ⟨p.color.getD isTerminal, p.emoji, isTerminal⟩

def statusPieces (p : Preferences) (status : Status) (message : String) : List Piece :=
  [⟨status.codes, (symbolIf p.emoji status.mark ++ message).toList⟩]

def debugCodes : String := "1;36"

def debugPieces (message : String) : List Piece :=
  ⟨debugCodes, "[debug] ".toList⟩ :: KeyValue.pieces message.toList

def entryPieces? (p : Preferences) (entry : LogEntry) : Option (List Piece) :=
  match entry.level with
  | .warning => some (p.statusPieces .warning entry.text)
  | .error => some (p.statusPieces .failure entry.text)
  | .debug => if p.debug then some (debugPieces entry.text) else none

end Preferences

namespace ConsoleCache

/-- What is written for pieces under some preferences, and the consoles that are then kept. -/
def print (cache : ConsoleCache) (p : Preferences) (isTerminal : Bool) (pieces : List Piece) :
    String × ConsoleCache :=
  let settings := p.settings isTerminal
  ((cache.console settings).render pieces, cache.provide settings)

def status (cache : ConsoleCache) (p : Preferences) (isTerminal : Bool) (status : Status)
    (message : String) : String × ConsoleCache :=
  cache.print p isTerminal (p.statusPieces status message)

def log (cache : ConsoleCache) (p : Preferences) (isTerminal : Bool) (entry : LogEntry) :
    String × ConsoleCache :=
  match p.entryPieces? entry with
  | some pieces => cache.print p isTerminal pieces
  | none => ("", cache)

end ConsoleCache

end LintBridge
