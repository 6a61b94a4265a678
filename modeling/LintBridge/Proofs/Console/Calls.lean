import LintBridge.Console.Log
import LintBridge.Proofs.Console.Painting

/-!
# Calls that write to the console for errors

Calls share the consoles that were set up for earlier ones, and error output can be a terminal for
one call and none for the next. What a call writes depends on neither (`write_fst_eq`): it is made
from the pieces of its own message, on a console with its own settings.
-/
set_option autoImplicit false

namespace LintBridge

inductive Notice where
  | status (status : Status) (message : String)
  | entry (entry : LogEntry)
  deriving DecidableEq, Repr

/-- A call, with the preferences that it is made under and whether error output is a terminal. -/
structure LoggingCall where
  preferences : Preferences
  isTerminal : Bool
  notice : Notice

namespace ConsoleCache

/-- What a call writes, and the consoles that are then kept. -/
def write (cache : ConsoleCache) (call : LoggingCall) : String × ConsoleCache :=
  match call.notice with
  | .status status message => cache.status call.preferences call.isTerminal status message
  | .entry entry => cache.log call.preferences call.isTerminal entry

/-- What each of some calls writes, one after the other. -/
def writeAll (cache : ConsoleCache) : List LoggingCall → List String
  | [] => []
  | call :: more => (cache.write call).1 :: (cache.write call).2.writeAll more

end ConsoleCache

namespace LoggingCall

def message (call : LoggingCall) : String :=
  match call.notice with
  | .status _ message => message
  | .entry entry => entry.text

/-- The text that a call has for the console. A debugging message is only shown if debugging is
on. -/
def shown? (call : LoggingCall) : Option String :=
  let marked (status : Status) : String :=
    symbolIf call.preferences.emoji status.mark ++ call.message
  match call.notice with
  | .status status _ => some (marked status)
  | .entry ⟨.warning, _⟩ => some (marked .warning)
  | .entry ⟨.error, _⟩ => some (marked .failure)
  | .entry ⟨.debug, _⟩ => if call.preferences.debug then some ("[debug] " ++ call.message) else none

/-- What a call writes on its own, where no console was set up before. -/
def written (call : LoggingCall) : String := (ConsoleCache.write [] call).1

/-- Colours are in effect for a call, forced or following the terminal, and there is a terminal. -/
def IsColored (call : LoggingCall) : Prop :=
  (call.preferences.color = some true ∨
    call.preferences.color = none ∧ call.isTerminal = true) ∧ call.isTerminal = true

/-- The same call with colours forced off. -/
def uncolored (call : LoggingCall) : LoggingCall :=
  { call with preferences := { call.preferences with color := some false } }

/-! ## The pieces of a message -/

def pieces? (call : LoggingCall) : Option (List Piece) :=
  match call.notice with
  | .status status message => some (call.preferences.statusPieces status message)
  | .entry entry => call.preferences.entryPieces? entry

def console (call : LoggingCall) : Console := call.preferences.settings call.isTerminal

theorem textOf_statusPieces (p : Preferences) (status : Status) (message : String) :
    Console.textOf (p.statusPieces status message) =
      (symbolIf p.emoji status.mark ++ message).toList :=
  List.append_nil _

theorem textOf_debugPieces (message : String) :
    Console.textOf (Preferences.debugPieces message) = ("[debug] " ++ message).toList := by
  rw [Preferences.debugPieces, Console.textOf_cons, Console.textOf, KeyValue.text_pieces,
    String.toList_append]

theorem areCodes_status (status : Status) : AreCodes status.codes.toList := by
  cases status <;> decide

theorem areCodes_part (part : KeyValue.Part) : AreCodes part.codes.toList := by
  cases part with
  | plain text => exact (by decide : AreCodes "1;2;36".toList)
  | key text => exact (by decide : AreCodes "1;35".toList)
  | sign => decide
  | value name text =>
      rw [KeyValue.Part.codes]
      split <;> decide

theorem haveCodes_debugPieces (message : String) :
    Console.HaveCodes (Preferences.debugPieces message) := by
  rw [Preferences.debugPieces, Console.HaveCodes, List.forall_mem_cons]
  refine ⟨by decide, fun q member => ?_⟩
  obtain ⟨part, -, rfl⟩ := List.mem_map.1 member
  exact areCodes_part part

theorem haveCodes_statusPieces (p : Preferences) (status : Status) (message : String) :
    Console.HaveCodes (p.statusPieces status message) :=
  List.forall_mem_singleton.2 (areCodes_status status)

/-- A call puts a text in front of its message that has no escape character, and both on the console
in pieces of colours. -/
structure Shows (call : LoggingCall) (front : String) (pieces : List Piece) : Prop where
  shown : call.shown? = some (front ++ call.message)
  given : call.pieces? = some pieces
  textOf_eq : Console.textOf pieces = (front ++ call.message).toList
  codes : Console.HaveCodes pieces
  bare : front.toList.count '\x1b' = 0

theorem silent_or_shows (call : LoggingCall) :
    (call.shown? = none ∧ call.pieces? = none) ∨ ∃ front pieces, call.Shows front pieces := by
  have bare (emoji : Bool) (status : Status) :
      (symbolIf emoji status.mark).toList.count '\x1b' = 0 := by
    cases emoji <;> cases status <;> decide
  obtain ⟨p, isTerminal, ⟨status, message⟩ | ⟨level, message⟩⟩ := call
  · exact .inr ⟨_, _, rfl, rfl, textOf_statusPieces p status message,
      haveCodes_statusPieces p status message, bare p.emoji status⟩
  · cases level with
    | warning =>
        exact .inr ⟨_, _, rfl, rfl, textOf_statusPieces p .warning message,
          haveCodes_statusPieces p .warning message, bare p.emoji .warning⟩
    | error =>
        exact .inr ⟨_, _, rfl, rfl, textOf_statusPieces p .failure message,
          haveCodes_statusPieces p .failure message, bare p.emoji .failure⟩
    | debug =>
        by_cases wanted : p.debug = true
        · exact .inr ⟨_, _, if_pos wanted, if_pos wanted, textOf_debugPieces message,
            haveCodes_debugPieces message, by decide⟩
        · exact .inl ⟨if_neg wanted, if_neg wanted⟩

theorem Shows.count_escape {call : LoggingCall} {front : String} {pieces : List Piece}
    (parts : call.Shows front pieces) :
    (Console.textOf pieces).count '\x1b' = call.message.toList.count '\x1b' := by
  rw [parts.textOf_eq, String.toList_append, List.count_append, parts.bare, Nat.zero_add]

/-! ## What a call writes -/

/-- What a call writes does not depend on the consoles that are kept. -/
theorem write_fst_eq (cache : ConsoleCache) (call : LoggingCall) :
    (cache.write call).1 = call.pieces?.elim "" call.console.render := by
  have printed (pieces : List Piece) :
      (cache.print call.preferences call.isTerminal pieces).1 = call.console.render pieces :=
    congrArg (Console.render · pieces) (cache.console_eq call.console)
  obtain ⟨p, isTerminal, notice⟩ := call
  rcases notice with ⟨status, message⟩ | entry
  · exact printed _
  · rw [ConsoleCache.write, pieces?]
    dsimp only [ConsoleCache.log]
    cases p.entryPieces? entry with
    | none => rfl
    | some pieces => exact printed pieces

theorem written_eq (call : LoggingCall) :
    call.written = call.pieces?.elim "" call.console.render := write_fst_eq [] call

theorem writeAll_eq (cache : ConsoleCache) (calls : List LoggingCall) :
    cache.writeAll calls = calls.map written := by
  induction calls generalizing cache with
  | nil => rfl
  | cons call more ih =>
      rw [ConsoleCache.writeAll, ih, write_fst_eq, ← written_eq, List.map_cons]

theorem hasColors_console_iff (call : LoggingCall) :
    call.console.hasColors = true ↔ call.IsColored := by
  obtain ⟨⟨emoji, color, debug⟩, isTerminal, notice⟩ := call
  rw [console, Preferences.settings, Console.hasColors, IsColored]
  cases isTerminal with
  | false => simp
  | true => rcases color with _ | _ | _ <;> simp

theorem hasColors_uncolored (call : LoggingCall) : call.uncolored.console.hasColors = false := rfl

theorem pieces?_uncolored (call : LoggingCall) : call.uncolored.pieces? = call.pieces? := rfl

theorem toList_written_of_not_isColored {call : LoggingCall} (colorless : ¬ call.IsColored) :
    call.written.toList = call.shown?.elim [] fun text => Console.plain text.toList := by
  rw [← hasColors_console_iff, Bool.not_eq_true] at colorless
  rw [written_eq]
  rcases silent_or_shows call with ⟨shown, given⟩ | ⟨front, pieces, parts⟩
  · rw [shown, given]
    rfl
  · rw [parts.shown, parts.given, Option.elim_some, Option.elim_some,
      Console.toList_render_of_hasColors_eq_false colorless, parts.textOf_eq]

theorem count_escape_lt_written_iff (call : LoggingCall) :
    call.message.toList.count '\x1b' < call.written.toList.count '\x1b' ↔
      call.IsColored ∧ ∃ c ∈ call.uncolored.written.toList, c ≠ '\n' := by
  rw [written_eq, written_eq, pieces?_uncolored, ← hasColors_console_iff]
  rcases silent_or_shows call with ⟨-, given⟩ | ⟨front, pieces, parts⟩
  · simp [given]
  · rw [parts.given, Option.elim_some, Option.elim_some, ← parts.count_escape,
      Console.count_escape_lt_render_iff _ parts.codes,
      Console.toList_render_of_hasColors_eq_false (hasColors_uncolored call)]

theorem stripControlSequences_written {call : LoggingCall}
    (absent : '\x1b' ∉ call.message.toList) :
    stripControlSequences call.written.toList = call.uncolored.written.toList := by
  rw [written_eq, written_eq, pieces?_uncolored]
  rcases silent_or_shows call with ⟨-, given⟩ | ⟨front, pieces, parts⟩
  · rw [given]
    exact stripControlSequences_eq_self List.not_mem_nil
  · rw [← List.count_eq_zero, ← parts.count_escape, List.count_eq_zero] at absent
    rw [parts.given, Option.elim_some, Option.elim_some,
      Console.stripControlSequences_render call.console parts.codes absent,
      Console.toList_render_of_hasColors_eq_false (hasColors_uncolored call)]

/-- Whatever consoles are kept and whether error output is a terminal in between, each of some calls
writes what it writes on its own. Unless colours are in effect this is the text of the call on a
console without any. Escape characters that are not of the message are written exactly if colours
are in effect and there is more to see than ends of lines, and if the message has none, what is
written without control sequences is what the call writes with colours off. -/
theorem calls_keep_nothing_and_color_only :
    (∀ (cache : ConsoleCache) (calls : List LoggingCall),
        cache.writeAll calls = calls.map written) ∧
      ∀ call : LoggingCall,
        (¬ call.IsColored →
          call.written.toList = call.shown?.elim [] fun text => Console.plain text.toList) ∧
        (call.message.toList.count '\x1b' < call.written.toList.count '\x1b' ↔
          call.IsColored ∧ ∃ c ∈ call.uncolored.written.toList, c ≠ '\n') ∧
        ('\x1b' ∉ call.message.toList →
          stripControlSequences call.written.toList = call.uncolored.written.toList) :=
  ⟨writeAll_eq, fun call => ⟨toList_written_of_not_isColored, count_escape_lt_written_iff call,
    stripControlSequences_written⟩⟩

/-- A debugging message of two lines with a tab and a value between quotation marks, written to a
terminal with its colours following it and then, while colours are forced, to a file. -/
theorem debug_call_loses_colors_only :
    let message := "\x07a\tcmd=\"x y\"\n-z=1"
    let call : LoggingCall := ⟨{ debug := true }, true, .entry ⟨.debug, message⟩⟩
    let piped : LoggingCall :=
      ⟨{ color := some true, debug := true }, false, .entry ⟨.debug, message⟩⟩
    ConsoleCache.writeAll [] [call, piped, call] = [call.written, piped.written, call.written] ∧
      call.IsColored ∧ ¬ piped.IsColored ∧
      piped.written.toList = "[debug] a       cmd=\"x y\"\n-z=1\n".toList ∧
      0 < call.written.toList.count '\x1b' ∧
      stripControlSequences call.written.toList = piped.written.toList := by
  intro message call piped
  obtain ⟨independent, each⟩ := calls_keep_nothing_and_color_only
  obtain ⟨-, colored, erased⟩ := each call
  obtain ⟨bare, -⟩ := each piped
  have isColored : call.IsColored := ⟨.inr ⟨rfl, rfl⟩, rfl⟩
  have notColored : ¬ piped.IsColored := fun inEffect => Bool.false_ne_true inEffect.2
  have absent : '\x1b' ∉ call.message.toList := by decide
  have told : piped.written.toList = "[debug] a       cmd=\"x y\"\n-z=1\n".toList := by
    rw [bare notColored]
    decide +kernel
  have off : call.uncolored.written.toList = piped.written.toList := by
    rw [told]
    decide +kernel
  refine ⟨independent [] _, isColored, notColored, told, ?_, (erased absent).trans off⟩
  refine Nat.zero_lt_of_lt (colored.2 ⟨isColored, '[', ?_, by decide⟩)
  rw [off, told]
  decide

end LoggingCall

end LintBridge
