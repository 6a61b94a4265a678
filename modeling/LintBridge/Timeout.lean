import LintBridge.Number.Reading
import LintBridge.Text.LowerCase
import LintBridge.Violation

/-!
Limits on how long a command may run.

A limit is a number of seconds, and none means that the command may run for ever. A variable spells
the absence of a limit by a word or by nothing at all, and a limit in it must be finite; a JSON
value may also be a truth value or a string with a number. No limit lies below zero.
-/
set_option autoImplicit false

namespace LintBridge

/-- A number of seconds, or none for no limit. -/
abbrev Timeout := Option Binary64

namespace Timeout

/-- The limit that holds where none is chosen: thirty seconds. -/
def standard : Timeout := some (Binary64.ofInt 30)

def unlimitedWords : List String := ["", "none", "off"]

inductive Fault where
  | notNumber (text : String)
  | outOfRange (text : String)
  deriving DecidableEq, Repr

def ofText (text : String) : Except Fault Timeout :=
  let word := Text.lower (Text.trim text.toList)
  if unlimitedWords.contains (String.ofList word) then .ok none
  else
    match Binary64.ofLocal? word with
    | none => .error (.notNumber text)
    | some seconds =>
      if seconds.isBelowZero || !seconds.isFinite then .error (.outOfRange text)
      else .ok (some seconds)

def number (place : List Step) : Json → Checked Binary64
  | .float x => .ok x
  | .int n =>
    let x := Binary64.ofInt n
    if x.isFinite then .ok x else violation place .number
  | .bool b => .ok (Binary64.ofInt (if b then 1 else 0))
  | .str s =>
    match Binary64.ofLoose? s.toList with
    | some x => .ok x
    | none => violation place .numeral
  | _ => violation place .number

def ofJson (place : List Step) : Json → Checked Timeout
  | .null => .ok none
  | value =>
    match number place value with
    | .error vs => .error vs
    | .ok seconds =>
      if seconds.isBelowZero || seconds.isNaN then violation place .atLeastZero
      else .ok (some seconds)

theorem ofText_isFinite {text : String} {seconds : Binary64}
    (h : ofText text = .ok (some seconds)) :
    seconds.isFinite = true ∧ seconds.isBelowZero = false := by
  simp only [ofText] at h
  split at h
  · simp at h
  · split at h
    · simp at h
    · rename_i x _
      split at h
      · simp at h
      · rename_i hx
        simp only [Except.ok.injEq, Option.some.injEq] at h
        subst h
        cases hf : x.isFinite <;> cases hb : x.isBelowZero <;> simp_all

end Timeout

end LintBridge
