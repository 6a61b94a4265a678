import LintBridge.FileSystem
import LintBridge.Script.Grammar
import LintBridge.Script.Printing

/-!
Running a script.

A shell has parameters, three streams, what it has written so far, and the time it has taken. A
command runs with its redirections in effect; those of `exec` stay. What a script writes to a file
is lost. Commands that the language does not know are not found.
-/
set_option autoImplicit false

namespace LintBridge.Script

inductive Outlet where
  | output
  | errors
  | nowhere
  deriving DecidableEq, Repr

inductive Inlet where
  | input
  | octets (content : List UInt8)
  | closed
  deriving DecidableEq, Repr

structure Streams where
  input : Inlet := .input
  output : Outlet := .output
  errors : Outlet := .errors

structure Shell where
  /-- The name that the script was called by. -/
  name : String
  arguments : List String
  files : FileSystem
  bindings : List (String × String) := []
  streams : Streams := {}
  /-- What is left of the input. -/
  input : List UInt8
  output : List UInt8 := []
  errors : List UInt8 := []
  status : Nat := 0
  /-- The milliseconds spent in sleep. -/
  slept : Nat := 0
  exited : Bool := false

namespace Shell

/-! ## Parameters and words -/

def parameter (s : Shell) (name : String) : String :=
  if name = "0" then s.name
  else if name = "#" then toString s.arguments.length
  else if name = "?" then toString s.status
  else
    match name.toNat? with
    | some n => s.arguments[n - 1]?.getD ""
    | none => (s.bindings.lookup name).getD ""

/-- The words that a text without quotes falls into, put behind the words so far; the last of these
is still open if there is one. -/
def splitInto (fields : List (List Char)) (text : List Char) : List (List Char) :=
  let words := Text.words text
  match fields.reverse, words with
  | last :: front, word :: more =>
    if (text.head?.map Text.isBlank).getD false then fields ++ words
    else front.reverse ++ [last ++ word] ++ more
  | _, _ => fields ++ words

def appendTo (fields : List (List Char)) (text : List Char) : List (List Char) :=
  match fields.reverse with
  | last :: front => front.reverse ++ [last ++ text]
  | [] => [text]

/-- Several texts, of which the first goes behind the last of the words. -/
def appendAll (fields : List (List Char)) : List (List Char) → List (List Char)
  | [] => fields
  | text :: more => appendTo fields text ++ more

def expandPart (s : Shell) (fields : List (List Char)) : Part → List (List Char)
  | .text content _ => appendTo fields content
  | .parameter name isQuoted =>
    if name = "@" && isQuoted then appendAll fields (s.arguments.map String.toList)
    else
      let value :=
        if name = "@" || name = "*" then " ".intercalate s.arguments else s.parameter name
      if isQuoted then appendTo fields value.toList else splitInto fields value.toList

def isQuoteMark : Part → Bool
  | .text [] true => true
  | _ => false

def expandWord (s : Shell) (word : Word) : List String :=
  let parts :=
    if word.any fun part => part == .parameter "@" true then word.filter (!isQuoteMark ·) else word
  (parts.foldl s.expandPart []).map String.ofList

def expandText (s : Shell) (word : Word) : String := " ".intercalate (s.expandWord word)

/-! ## Streams -/

def write (s : Shell) (outlet : Outlet) (octets : List UInt8) : Shell :=
  match outlet with
  | .output => { s with output := s.output ++ octets }
  | .errors => { s with errors := s.errors ++ octets }
  | .nowhere => s

def print (s : Shell) (octets : List UInt8) : Shell := s.write s.streams.output octets

def complain (s : Shell) (line : Nat) (text : String) (status : Nat) : Shell :=
  { s.write s.streams.errors (octetsOf s!"{s.name}: {line}: {text}\n") with status }

def outlet (s : Shell) : Nat → Outlet
  | 1 => s.streams.output
  | 2 => s.streams.errors
  | _ => .nowhere

/-- What a file holds; nothing if it cannot be read. -/
def fileContent (s : Shell) (text : String) : List UInt8 :=
  match s.files.statText text with
  | .ok (.file true _ content) => content
  | _ => []

def redirect (s : Shell) (r : Redirection) : Shell :=
  let streams := s.streams
  match r.stream, r.target with
  | 0, .closed => { s with streams := { streams with input := .closed } }
  | 0, .file word =>
    { s with streams := { streams with input := .octets (s.fileContent (s.expandText word)) } }
  | 0, .stream _ => s
  | 1, .stream n => { s with streams := { streams with output := s.outlet n } }
  | 1, _ => { s with streams := { streams with output := .nowhere } }
  | 2, .stream n => { s with streams := { streams with errors := s.outlet n } }
  | 2, _ => { s with streams := { streams with errors := .nowhere } }
  | _, _ => s

/-! ## Commands -/

def report (s : Shell) (called text : String) : Shell :=
  { s.write s.streams.errors (octetsOf s!"{called}: {text}\n") with status := 1 }

def copyInput (called : String) (s : Shell) : Shell :=
  match s.streams.input with
  | .input => { s.print s.input with input := [] }
  | .octets content => s.print content
  | .closed => s.report called "-: Bad file descriptor"

/-- The shell with a file or, for a dash, its input copied. -/
def copyFile (called : String) (s : Shell) (text : String) : Shell :=
  if text = "-" then s.copyInput called
  else
    match s.files.statText text with
    | .ok (.file true _ content) => s.print content
    | .ok (.directory _) => s.report called s!"{text}: Is a directory"
    | .error fault => s.report called s!"{text}: {fault.reason}"
    | .ok _ => s

/-- The shell with files copied one behind the other, or its input if none are named. -/
def copy (called : String) (s : Shell) (texts : List String) : Shell :=
  let texts := if texts.isEmpty then ["-"] else texts
  let copied := texts.foldl (copyFile called) s
  if texts.contains "-" && s.streams.input == .closed then
    copied.report called "closing standard input: Bad file descriptor"
  else copied

def milliseconds (text : String) : Nat :=
  let digits := text.toList
  let value := fun cs : List Char => cs.foldl (fun n c => n * 10 + (c.toNat - 48)) 0
  let whole := digits.takeWhile (· != '.')
  let fraction := ((digits.dropWhile (· != '.')).drop 1 ++ ['0', '0', '0']).take 3
  value whole * 1000 + value fraction

/-- A character that may surround a number: a space, or a control character that moves the place of
printing. -/
def isSpacing (c : Char) : Bool := c == ' ' || (9 ≤ c.toNat && c.toNat ≤ 13)

/-- The least number that is too great for a shell. -/
def numberBound : Nat := 0x80000000

/-- The status that a text asks for: a decimal number below the bound, counted modulo 256. It may
have a sign, though only zero a minus, and spacing around it. -/
def statusOf? (text : String) : Option Nat :=
  let number := (text.toList.dropWhile isSpacing).reverse.dropWhile isSpacing |>.reverse
  let digits := match number with
    | '+' :: rest => rest
    | '-' :: rest => rest
    | all => all
  let n := digits.foldl (fun n c => n * 10 + (c.toNat - 48)) 0
  if digits.isEmpty || !digits.all Char.isDigit || numberBound ≤ n then none
  else if number.head?.isEqSome '-' && n != 0 then none
  else some (n % 256)

def exit (s : Shell) (line : Nat) (text : String) : Shell :=
  match statusOf? text with
  | some status => { s with status, exited := true }
  | none => { s.complain line s!"exit: Illegal number: {text}" 2 with exited := true }

def performUtility (s : Shell) (called utility : String) (arguments : List String) : Shell :=
  let done : Shell := { s with status := 0 }
  match utility with
  | "false" => { s with status := 1 }
  | "echo" => done.print (echoWithOptions arguments)
  | "printf" => done.print (format (arguments.headD "") (arguments.drop 1))
  | "pwd" => done.print (octetsOf (s.files.cwd.toString ++ "\n"))
  | "cat" => done.copy called arguments
  | "sleep" => { done with slept := s.slept + (arguments.map milliseconds).foldl (· + ·) 0 }
  | _ => done

def utilityAt? (s : Shell) (name : String) : Option String :=
  if !name.toList.contains '/' then none
  else
    match s.files.statText name with
    | .ok (.utility utility) => some utility
    | _ => none

/-- The shell after a command that is built in or a utility of its own. -/
def perform (s : Shell) (line : Nat) : List String → Shell
  | [] => { s with status := 0 }
  | name :: arguments =>
    match name with
    | ":" => { s with status := 0 }
    | "echo" => { s with status := 0 }.print (echo arguments)
    | "exit" =>
      match arguments with
      | [] => { s with exited := true }
      | text :: _ => s.exit line text
    | other =>
      if ["true", "false", "printf", "pwd", "cat", "sleep"].contains other then
        s.performUtility other other arguments
      else
        match s.utilityAt? other with
        | some utility => s.performUtility other utility arguments
        | none => s.complain line s!"{other}: not found" 127

def assignment? : Word → Option (String × Word)
  | .text content false :: rest =>
    let name := content.takeWhile isNameChar
    match content.drop name.length with
    | '=' :: value =>
      if name.isEmpty || (name.head?.map Char.isDigit).getD false then none
      else some (String.ofList name, .text value false :: rest)
    | _ => none
  | _ => none

def assign (s : Shell) (a : String × Word) : Shell :=
  { s with bindings := (a.1, s.expandText a.2) :: s.bindings }

/-- The shell after a command with redirections. Assignments in front of a command do not outlast
it; on their own they do. -/
def runSimple (s : Shell) (line : Nat) (words : List Word) (redirections : List Redirection) :
    Shell :=
  let inside := redirections.foldl redirect s
  let assignments := (words.map assignment?).takeWhile Option.isSome
  let words := words.drop assignments.length
  match words.flatMap s.expandWord with
  | [] =>
    { (assignments.filterMap id).foldl assign inside with streams := s.streams, status := 0 }
  | ["exec"] => { inside with status := 0 }
  | "exec" :: command => { inside.perform line command with exited := true }
  | command => { inside.perform line command with streams := s.streams }

mutual

def runCommand (s : Shell) : Command → Shell
  | .simple line words redirections => s.runSimple line words redirections
  | .loop name words body =>
    (words.flatMap s.expandWord).foldl (fun s value =>
      runCommands { s with bindings := (name, value) :: s.bindings } body) { s with status := 0 }

/-- The shell after the commands of a list, or after the one that ended it. -/
def runCommands (s : Shell) : List Command → Shell
  | [] => s
  | command :: more => if s.exited then s else runCommands (runCommand s command) more

end

def runScript (s : Shell) (text : List Char) : Shell :=
  match commandsOf text with
  | .error _ => s.complain 1 "Syntax error" 2
  | .ok commands => s.runCommands commands

end Shell

end LintBridge.Script
