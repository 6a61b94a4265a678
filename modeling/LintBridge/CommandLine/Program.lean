import LintBridge.CommandLine.Check

/-!
The program: its own options, and the one command that it has.

The words in front of the first argument are options of the program, and the first argument names
the command. A name that is like that of the command is reported with a proposal.
-/
set_option autoImplicit false

namespace LintBridge.CommandLine

inductive ProgramKey where
  | installCompletion
  | showCompletion
  | help
  deriving DecidableEq, Repr

def programForms : List (OptionForm ProgramKey) :=
  [⟨.installCompletion, ["--install-completion"], false⟩,
    ⟨.showCompletion, ["--show-completion"], false⟩, ⟨.help, ["--help"], false⟩]

def commandName : String := "lint"

inductive Request where
  | help
  | check (options : CheckOptions)

/-- The commands that are proposed in front of some words. -/
def commandsLike (words : List String) : List String :=
  (words.head?.map fun word => Text.proposals word [commandName]).getD []

/-- What a word that names no command asks for, in front of other words. The words are read once
more for options; what is proposed is like the first word that is left then. -/
def Request.ofNoCommand (word : String) (rest : List String) : Except UsageFault Request :=
  match readWords programForms false (word :: rest) with
  | .error fault =>
    let proposals := commandsLike fault.rest
    .error (if proposals.isEmpty then fault.fault else .optionForCommand fault.fault proposals)
  | .ok given =>
    if given.settings.isEmpty then .error (.noSuchCommand word (commandsLike given.arguments))
    else .ok .help

def Request.read (words : List String) : Except UsageFault Request :=
  if words.isEmpty then .ok .help
  else
    match readWords programForms false words with
    | .error fault => .error fault.fault
    | .ok given =>
      if !given.settings.isEmpty then .ok .help
      else
        match given.arguments with
        | [] => .error .missingCommand
        | word :: rest =>
          if word = commandName then
            (CheckOptions.read rest).map fun options =>
              match options with
              | some options => .check options
              | none => .help
          else Request.ofNoCommand word rest

def helpText : String :=
  String.join ((listing checkParameters).map fun s =>
    s.title ++ ":\n" ++ String.join (s.rows.map fun (name, help) => s!"  {name}  {help}\n"))

inductive ProgramRun where
  | unstarted (fault : UsageFault)
  | helped (text : String)
  | checked (run : CheckRun)

def exitBroken : Nat := 1

def exitUsage : Nat := 2

def stopped (code : Nat) (message : String) : Finish := ⟨code, "", s!"Error: {message}\n"⟩

/-- The end of a program: a command that has run its course has its own, and anything else is put
into a message. -/
def ProgramRun.finish : ProgramRun → Finish
  | .unstarted fault => stopped exitUsage fault.message
  | .helped text => ⟨exitClean, text, ""⟩
  | .checked ⟨.ok finish, _⟩ => finish
  | .checked ⟨.error fault, _⟩ => stopped exitBroken fault.message

def program (w : Surroundings) (words : List String) : ProgramRun :=
  match Request.read words with
  | .error fault => .unstarted fault
  | .ok .help => .helped helpText
  | .ok (.check options) => .checked (check w options)

end LintBridge.CommandLine
