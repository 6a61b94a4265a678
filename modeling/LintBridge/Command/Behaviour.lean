import LintBridge.Command.Spawn
import LintBridge.Script.Shell

/-!
What a child does when it is left alone: the output that it writes, the code that it exits with and
the time that it takes.

A shell runs the script that it is given, in a file, as an argument or as its input; any other
utility does what the command of its name does in a script.
-/
set_option autoImplicit false

namespace LintBridge.Command

/-- What a child does when it is left alone. -/
structure Behaviour where
  code : Nat
  output : List UInt8
  errors : List UInt8
  /-- The milliseconds from its start to its exit. -/
  duration : Nat

/-- The milliseconds that a child takes for all that is not sleep. -/
def startTime : Nat := 10

def shells : List String := ["sh", "dash", "bash"]

def isOption (argument : String) : Bool :=
  argument.toList.head? == some '-' && argument != "-" && argument != "--"

/-- The arguments behind the options and the mark that ends them. -/
def operands (arguments : List String) : List String :=
  match arguments.dropWhile isOption with
  | "--" :: rest => rest
  | "-" :: rest => rest
  | rest => rest

def hasOption (letter : Char) (arguments : List String) : Bool :=
  (arguments.takeWhile isOption).any fun option => option.toList.contains letter

def Behaviour.ofShell (s : Script.Shell) : Behaviour :=
  ⟨s.status, s.output, s.errors, startTime + s.slept⟩

/-- What a shell that is called by a name does with its arguments: they hold a script, or else name
its file, or else the script is the input. -/
def runShell (files : FileSystem) (input : List UInt8) (called : String) (arguments : List String) :
    Behaviour :=
  let shell : Script.Shell := { name := called, arguments := [], files, input }
  match hasOption 'c' arguments, operands arguments with
  | true, [] => Behaviour.ofShell (shell.complain 0 "-c requires an argument" 2)
  | true, text :: rest =>
    Behaviour.ofShell
      ({ shell with name := rest.headD called, arguments := rest.drop 1 }.runScript text.toList)
  | false, name :: rest =>
    let shell := { shell with arguments := rest }
    match files.statText name with
    | .error _ => Behaviour.ofShell (shell.complain 0 s!"cannot open {name}: No such file" 2)
    | .ok _ =>
      let content := shell.fileContent name
      Behaviour.ofShell ({ shell with name }.runScript (Text.Utf8.decodeLenient content))
  | false, [] =>
    Behaviour.ofShell ({ shell with input := [] }.runScript (Text.Utf8.decodeLenient input))

def runUtility (files : FileSystem) (input : List UInt8) (utility called : String)
    (arguments : List String) : Behaviour :=
  if shells.contains utility then runShell files input called arguments
  else
    let shell : Script.Shell := { name := called, arguments, files, input }
    Behaviour.ofShell (shell.performUtility called utility arguments)

def Child.behaviour (c : Child) (input : List UInt8) : Behaviour :=
  if c.utility = "env" then
    match c.arguments.dropWhile isOption with
    | [] => ⟨0, [], [], startTime⟩
    | name :: arguments => runUtility c.files input name name arguments
  else runUtility c.files input c.utility c.called c.arguments

end LintBridge.Command
