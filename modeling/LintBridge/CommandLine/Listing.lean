import LintBridge.Text.LowerCase

/-!
The listing of the parameters of a command.

Arguments come first, in the order of their declaration; options follow, sorted by name, and options
of one name keep their order. A parameter without a record is not listed, and a section without rows
is left out. The name that an option is sorted by is its first long name, else its first name, else
that of the parameter, in lower case and without the hyphens in front.
-/
set_option autoImplicit false

namespace LintBridge.CommandLine

/-- A row of a listing: what is listed, and help for it. -/
abbrev Record := String × String

structure Parameter where
  names : List String
  secondaryNames : List String
  ownName : Option String
  isArgument : Bool
  record : Option Record

structure Section where
  title : String
  rows : List Record
  deriving DecidableEq, Repr

namespace Parameter

def isLong (name : String) : Bool := "--".toList.isPrefixOf name.toList

/-- The name of a parameter as it is declared. -/
def mainName (p : Parameter) : String :=
  let names := p.names ++ p.secondaryNames
  match names.find? isLong with
  | some name => name
  | none =>
    let first := names.headD ""
    if first = "" then p.ownName.getD "" else first

def sortName (p : Parameter) : String :=
  String.ofList (Text.lower (p.mainName.toList.dropWhile (· == '-')))

end Parameter

def sortedOptions (parameters : List Parameter) : List Parameter :=
  (parameters.filter (!·.isArgument)).mergeSort fun p q => !decide (q.sortName < p.sortName)

/-- A section with the records of some parameters; none if there are no records. -/
def sectionOf (title : String) (parameters : List Parameter) : List Section :=
  match parameters.filterMap Parameter.record with
  | [] => []
  | rows => [⟨title, rows⟩]

def listing (parameters : List Parameter) : List Section :=
  sectionOf "Arguments" (parameters.filter (·.isArgument)) ++
    sectionOf "Options" (sortedOptions parameters)

end LintBridge.CommandLine
