import LintBridge.Text.Quoted
import LintBridge.Text.Similarity

/-!
Reading options and arguments from the words of a command line.

A long option may have its value behind an equals sign; a short one may have it in the same word,
and short options without values may share a word. Any other value is the next word. Two hyphens
alone end the options, and one hyphen is an argument. An option that does not exist is reported with
the long options that are like it.
-/
set_option autoImplicit false

namespace LintBridge.CommandLine

inductive UsageFault where
  | noSuchOption (name : String) (proposals : List String)
  /-- An option that stands where a command should be. -/
  | optionForCommand (fault : UsageFault) (proposals : List String)
  | noSuchCommand (name : String) (proposals : List String)
  | missingCommand
  | missingValue (option : String)
  | unwantedValue (option : String)
  | badChoice (option value : String) (choices : List String)
  /-- A value of the parameters of some names that holds the character that no path can hold. -/
  | badPath (names : List String)
  | missingArgument (name : String)

def quotedList (names : List String) : String := ", ".intercalate (names.map Text.quotedString)

def withoutPoints (text : String) : String :=
  String.ofList (text.toList.reverse.dropWhile (· == '.')).reverse

/-- The wording of a fault, without what is proposed for an option. -/
def UsageFault.base : UsageFault → String
  | .noSuchOption name _ => s!"No such option: {Text.escapeControls name}"
  | .optionForCommand fault proposals =>
    s!"{withoutPoints fault.base}. Did you mean {quotedList proposals}?"
  | .noSuchCommand name [] => s!"No such command {Text.quotedString name}."
  | .noSuchCommand name proposals =>
    s!"No such command {Text.quotedString name}. Did you mean {quotedList proposals}?"
  | .missingCommand => "Missing command."
  | .missingValue option => s!"Option {Text.quotedString option} requires an argument."
  | .unwantedValue option => s!"Option {Text.quotedString option} does not take a value."
  | .badChoice option value choices =>
    s!"Invalid value for {Text.quotedString option}: Value error, {Text.quotedString value} " ++
      s!"is not one of {quotedList choices}."
  | .badPath names =>
    let place := " / ".intercalate (names.map Text.quotedString)
    s!"Invalid value for {place}: Value error, embedded null byte"
  | .missingArgument name => s!"Missing argument {Text.quotedString name}."

def UsageFault.options : UsageFault → List String
  | .noSuchOption _ proposals => proposals.mergeSort fun a b => !decide (b < a)
  | .optionForCommand fault _ => fault.options
  | _ => []

def UsageFault.message (fault : UsageFault) : String :=
  if fault.options.isEmpty then fault.base
  else
    let options := ", ".intercalate fault.options
    s!"{fault.base} (Possible options: {options})"

/-- An option of a command: what it sets, its names, and whether it has a value. -/
structure OptionForm (κ : Type) where
  key : κ
  names : List String
  hasValue : Bool

structure Setting (κ : Type) where
  key : κ
  value : String := ""

/-- The options and arguments of a command line, each in order. -/
structure Words (κ : Type) where
  settings : List (Setting κ)
  arguments : List String

section

variable {κ : Type}

def isLongName (name : String) : Bool := "--".toList.isPrefixOf name.toList

def findForm? (forms : List (OptionForm κ)) (isLong : Bool) (name : String) :
    Option (OptionForm κ) :=
  forms.find? fun form => form.names.any fun n => n == name && isLongName n == isLong

def longNames (forms : List (OptionForm κ)) : List String :=
  forms.flatMap fun form => form.names.filter isLongName

/-- The settings that a word gives, and whether it takes the next word as a value. -/
abbrev Taken (κ : Type) := Except UsageFault (List (Setting κ) × Bool)

/-- What a long option gives, with a value of its own if there is one, in front of the next word. -/
def takeLong (form : OptionForm κ) (name : String) (value next : Option String) : Taken κ :=
  if form.hasValue then
    match value, next with
    | some value, _ => .ok ([⟨form.key, value⟩], false)
    | none, some next => .ok ([⟨form.key, next⟩], true)
    | none, none => .error (.missingValue name)
  else if value.isSome then .error (.unwantedValue name)
  else .ok ([⟨form.key, ""⟩], false)

/-- What the letters of a word of short options give in front of the next word. -/
def takeShort (forms : List (OptionForm κ)) (next : Option String) : List Char → Taken κ
  | [] => .ok ([], false)
  | letter :: rest =>
    let name := String.ofList ['-', letter]
    match findForm? forms false name with
    | none => .error (.noSuchOption name [])
    | some form =>
      if form.hasValue then
        if !rest.isEmpty then .ok ([⟨form.key, String.ofList rest⟩], false)
        else
          match next with
          | some next => .ok ([⟨form.key, next⟩], true)
          | none => .error (.missingValue name)
      else
        (takeShort forms next rest).map fun (settings, takesNext) =>
          (⟨form.key, ""⟩ :: settings, takesNext)

/-- What a word that starts with a hyphen gives in front of the next word. -/
def take (forms : List (OptionForm κ)) (word : String) (next : Option String) : Taken κ :=
  let text := word.toList
  let name := String.ofList (text.takeWhile (· != '='))
  let value :=
    if text.contains '=' then some (String.ofList ((text.dropWhile (· != '=')).drop 1)) else none
  match findForm? forms true name with
  | some form => takeLong form name value next
  | none =>
    if isLongName word then .error (.noSuchOption name (Text.proposals name (longNames forms)))
    else takeShort forms next (text.drop 1)

def isOptionWord (word : String) : Bool :=
  match word.toList with
  | '-' :: _ :: _ => true
  | _ => false

/-- The fault of the first word that makes no sense, and the words behind it. -/
structure WordFault where
  fault : UsageFault
  rest : List String

/-- The options and arguments of a list of words. Where `isMixed` is false the first argument ends
the options. -/
def readWords (forms : List (OptionForm κ)) (isMixed : Bool) :
    List String → Except WordFault (Words κ)
  | [] => .ok ⟨[], []⟩
  | word :: rest =>
    if word = "--" then .ok ⟨[], rest⟩
    else if isOptionWord word then
      match take forms word rest.head? with
      | .error fault => .error ⟨fault, rest⟩
      | .ok (settings, takesNext) =>
        (readWords forms isMixed (if takesNext then rest.drop 1 else rest)).map fun words =>
          { words with settings := settings ++ words.settings }
    else if isMixed then
      (readWords forms isMixed rest).map fun words =>
        { words with arguments := word :: words.arguments }
    else .ok ⟨[], word :: rest⟩
termination_by words => words.length
decreasing_by
  · split <;> simp only [List.length_drop, List.length_cons] <;> omega
  · simp

end

end LintBridge.CommandLine
