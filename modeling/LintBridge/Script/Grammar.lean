import LintBridge.Text.Blank

/-!
A small language of shell scripts: enough for the programs that stand in for an analyser.

A script is a list of commands, each on a line of its own or followed by a semicolon. A command is a
list of words with redirections, or a loop over words. Words are quoted as in the POSIX shell;
outside apostrophes a dollar sign with a name, a digit or one of four marks stands for a parameter.
Reading first cuts a text into tokens and then groups them; what is beyond the language is a fault.
-/
set_option autoImplicit false

namespace LintBridge.Script

inductive Part where
  | text (content : List Char) (isQuoted : Bool)
  | parameter (name : String) (isQuoted : Bool)
  deriving DecidableEq, Repr

abbrev Word := List Part

inductive Target where
  | stream (number : Nat)
  | closed
  | file (word : Word)
  deriving DecidableEq, Repr

inductive Token where
  | word (parts : Word)
  | semicolon
  | newline
  /-- A redirection of the stream with a number; its file is the word behind it. -/
  | redirectFile (stream : Nat)
  | redirect (stream : Nat) (target : Target)
  deriving DecidableEq, Repr

structure Redirection where
  stream : Nat
  target : Target
  deriving DecidableEq, Repr

inductive Command where
  /-- Words and redirections on the line with a number. -/
  | simple (line : Nat) (words : List Word) (redirections : List Redirection)
  | loop (name : String) (words : List Word) (body : List Command)

inductive Fault where
  | openQuote
  | unexpected
  deriving DecidableEq, Repr

/-! ## Tokens -/

def isNameChar (c : Char) : Bool := c.isAlphanum || c == '_'

def isParameterMark (c : Char) : Bool := c == '@' || c == '*' || c == '#' || c == '?'

/-- The parameter behind a dollar sign, and the number of characters that name it. -/
def parameter? : List Char → Option (String × Nat)
  | [] => none
  | c :: rest =>
    if c.isDigit || isParameterMark c then some (String.singleton c, 1)
    else if c == '\x7b' then
      let name := rest.takeWhile isNameChar
      let name := if name.isEmpty then (rest.takeWhile isParameterMark).take 1 else name
      if rest.drop name.length |>.head? |>.isEqSome '\x7d' then
        some (String.ofList name, name.length + 2)
      else none
    else
      let name := (c :: rest).takeWhile isNameChar
      if name.isEmpty then none else some (String.ofList name, name.length)

inductive Place where
  | between
  | word
  | apostrophes
  | quotationMarks
  | comment
  deriving DecidableEq, Repr

/-- A word under construction, in reverse. -/
def addText (word : Word) (c : Char) (isQuoted : Bool) : Word :=
  match word with
  | .text content q :: more =>
    if q = isQuoted then .text (c :: content) q :: more
    else .text [c] isQuoted :: word
  | _ => .text [c] isQuoted :: word

def finish (word : Word) : Word :=
  (word.map fun part =>
    match part with
    | .text content isQuoted => Part.text content.reverse isQuoted
    | other => other).reverse

/-- The redirection that a text starts with, behind the number of its stream, and the number of
characters that it takes. -/
def redirection? (stream : Option Nat) : List Char → Option (Token × Nat)
  | '>' :: '&' :: d :: _ =>
    if d.isDigit then some (.redirect (stream.getD 1) (.stream (d.toNat - 48)), 3)
    else if d == '-' then some (.redirect (stream.getD 1) .closed, 3)
    else none
  | '<' :: '&' :: d :: _ =>
    if d.isDigit then some (.redirect (stream.getD 0) (.stream (d.toNat - 48)), 3)
    else if d == '-' then some (.redirect (stream.getD 0) .closed, 3)
    else none
  | '>' :: '>' :: _ => some (.redirectFile (stream.getD 1), 2)
  | '>' :: _ => some (.redirectFile (stream.getD 1), 1)
  | '<' :: _ => some (.redirectFile (stream.getD 0), 1)
  | _ => none

/-- The tokens in front of a word that ends here. -/
def endWord (word : Word) (tokens : List Token) : List Token := .word (finish word) :: tokens

/-- The tokens of a text. `word` is the word that the reader is in and `tokens` are those before it,
both in reverse; `fuel` bounds the number of steps. -/
def scan (word : Word) (tokens : List Token) : Nat → Place → List Char →
    Except Fault (List Token)
  | 0, _, _ => .error .unexpected
  | _ + 1, .between, [] => .ok tokens.reverse
  | _ + 1, .comment, [] => .ok tokens.reverse
  | _ + 1, .word, [] => .ok (endWord word tokens).reverse
  | _ + 1, _, [] => .error .openQuote
  | fuel + 1, .comment, c :: rest =>
    if c == '\n' then scan [] (.newline :: tokens) fuel .between rest
    else scan [] tokens fuel .comment rest
  | fuel + 1, .apostrophes, c :: rest =>
    if c == '\'' then scan word tokens fuel .word rest
    else scan (addText word c true) tokens fuel .apostrophes rest
  | fuel + 1, .quotationMarks, c :: rest =>
    if c == '"' then scan word tokens fuel .word rest
    else if c == '\\' then
      match rest with
      | d :: more =>
        if d == '"' || d == '\\' || d == '$' then
          scan (addText word d true) tokens fuel .quotationMarks more
        else scan (addText (addText word c true) d true) tokens fuel .quotationMarks more
      | [] => .error .openQuote
    else if c == '$' then
      match parameter? rest with
      | some (name, width) =>
        scan (.parameter name true :: word) tokens fuel .quotationMarks (rest.drop width)
      | none => scan (addText word c true) tokens fuel .quotationMarks rest
    else scan (addText word c true) tokens fuel .quotationMarks rest
  | fuel + 1, .between, c :: rest =>
    if c == ' ' || c == '\t' then scan [] tokens fuel .between rest
    else if c == '\n' then scan [] (.newline :: tokens) fuel .between rest
    else if c == ';' then scan [] (.semicolon :: tokens) fuel .between rest
    else if c == '#' then scan [] tokens fuel .comment rest
    else
      let (stream, behind) :=
        if c.isDigit && (rest.head?.isEqSome '>' || rest.head?.isEqSome '<') then
          (some (c.toNat - 48), rest)
        else (none, c :: rest)
      match redirection? stream behind with
      | some (token, width) => scan [] (token :: tokens) fuel .between (behind.drop width)
      | none =>
        if "&|()`<>".toList.contains c then .error .unexpected
        else scan [] tokens fuel .word (c :: rest)
  | fuel + 1, .word, c :: rest =>
    if c == ' ' || c == '\t' || c == '\n' || c == ';' || c == '>' || c == '<' then
      scan [] (endWord word tokens) fuel .between (c :: rest)
    else if "&|()`".toList.contains c then .error .unexpected
    else if c == '\'' then scan (.text [] true :: word) tokens fuel .apostrophes rest
    else if c == '"' then scan (.text [] true :: word) tokens fuel .quotationMarks rest
    else if c == '\\' then
      match rest with
      | '\n' :: more => scan word tokens fuel .word more
      | d :: more => scan (addText word d true) tokens fuel .word more
      | [] => scan (addText word c true) tokens fuel .word []
    else if c == '$' then
      match parameter? rest with
      | some (name, width) =>
        scan (.parameter name false :: word) tokens fuel .word (rest.drop width)
      | none => scan (addText word c false) tokens fuel .word rest
    else scan (addText word c false) tokens fuel .word rest

/-- The tokens of a text. Every character takes two steps at most. -/
def tokensOf (text : List Char) : Except Fault (List Token) :=
  scan [] [] (2 * text.length + 2) .between text

/-! ## Commands -/

def plain? : Word → Option String
  | [.text content false] => some (String.ofList content)
  | _ => none

def isKeyword (name : String) : Token → Bool
  | .word parts => plain? parts == some name
  | _ => false

/-- The words and redirections up to the end of a command, and the tokens behind them. -/
def simpleParts : List Token → Except Fault (List Word × List Redirection × List Token)
  | .word parts :: rest =>
    (simpleParts rest).map fun (words, redirections, behind) =>
      (parts :: words, redirections, behind)
  | .redirect stream target :: rest =>
    (simpleParts rest).map fun (words, redirections, behind) =>
      (words, ⟨stream, target⟩ :: redirections, behind)
  | .redirectFile stream :: .word parts :: rest =>
    (simpleParts rest).map fun (words, redirections, behind) =>
      (words, ⟨stream, .file parts⟩ :: redirections, behind)
  | .redirectFile _ :: _ => .error .unexpected
  | rest => .ok ([], [], rest)

/-- The words of a loop up to the end of its line, and the tokens behind them. -/
def loopWords : List Token → List Word × List Token
  | .word parts :: rest =>
    let (words, behind) := loopWords rest
    (parts :: words, behind)
  | rest => ([], rest)

/-- The tokens without line ends and semicolons in front, and the number of those line ends. -/
def skipEnds : List Token → Nat × List Token
  | .newline :: rest =>
    let (n, behind) := skipEnds rest
    (n + 1, behind)
  | .semicolon :: rest => skipEnds rest
  | rest => (0, rest)

/-- The commands from the line with a number on, up to the end or to the word that ends the body of
a loop, with the tokens behind them and their line; `fuel` bounds the number of steps. -/
def commands (line : Nat) : Nat → List Token →
    Except Fault (List Command × Nat × List Token)
  | 0, _ => .error .unexpected
  | fuel + 1, tokens => do
    let (ends, tokens) := skipEnds tokens
    let line := line + ends
    match tokens with
    | [] => .ok ([], line, [])
    | first :: rest =>
      if isKeyword "done" first then .ok ([], line, first :: rest)
      else if isKeyword "for" first then
        match rest with
        | .word name :: keyword :: rest =>
          if isKeyword "in" keyword then
            let (words, rest) := loopWords rest
            let (ends, rest) := skipEnds rest
            match plain? name, rest with
            | some name, keyword :: rest =>
              if isKeyword "do" keyword then
                let (body, line, rest) ← commands (line + ends) fuel rest
                match rest with
                | keyword :: rest =>
                  if isKeyword "done" keyword then
                    let (more, line, rest) ← commands line fuel rest
                    .ok (.loop name words body :: more, line, rest)
                  else .error .unexpected
                | [] => .error .unexpected
              else .error .unexpected
            | _, _ => .error .unexpected
          else .error .unexpected
        | _ => .error .unexpected
      else
        let (words, redirections, rest) ← simpleParts (first :: rest)
        let (more, final, rest) ← commands line fuel rest
        .ok (.simple line words redirections :: more, final, rest)

def commandsOf (text : List Char) : Except Fault (List Command) := do
  let tokens ← tokensOf text
  let (found, _, rest) ← commands 1 (tokens.length + 1) tokens
  if rest.isEmpty then .ok found else .error .unexpected

end LintBridge.Script
