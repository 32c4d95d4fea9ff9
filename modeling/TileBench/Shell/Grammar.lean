import TileBench.Shell.Words
import TileBench.Text.Split

/-!
# Reading scripts

A script is run line by line, so it is read line by line too: what stands in front of an error is
run before the error is reported. A line is a list of commands, and goes on over line ends inside a
compound command.
-/

namespace TileBench.Shell

open Text Reader

/-! ### Tokens -/

/-- The words with a meaning of their own where a command is expected. -/
def reservedWords : List String :=
  ["!", "\x7b", "\x7d", "if", "then", "elif", "else", "fi", "for", "in", "while", "until", "do",
    "done", "case", "esac"]

/-- The operators, the longer ones first. -/
def operators : List String := [";;", "&&", "||", ";", "&", "|", "(", ")"]

/-- The operators that change a descriptor, the longer ones first. -/
def redirectOperators : List String := ["<<-", ">>", ">&", ">|", "<<", "<&", "<>", ">", "<"]

/-- The descriptor that an operator changes if no number stands in front of it. -/
def usualDescriptor (operator : String) : Nat := if operator.startsWith "<" then 0 else 1

/-- A text between double quotes. -/
def cited (text : String) : String := "\"" ++ text ++ "\""

/-- The name of a token in an error. -/
def Token.describe : Token → String
  | .word _ => "word"
  | .reserved s | .operator s => cited s
  | .redirect .. => "redirection"
  | .lineEnd => "newline"
  | .inputEnd => "end of file"

/-- Fails at a token, and tells what was expected if that is one thing. -/
def unexpected {α : Type} (t : Token) (expected : Option String) : Reader α :=
  fail (t.describe ++ " unexpected" ++ match expected with
    | some thing => " (expecting " ++ thing ++ ")"
    | none => "")

def skipComment : Reader Unit :=
  iterate (fun _ => do
    match ← peekRaw with
    | none | some '\n' => return .inr ()
    | some _ => do
      skip
      return .inl ()) ()

def skipBlanks : Reader Unit :=
  iterate (fun _ => do
    match ← peek with
    | some ' ' | some '\t' => do
      skip
      return .inl ()
    | some '#' => do
      skipComment
      return .inr ()
    | _ => return .inr ()) ()

/-- Skips a text if it stands here, over joined lines. -/
def skipText : List Char → Reader Bool
  | [] => return true
  | c :: rest => do
    let before ← get
    if ← skipChar c then
      if ← skipText rest then return true
      else do
        set before
        return false
    else return false

/-- Skips the first of some texts that stands here. -/
def skipAny : List String → Reader (Option String)
  | [] => return none
  | text :: rest => do
    if ← skipText text.toList then return some text else skipAny rest

/-- Reads the number in front of an operator that changes a descriptor, and the operator. -/
def readRedirect : Reader (Option Token) := do
  let before ← get
  match ← peek with
  | some c => do
    if c.isDigit then skip
    match ← skipAny redirectOperators with
    | some op =>
      return some (.redirect (if c.isDigit then c.toNat - '0'.toNat else usualDescriptor op) op)
    | none => do
      set before
      return none
  | none => return none

/-- The readers of what stands in a script. -/
structure Context where
  /-- Reads a text with its surroundings. -/
  text : Surrounding → Reader Word
  /-- Reads commands up to what ends them; the flag tells whether there may be none. -/
  commands : Bool → Reader Script
  /-- Reads one command. -/
  command : Reader Script

def scan (c : Context) : Reader Token := do
  skipBlanks
  match ← peek with
  | none => return .inputEnd
  | some '\n' => do
    skip
    return .lineEnd
  | some _ =>
    match ← readRedirect with
    | some t => return t
    | none =>
      match ← skipAny operators with
      | some op => return .operator op
      | none => return .word (← c.text .bare)

/-- Reads a token, or takes the one that was put back. -/
def takeToken (c : Context) : Reader Token := do
  match (← get).ahead with
  | some t => do
    modify fun s => { s with ahead := none }
    return t
  | none => scan c

def putBack (t : Token) : Reader Unit := modify fun s => { s with ahead := some t }

/-- Skips line ends, with the documents behind them. Gives the token that follows. -/
def skipLineEnds (c : Context) (t : Token) : Reader Token :=
  iterate (fun t => do
    match t with
    | .lineEnd => do
      readDocuments c.text
      return .inl (← scan c)
    | t => return .inr t) t

/-- The reserved word that a token is, or else the token. -/
def Token.asReserved (t : Token) : Token :=
  match t with
  | .word w =>
    match reservedWords.find? fun s => w.plain? = some s.toList with
    | some s => .reserved s
    | none => t
  | t => t

/-- Reads a token in which reserved words have their meaning. -/
def takeReserved (c : Context) : Reader Token := return (← takeToken c).asReserved

/-- Reads a token behind line ends, in which reserved words have their meaning. -/
def takeBehindLineEnds (c : Context) : Reader Token := do
  return (← skipLineEnds c (← takeToken c)).asReserved

/-! ### Simple commands -/

def assignment? : Word → Option (String × Word)
  | .text s false :: rest =>
    match splitOnce '=' s with
    | some (name, value) =>
      if isName name then
        some (String.ofList name, if value.isEmpty then rest else .text value false :: rest)
      else none
    | none => none
  | _ => none

/-- The text of a word that announces a document, and whether a part of it is quoted. -/
def announcedText (w : Word) : List Char × Bool :=
  (w.flatMap fun
    | .text s _ => s
    | _ => [],
    w.any fun
    | .text _ quoted => quoted
    | _ => false)

def announce (w : Word) (dropsTabs : Bool) : Reader Nat := do
  let number := (← get).nextDocument
  let (lastLine, literal) := announcedText w
  modify fun s => { s with
    announced := s.announced ++ [⟨number, lastLine, literal, dropsTabs⟩]
    nextDocument := number + 1 }
  return number

/-- Reads the word behind an operator that changes a descriptor. -/
def readRedirection (c : Context) (descriptor : Nat) (op : String) : Reader Redirection := do
  let isDocument := op = "<<" || op = "<<-"
  let t ← if isDocument then do
      skipBlanks
      match ← peek with
      | some ch =>
        if endsWord ch then scan c else do pure (.word (← c.text .announcement))
      | none => pure .inputEnd
    else scan c
  match t with
  | .word w =>
    match op with
    | "<<" => return .document descriptor (← announce w false)
    | "<<-" => return .document descriptor (← announce w true)
    | ">&" | "<&" => return .copy descriptor w
    | ">>" => return .file descriptor .append w
    | ">|" => return .file descriptor .overwrite w
    | "<>" => return .file descriptor .readWrite w
    | "<" => return .file descriptor .read w
    | _ => return .file descriptor .write w
  | t => unexpected t none

/-- The parts of a simple command that are read so far. -/
structure Parts where
  assignments : List (String × Word)
  words : List Word
  redirections : List Redirection

/-- The commands of the shell that no function may be named for. -/
def specialNames : List String :=
  [".", ":", "break", "continue", "eval", "exec", "exit", "export", "local", "readonly", "return",
    "set", "shift", "times", "trap", "unset"]

/-- Reads the rest of a function, behind the first parenthesis. -/
def readFunction (c : Context) (word : Word) : Reader Script := do
  match ← takeToken c with
  | .operator ")" =>
    let name := word.plain?.filter isName
    match name.filter fun name => !specialNames.contains (String.ofList name) with
    | some name => do
      putBack (← takeBehindLineEnds c)
      return .function (String.ofList name) (← c.command)
    | none => fail "Bad function name"
  | t => unexpected t (some (cited ")"))

def readSimple (c : Context) (line : Nat) : Reader Script :=
  iterate (fun (parts : Parts) => do
    match ← takeToken c with
    | .word w =>
      match if parts.words.isEmpty then assignment? w else none with
      | some a => return .inl { parts with assignments := parts.assignments ++ [a] }
      | none => return .inl { parts with words := parts.words ++ [w] }
    | .redirect descriptor op => do
      let r ← readRedirection c descriptor op
      return .inl { parts with redirections := parts.redirections ++ [r] }
    | t =>
      match t, parts with
      | .operator "(", ⟨[], [word], []⟩ => return .inr (← readFunction c word)
      | _, _ => do
        putBack t
        return .inr (.simple line parts.assignments parts.words parts.redirections)) ⟨[], [], []⟩

/-! ### Compound commands -/

def expectReserved (c : Context) (text : String) : Reader Unit := do
  match ← takeReserved c with
  | .reserved s => if s = text then return () else unexpected (.reserved s) (some (cited text))
  | t => unexpected t (some (cited text))

def expectOperator (c : Context) (text : String) : Reader Unit := do
  match ← takeToken c with
  | .operator s => if s = text then return () else unexpected (.operator s) (some (cited text))
  | t => unexpected t (some (cited text))

/-- Reads what follows a choice whose first condition is behind us. -/
def readBranches (c : Context) : Nat → Script → Reader Script
  | 0, _ => fail "too long"
  | n + 1, condition => do
    expectReserved c "then"
    let yes ← c.commands false
    match ← takeReserved c with
    | .reserved "elif" => do
      let next ← c.commands false
      return .choice condition yes (← readBranches c n next)
    | .reserved "else" => do
      let no ← c.commands false
      expectReserved c "fi"
      return .choice condition yes no
    | t => do
      putBack t
      expectReserved c "fi"
      return .choice condition yes .nothing

/-- Reads a repetition behind its first word. -/
def readRepetition (c : Context) (untilSuccess : Bool) : Reader Script := do
  let condition ← c.commands false
  expectReserved c "do"
  let body ← c.commands false
  expectReserved c "done"
  return .repetition untilSuccess condition body

/-- Reads the words of a loop, up to the end of the line or a semicolon. -/
def readLoopWords (c : Context) : Reader (List Word) :=
  iterate (fun words => do
    match ← takeToken c with
    | .word w => return .inl (words ++ [w])
    | .lineEnd | .operator ";" => return .inr words
    | t => unexpected t none) []

def readLoop (c : Context) (line : Nat) : Reader Script := do
  let name := match ← takeToken c with
    | .word w => w.plain?.filter isName
    | _ => none
  match name with
  | none => fail "Bad for loop variable"
  | some name => do
    let words ← match ← takeBehindLineEnds c with
      | .reserved "in" => readLoopWords c
      | .operator ";" => pure [[.parameter .each .plain true]]
      | t => do
        putBack t
        pure [[.parameter .each .plain true]]
    match ← takeBehindLineEnds c with
    | .reserved "do" => do
      let body ← c.commands false
      expectReserved c "done"
      return .loop line (String.ofList name) words body
    | t => unexpected t (some (cited "do"))

/-- Reads the patterns of a case, the first of which was looked at, up to the parenthesis. -/
def readPatterns (c : Context) : Nat → Token → Reader (List Word)
  | 0, _ => fail "too long"
  | n + 1, t => do
    match t with
    | .word w =>
      match ← takeToken c with
      | .operator "|" => return w :: (← readPatterns c n (← takeToken c))
      | .operator ")" => return [w]
      | t => unexpected t (some (cited ")"))
    | t => unexpected t (some (cited ")"))

def Token.asWord : Token → Token
  | .reserved s => .word [.text s.toList false]
  | t => t

def readCases (c : Context) : Reader (List (List Word × Script)) :=
  iterate (fun cases => do
    match ← takeBehindLineEnds c with
    | .reserved "esac" => return .inr cases
    | t => do
      let t ← match t with
        | .operator "(" => takeToken c
        | t => pure t
      let patterns ← readPatterns c (← bound) t.asWord
      let body ← c.commands true
      let cases := cases ++ [(patterns, body)]
      match ← takeBehindLineEnds c with
      | .reserved "esac" => return .inr cases
      | .operator ";;" => return .inl cases
      | t => unexpected t (some (cited ";;"))) []

/-- Reads a selection behind its first word. -/
def readSelection (c : Context) (line : Nat) : Reader Script := do
  match ← takeToken c with
  | .word subject =>
    match ← takeBehindLineEnds c with
    | .reserved "in" => return .selection line subject (← readCases c)
    | t => unexpected t (some (cited "in"))
  | t => unexpected t (some "word")

def readRedirections (c : Context) : Reader (List Redirection) :=
  iterate (fun redirections => do
    match ← takeReserved c with
    | .redirect descriptor op => return .inl (redirections ++ [← readRedirection c descriptor op])
    | t => do
      putBack t
      return .inr redirections) []

/-- Reads the redirections behind a compound command, and applies them. -/
def readRedirected (c : Context) (line : Nat) (body : Script) : Reader Script := do
  match ← readRedirections c with
  | [] => return body
  | redirections => return .redirected line body redirections

/-- Puts the text of an alias in place of its name, if the next token is one. -/
def replaceAliases (c : Context) : Reader Unit :=
  iterate (fun _ => do
    let t ← takeToken c
    let s ← get
    let name := match t with
      | .word w => String.ofList (w.plain?.getD [])
      | _ => ""
    match s.alias? name with
    | some text => do
      set { s with
        rest := text ++ s.rest
        replaced := (name, s.rest.length) :: s.replaced }
      return .inl ()
    | none => do
      putBack t
      return .inr ()) ()

def readCommand (c : Context) : Reader Script := do
  let line := (← get).line
  if !(← get).aliases.isEmpty then replaceAliases c
  match ← takeReserved c with
  | .reserved "if" => do
    let condition ← c.commands false
    readRedirected c line (← readBranches c (← bound) condition)
  | .reserved "while" => do readRedirected c line (← readRepetition c false)
  | .reserved "until" => do readRedirected c line (← readRepetition c true)
  | .reserved "for" => do readRedirected c line (← readLoop c line)
  | .reserved "case" => do readRedirected c line (← readSelection c line)
  | .operator "(" => do
    let body ← c.commands false
    expectOperator c ")"
    return .subshell line body (← readRedirections c)
  | .reserved "\x7b" => do
    let body ← c.commands false
    expectReserved c "\x7d"
    readRedirected c line body
  | .word w => do
    putBack (.word w)
    readSimple c (← get).line
  | .redirect descriptor op => do
    putBack (.redirect descriptor op)
    readSimple c (← get).line
  | t => unexpected t none

/-! ### Lists -/

def readPiped (c : Context) (first : Script) : Reader Script :=
  iterate (fun commands => do
    match ← takeReserved c with
    | .operator "|" => do
      putBack (← takeBehindLineEnds c)
      return .inl (commands ++ [← readCommand c])
    | t => do
      putBack t
      match commands with
      | [single] => return .inr single
      | commands => return .inr (.pipeline commands)) [first]

def readPipeline (c : Context) : Reader Script := do
  match ← takeReserved c with
  | .reserved "!" => do
    putBack (← takeReserved c)
    return .negation (← readPiped c (← readCommand c))
  | t => do
    putBack t
    readPiped c (← readCommand c)

/-- Reads pipelines that are joined by `&&` and `||`. -/
def readJoined (c : Context) : Reader Script := do
  iterate (fun first => do
    match ← takeReserved c with
    | .operator "&&" => do
      putBack (← takeBehindLineEnds c)
      return .inl (.both first (← readPipeline c))
    | .operator "||" => do
      putBack (← takeBehindLineEnds c)
      return .inl (.either first (← readPipeline c))
    | t => do
      putBack t
      return .inr first) (← readPipeline c)

/-- Does the token end a list of commands? -/
def Token.endsList : Token → Bool
  | .inputEnd | .operator ")" | .operator ";;" => true
  | .reserved s => ["\x7d", "then", "elif", "else", "fi", "do", "done", "esac"].contains s
  | _ => false

/-- One script after another, if there is one. -/
def Script.after (script : Script) : Option Script → Script
  | none => script
  | some first => .sequence first script

def readCommands (c : Context) (mayBeEmpty : Bool) : Reader Script :=
  iterate (fun (before : Option Script) => do
    let t ← takeBehindLineEnds c
    let finished : Reader (Option Script ⊕ Script) := do
      putBack t
      return .inr (before.getD .nothing)
    match t with
    | .inputEnd => finished
    | t =>
      if (mayBeEmpty || before.isSome) && t.endsList then finished
      else do
        putBack t
        let script ← readJoined c
        match ← takeReserved c with
        | .operator "&" => return .inl (some ((Script.background script).after before))
        | .operator ";" => return .inl (some (script.after before))
        | .lineEnd => do
          putBack .lineEnd
          return .inl (some (script.after before))
        | t => do
          putBack t
          return .inr (script.after before)) none

/-- Reads the commands up to the end of a line; `none` at the end of the script. -/
def readLine (c : Context) : Reader (Option Script) :=
  iterate (fun (before : Option Script) => do
    match ← takeReserved c with
    | .lineEnd => do
      readDocuments c.text
      return .inr (some (before.getD .nothing))
    | .inputEnd => do
      readDocuments c.text
      putBack .inputEnd
      return .inr before
    | t => do
      putBack t
      let script ← readJoined c
      match ← takeReserved c with
      | .operator "&" => return .inl (some ((Script.background script).after before))
      | .operator ";" => return .inl (some (script.after before))
      | .lineEnd => do
        putBack .lineEnd
        return .inl (some (script.after before))
      | .inputEnd => do
        putBack .inputEnd
        return .inl (some (script.after before))
      | t => unexpected t none) none

/-! ### Scripts in scripts -/

/-- What is read inside a script. -/
inductive Goal where
  | text (s : Surrounding)
  | commands (mayBeEmpty : Bool)
  | command

inductive Found where
  | word (w : Word)
  | script (s : Script)

def Found.asWord : Found → Word
  | .word w => w
  | .script _ => []

def Found.asScript : Found → Script
  | .word _ => .nothing
  | .script s => s

/-- The readers at a depth, which read what stands inside by those below them. -/
def contextOf (read : Goal → Reader Found) : Context where
  text s := return (← read (.text s)).asWord
  commands mayBeEmpty := return (← read (.commands mayBeEmpty)).asScript
  command := return (← read .command).asScript

/-- Reads a script between a dollar sign with a parenthesis and the closing one. -/
def readEnclosed (c : Context) : Reader Script := do
  let announced := (← get).announced
  modify fun s => { s with announced := [] }
  let script ← readCommands c true
  expectOperator c ")"
  modify fun s => { s with announced }
  return script

/-- Reads a script of its own up to its end, or to what ends a list of commands. -/
def readWhole (c : Context) : Reader Script := do
  let script ← readCommands c true
  readDocuments c.text
  return script

/-- Reads what a script may contain, down to a depth. -/
def readGoal : Nat → Goal → Reader Found
  | 0, _ => fail "nested too deeply"
  | depth + 1, goal =>
    let c := contextOf (readGoal depth)
    match goal with
    | .text s => do
      return .word (← readText (readEnclosed c, readWhole c) (← bound) 0 s)
    | .commands mayBeEmpty => return .script (← readCommands c mayBeEmpty)
    | .command => return .script (← readCommand c)

/-- The readers of a script, whose depth is less than its length. -/
def contextFor (s : Source) : Context := contextOf (readGoal (2 * s.rest.length + 4))

end TileBench.Shell
