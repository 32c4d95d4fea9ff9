import TileBench.Shell.Format
import TileBench.Shell.Grammar
import TileBench.Shell.Redirect

/-!
# The commands of the shell

A command that the shell knows itself gets its arguments and gives a status. An error in one of the
special commands ends the shell.
-/

namespace TileBench.Shell

open Text Launcher

/-- The numbers below it are the ones that a command takes as an argument. -/
def signed32Limit : Nat := 2147483648

/-- The error for a text that is no number. -/
def refuseNumber {α : Type} (text : String) : Act α := refuse ("Illegal number: " ++ text)

/-- Reads a number that is an argument. -/
def numberOf (text : String) : Act Nat := do
  match conditionNumber text with
  | .ok (.ofNat n) => if n < signed32Limit then return n else refuseNumber text
  | _ => refuseNumber text

/-- Reads the letters of an argument, behind its dash. Gives the options and the arguments that are
left. -/
def readLetters (flags valued : List Char) (rest : List String) :
    List Char → Act (List (Char × String) × List String)
  | [] => return ([], rest)
  | c :: more => do
    if flags.contains c then do
      let (others, rest) ← readLetters flags valued rest more
      return ((c, "") :: others, rest)
    else if valued.contains c then
      match more, rest with
      | [], value :: rest => return ([(c, value)], rest)
      | [], [] => refuse ("No arg for -" ++ String.ofList [c] ++ " option")
      | more, rest => return ([(c, String.ofList more)], rest)
    else refuse ("Illegal option -" ++ String.ofList [c])

/-- Reads options at the front of arguments, at most as many arguments of them as a number tells. -/
def readOptionsFrom (flags valued : List Char) :
    Nat → List String → Act (List (Char × String) × List String)
  | 0, args => return ([], args)
  | _, [] => return ([], [])
  | n + 1, arg :: rest =>
    match arg.toList with
    | ['-', '-'] => return ([], rest)
    | '-' :: c :: more => do
      let (found, rest) ← readLetters flags valued rest (c :: more)
      let (others, rest) ← readOptionsFrom flags valued n rest
      return (found ++ others, rest)
    | _ => return ([], arg :: rest)

/-- Reads options of one letter at the front of the arguments, of which some have an argument. -/
def readOptions (flags valued : List Char) (args : List String) :
    Act (List (Char × String) × List String) :=
  readOptionsFrom flags valued args.length args

/-! ### Printing -/

def printLine (text : String) : Act Unit := emit 1 (bytesOf (text ++ "\n"))

/-- Prints arguments with blanks between them, and a line end unless the first asks for none. -/
def echo (args : List String) : Act Nat := do
  let (args, lineEnd) := match args with
    | "-n" :: rest => (rest, false)
    | args => (args, true)
  let (bytes, goesOn) := escapedBytes .shell (" ".intercalate args).toList
  emit 1 (if goesOn && lineEnd then bytes ++ [0x0a] else bytes)
  return 0

def printf (args : List String) : Act Nat := do
  match (← readOptions [] [] args).2 with
  | [] => refuse "usage: printf format [arg ...]"
  | format :: args => do
    let p := printFormat format args
    emit 1 p.bytes
    for message in p.errors do
      complain message
    return if p.broken then 2 else if p.errors.isEmpty then 0 else 1

/-! ### Tests -/

def test (args : List String) : Act Nat := do
  let s ← get
  match condition ⟨s.world.store, s.here⟩ args with
  | .ok true => return 0
  | .ok false => return 1
  | .error message => refuse message

def bracketTest (args : List String) : Act Nat :=
  if args.getLast? = some "]" then test args.dropLast else refuse "missing ]"

/-! ### Variables -/

/-- Applies a change to variables, some of which get a value. -/
def declare (change : Variable → Variable) (args : List String) : Act Nat := do
  for arg in args do
    let (name, value) := match splitOnce '=' arg.toList with
      | some (name, value) => (name, some value)
      | none => (arg.toList, none)
    let name ← if isName name then pure (String.ofList name)
      else refuse (String.ofList name ++ ": bad variable name")
    match value with
    | some value => assign name value
    | none => pure ()
    changeVariable name change
  return 0

/-- Pieces of a text between single quotes, with the quotes in it between double quotes. -/
def quotedPieces : Nat → List Char → List Char
  | 0, _ => []
  | n + 1, s =>
    let front := s.takeWhile (· ≠ '\'')
    let quotes := (s.drop front.length).takeWhile (· == '\'')
    let rest := s.drop (front.length + quotes.length)
    ('\'' :: front ++ ['\''])
      ++ (if quotes.isEmpty then [] else '"' :: quotes ++ ['"'])
      ++ (if rest.isEmpty then [] else quotedPieces n rest)

/-- A text as a word of a script. -/
def singleQuoted (s : List Char) : String := String.ofList (quotedPieces (s.length + 1) s)

/-- Prints variables as commands that declare them, in order. -/
def printVariables (command : String) (chosen : Variable → Bool) : Act Nat := do
  let shown := ((← get).bindings.filter chosen).mergeSort fun a b => a.name ≤ b.name
  for v in shown do
    printLine (command ++ v.name ++ match v.value with
      | some value => "=" ++ singleQuoted value
      | none => "")
  return 0

/-- Declares variables, or prints those that are declared so. -/
def declaration (name : String) (chosen : Variable → Bool) (change : Variable → Variable)
    (args : List String) : Act Nat := do
  let (found, rest) ← readOptions ['p'] [] args
  if rest.isEmpty || !found.isEmpty then printVariables (name ++ " ") chosen
  else declare change rest

/-- Makes variables local to the function that is running. -/
def declareLocal (args : List String) : Act Nat := do
  if (← get).saved.isEmpty then refuse "not in a function"
  else do
    for arg in args do
      save (String.ofList (arg.toList.takeWhile (· ≠ '=')))
    declare id args

def unset (args : List String) : Act Nat := do
  let (found, names) ← readOptions ['v', 'f'] [] args
  for name in names do
    if found.any fun option => option.1 = 'f' then
      modify fun s => { s with functions := s.functions.filter fun f => f.1 ≠ name }
    else if !isName name.toList then refuse (name ++ ": bad variable name")
    else if ((← get).known? name).any (·.readOnly) then refuse (name ++ ": is read only")
    else modify fun s => s.setEntry name none
  return 0

/-- Sets aliases, or prints them. -/
def aliasCommand (args : List String) : Act Nat := do
  let shown (entry : String × List Char) : Act Unit :=
    printLine (entry.1 ++ "=" ++ singleQuoted entry.2)
  if args.isEmpty then do
    for entry in (← get).aliases do
      shown entry
    return 0
  else do
    let mut status := 0
    for arg in args do
      match splitOnce '=' arg.toList with
      | some (name@(_ :: _), text) => modify fun s =>
        let name := String.ofList name
        { s with aliases := s.aliases.filter (fun entry => entry.1 ≠ name) ++ [(name, text)] }
      | _ => do
        match (← get).aliases.find? fun entry => entry.1 = arg with
        | some entry => shown entry
        | none => do
          emit 2 (bytesOf ("alias: " ++ arg ++ " not found\n"))
          status := 1
    return status

def dropAliases (args : List String) : Act Nat := do
  let (found, names) ← readOptions ['a'] [] args
  if !found.isEmpty then do
    modify fun s => { s with aliases := [] }
    return 0
  else do
    let mut status := 0
    for name in names do
      if (← get).aliases.any fun entry => entry.1 = name then
        modify fun s => { s with aliases := s.aliases.filter fun entry => entry.1 ≠ name }
      else do
        emit 2 (bytesOf ("unalias: " ++ name ++ " not found\n"))
        status := 1
    return status

/-- Drops arguments of the script. -/
def shift (args : List String) : Act Nat := do
  let n ← match args with
    | [] => pure 1
    | n :: _ => numberOf n
  let s ← get
  if n ≤ s.args.length then
    set { s with args := s.args.drop n }
    return 0
  else refuse "can't shift that many"

/-! ### Reading lines -/

/-- The characters of a line up to its end: does a backslash protect the character? The rest counts
the bytes that are used, and tells whether there was an end. -/
def readInputLine (raw : Bool) : Nat → Bytes → Glyphs × Nat × Bool
  | _, [] => ([], 0, false)
  | 0, _ => ([], 0, false)
  | n + 1, b :: rest =>
    let (front, used, after) : Option Glyph × Nat × Bytes :=
      if !raw && b = 0x5c then
        match rest with
        | [] => (none, 1, [])
        | c :: rest =>
          if c = 0x0a then (none, 2, rest) else (some (Char.ofNat c.toNat, false), 2, rest)
      else (some (Char.ofNat b.toNat, true), 1, rest)
    if b = 0x0a then ([], 1, true)
    else
      let (line, count, ended) := readInputLine raw n after
      ((front.filter (·.1 ≠ '\x00')).toList ++ line, used + count, ended)

/-- Is it a separator, and no blank if blanks are left out? -/
def isSeparator (separators : List Char) (g : Glyph) : Bool := g.2 && separators.contains g.1

def isSeparatingBlank (separators : List Char) (g : Glyph) : Bool :=
  isSeparator separators g && (g.1 == ' ' || g.1 == '\t' || g.1 == '\n')

/-- The front of a line up to a separator, and what is behind that. -/
def splitField (separators : List Char) (line : Glyphs) : Glyphs × Glyphs :=
  let field := line.takeWhile fun g => !isSeparator separators g
  let rest := (line.drop field.length).dropWhile (isSeparatingBlank separators)
  match rest with
  | g :: after =>
    if isSeparator separators g then (field, after.dropWhile (isSeparatingBlank separators))
    else (field, rest)
  | [] => (field, [])

/-- The fields of a line, as many as there are names; the last one takes what is left. -/
def splitLine (separators : List Char) : Nat → Glyphs → List Glyphs
  | 0, _ => []
  | 1, line =>
    let kept := (line.reverse.dropWhile (isSeparatingBlank separators)).reverse
    match splitField separators kept with
    | (field, []) => [field]
    | _ => [kept]
  | n + 1, line =>
    let (field, rest) := splitField separators line
    field :: splitLine separators n rest

/-- The text of bytes that were read as characters. -/
def glyphText (g : Glyphs) : List Char := decodeLossy (g.plain.map fun c => UInt8.ofNat c.toNat)

def readCommandLine (args : List String) : Act Nat := do
  let (found, names) ← readOptions ['r'] ['p'] args
  if names.isEmpty then refuse "arg count"
  else do
    let s ← get
    let c := (s.wiring.channel? 0).getD .nowhere
    let bytes := s.world.pending c
    let raw := found.any fun option => option.1 = 'r'
    let (line, used, ended) := readInputLine raw (bytes.length + 1) bytes
    set { s with world := s.world.advance c used }
    let line := line.dropWhile (isSeparatingBlank s.separators)
    for (name, field) in names.zip (splitLine s.separators names.length line) do
      assignChecked name (glyphText field)
    return if ended then 0 else 1

/-! ### Options and arguments -/

/-- What the options at the front of some arguments change. -/
structure OptionChange where
  /-- The letters that are on. -/
  letters : List Char
  rest : List String
  /-- Did two dashes end the options? -/
  ended : Bool
  /-- What the options asked to be shown. -/
  shown : String
  /-- The option that does not exist. -/
  wrong : Option String

/-- Shows which options are on: as a table, or as commands that set them. -/
def showOptions (asTable : Bool) (letters : List Char) : String :=
  let rows := optionNames.map (fun entry => (entry.1, letters.contains entry.2))
    ++ idleOptionNames.map fun name => (name, false)
  if asTable then
    "Current option settings\n" ++ String.join (rows.map fun row =>
      String.ofList (row.1.toList.rightpad 16 ' ') ++ (if row.2 then "on" else "off") ++ "\n")
  else
    String.join (rows.map fun row =>
      "set " ++ (if row.2 then "-o " else "+o ") ++ row.1 ++ "\n")

namespace OptionChange

/-- Turns a letter on or off. -/
def turn (o : OptionChange) (on : Bool) (c : Char) : OptionChange :=
  { o with letters := (if on then [c] else []) ++ o.letters.filter (· ≠ c) }

/-- Turns the option of a name on or off. Without a name, all options are shown. -/
def turnNamed (o : OptionChange) (on : Bool) : OptionChange :=
  match o.rest with
  | [] => { o with shown := o.shown ++ showOptions on o.letters }
  | name :: rest =>
    match optionNames.find? fun entry => entry.1 = name with
    | some entry => { o with rest }.turn on entry.2
    | none =>
      if idleOptionNames.contains name then { o with rest }
      else { o with wrong := some ("-o " ++ name) }

/-- Turns the options of some letters on or off; one letter takes the name of an option from the
next argument. -/
def turnAll (known : List Char) (on : Bool) (o : OptionChange) : List Char → OptionChange
  | [] => o
  | c :: more =>
    if o.wrong.isSome then o
    else if c = 'o' then turnAll known on (o.turnNamed on) more
    else if known.contains c then turnAll known on (o.turn on c) more
    else { o with wrong := some (String.ofList ['-', c]) }

/-- Reads the options at the front of the arguments that are left. -/
def readAll (known : List Char) : Nat → OptionChange → OptionChange
  | 0, o => o
  | n + 1, o =>
    if o.wrong.isSome then o
    else
      match o.rest with
      | [] => o
      | arg :: rest =>
        match arg.toList with
        | ['-'] => { o with letters := o.letters.filter fun c => c ≠ 'x' && c ≠ 'v', rest }
        | ['-', '-'] => { o with rest, ended := true }
        | '-' :: more => readAll known n ({ o with rest }.turnAll known true more)
        | '+' :: more => readAll known n ({ o with rest }.turnAll known false more)
        | _ => o

end OptionChange

/-- Reads the options at the front of some arguments. -/
def readSettings (known letters : List Char) (args : List String) : OptionChange :=
  OptionChange.readAll known (args.length + 1) ⟨letters, args, false, "", none⟩

/-- What is said about an option that needs a terminal. -/
def noTerminal : String := "can't access tty; job control turned off"

/-- Sets options, or the arguments of the script. Without arguments the variables are printed. -/
def setCommand (args : List String) : Act Nat := do
  if args.isEmpty then printVariables "" fun v => v.value.isSome
  else do
    let change := readSettings optionLetters (← get).options args
    emit 1 (bytesOf change.shown)
    match change.wrong with
    | some option => refuse ("Illegal option " ++ option)
    | none => do
      if change.letters.contains 'm' then complain noTerminal
      modify fun s => { s with
        options := change.letters.filter (· ≠ 'm')
        args := if change.ended || !change.rest.isEmpty then change.rest else s.args }
      return 0

/-! ### Jumps -/

/-- Ends loops, or goes on with the next turn of one. -/
def leaveLoops (goesOn : Bool) (args : List String) : Act Nat := do
  let n ← match args with
    | [] => pure 1
    | n :: _ => numberOf n
  if n = 0 then refuseNumber (args.headD "")
  else do
    let count := min n (← get).loops
    if count = 0 then return 0 else throw (.loops count goesOn)

/-- The status that an argument gives, or that of the last command. In a script for a signal that is
the last command before it. -/
def statusArgument (args : List String) : Act Nat := do
  match args with
  | [] => do
    let s ← get
    return s.trapStatus.getD s.status
  | code :: _ => numberOf code

/-! ### Directories -/

/-- The names of a path from the top, with the ones that lead back left out. -/
def straightNames (path : String) : List String :=
  (Store.names path).foldl (fun front name =>
    if name = "." then front else if name = ".." then front.dropLast else front ++ [name]) []

def printDirectory (args : List String) : Act Nat := do
  let (found, _) ← readOptions ['L', 'P'] [] args
  let s ← get
  printLine (if found.any fun option => option.1 = 'P' then fullPath s.here else s.directory)
  return 0

/-- Changes the working directory. A dash stands for the one before. -/
def changeDirectory (args : List String) : Act Nat := do
  let (found, rest) ← readOptions ['L', 'P'] [] args
  let s ← get
  let valueOf (name : String) : String := String.ofList ((s.value? name).getD [])
  let path := match rest with
    | [] => valueOf "HOME"
    | "-" :: _ => valueOf "OLDPWD"
    | path :: _ => path
  let directory := "/" ++ "/".intercalate
    (straightNames (if Store.isAbsolute path then path else s.directory ++ "/" ++ path))
  match s.world.store.find (seenFrom s.world.store s.here directory) with
  | .ok (.taken here .directory) => do
    let directory := if found.any fun option => option.1 = 'P' then fullPath here else directory
    set { s with here, directory }
    assign "OLDPWD" s.directory.toList
    assign "PWD" directory.toList
    if rest.head? = some "-" then printLine directory
    return 0
  | _ => refuse ("can't cd to " ++ rest.headD path)

/-- The rights of a mask as letters, which are those that the mask leaves. -/
def maskLetters (mask : Nat) : String :=
  ",".intercalate ([("u", 6), ("g", 3), ("o", 0)].map fun (who, shift) =>
    let left := 7 - (mask >>> shift) % 8
    who ++ "=" ++ String.ofList
      ([('r', 4), ('w', 2), ('x', 1)].filterMap fun (c, bit) =>
        if (left / bit) % 2 = 1 then some c else none))

def maskCommand (args : List String) : Act Nat := do
  let (found, rest) ← readOptions ['S'] [] args
  match rest with
  | [] => do
    let mask := (← get).mask
    printLine (if found.isEmpty then String.ofList ((Nat.toDigits 8 mask).leftpad 4 '0')
      else maskLetters mask)
    return 0
  | mode :: _ => do
    if mode.toList.all isOctal && !mode.isEmpty then do
      modify fun s => { s with mask := ofDigits 8 mode.toList % 512 }
      return 0
    else refuse ("Illegal mode: " ++ mode)

/-! ### Signals -/

/-- How the command that sends signals is used. -/
def killUsage : String :=
  "Usage: kill [-s sigspec | -signum | -sigspec] [pid | job]... or\nkill -l [exitstatus]"

def sendSignal (signal : Nat) (targets : List String) : Act Nat := do
  let mut status := 0
  for target in targets do
    let process ← numberOf target
    let s ← get
    let jobs := s.jobs.filter fun job => job.process = process
    if process = s.own || s.ancestors.contains process || jobs.any (·.waiting.isSome) then
      set { s with world := s.world.send process signal }
    else if jobs.isEmpty then do
      complain "No such process\n"
      status := 1
  heedSignals
  return status

/-- Tells the name of the signal of a number, or of a status. -/
def tellSignal (text : String) : Act Nat := do
  let n ← numberOf text
  let signal := if n > 128 then n - 128 else n
  if signal = 0 || signalCount ≤ signal then
    refuse ("invalid signal number or exit status: " ++ text)
  else do
    printLine (signalName signal)
    return 0

def tellSignals : Act Nat := do
  printLine "0"
  for n in (List.range signalCount).drop 1 do
    printLine (signalName n)
  return 0

/-- The command that sends signals, or tells their names. -/
def kill (args : List String) : Act Nat := do
  let send (signal : Nat) (targets : List String) : Act Nat :=
    if targets.isEmpty then refuse killUsage else sendSignal signal targets
  match args with
  | [] => refuse killUsage
  | first :: rest =>
    match first.toList with
    | '-' :: name =>
      match if name.isEmpty then none else signal? false (String.ofList name) with
      | some signal => send signal rest
      | none => do
        let (found, targets) ← readOptions ['l'] ['s'] args
        if found.any fun option => option.1 = 'l' then
          match targets with
          | [] => tellSignals
          | code :: _ => tellSignal code
        else
          match found.getLast? with
          | none => send 15 targets
          | some option =>
            match signal? false option.2 with
            | some signal => send signal targets
            | none => refuse ("invalid signal number or name: " ++ option.2)
    | _ => send 15 args

/-- Sets the scripts for signals, or prints them. -/
def trap (args : List String) : Act Nat := do
  let (_, args) ← readOptions [] [] args
  match args with
  | [] => do
    for (signal, script) in (← get).traps.mergeSort fun a b => a.1 ≤ b.1 do
      printLine ("trap -- " ++ singleQuoted script.toList ++ " " ++ signalName signal)
    return 0
  | first :: rest => do
    let resets := rest.isEmpty || (first.toList.all Char.isDigit && (signal? true first).isSome)
    let action := if resets || first = "-" then none else some first
    let names := if resets then args else rest
    for name in names do
      match signal? true name with
      | some signal => modify fun s =>
        { s with traps := (action.map fun script => (signal, script)).toList
            ++ s.traps.filter fun trap => trap.1 ≠ signal }
      | none => do
        emit 2 (bytesOf ("trap: " ++ name ++ ": bad trap\n"))
        return 1
    return 0

/-- Waits for processes in the background, all of which have ended. The signal that ended one of
them is told once. -/
def wait (args : List String) : Act Nat := do
  let mut status := 0
  for arg in args do
    let process ← numberOf arg
    let s ← get
    match s.jobs.find? fun job => job.process = process with
    | some job => do
      match job.signal.bind obituary? with
      | some text => emit 2 (bytesOf (text ++ "\n"))
      | none => pure ()
      let told (job : Job) : Job :=
        if job.process = process then { job with signal := none } else job
      set { ← get with jobs := s.jobs.map told }
      status := job.status
    | none => status := 127
  return status

/-! ### Options of a script -/

/-- An option of a script that was found, and where the search goes on. -/
structure FoundOption where
  letter : Char
  argument : Option String
  /-- What is wrong with it: is its argument missing, and what is said about it? -/
  complaint : Option (Bool × String)
  /-- The number of arguments that were looked at. -/
  used : Nat
  /-- The characters of the last one that were looked at, or zero if all of them were. -/
  offset : Nat

/-- Finds the next option of some arguments, of which some were looked at, and the last one of them
up to an offset. A colon behind a known letter tells that the option has an argument. Otherwise
gives the number of arguments that were looked at. -/
def findOption (known : List Char) (args : List String) (used offset : Nat) :
    Except Nat FoundOption :=
  let current := ((args[used - 1]?).getD "").toList
  let (letters, used, offset) : List Char × Nat × Nat :=
    if used = 0 || offset = 0 || current.length ≤ offset then
      (((args[used]?).getD "").toList, used + 1, 1)
    else (current, used, offset)
  match letters.drop offset with
  | [] => .error (used - 1)
  | c :: value =>
    if offset = 1 && letters.head? ≠ some '-' then .error (used - 1)
    else if letters = ['-', '-'] then .error used
    else
      let further := if value.isEmpty then 0 else offset + 1
      match if c = ':' then [] else known.dropWhile (· ≠ c) with
      | _ :: ':' :: _ =>
        if !value.isEmpty then .ok ⟨c, some (String.ofList value), none, used, 0⟩
        else
          match args[used]? with
          | some value => .ok ⟨c, some value, none, used + 1, 0⟩
          | none =>
            .ok ⟨c, none, some (true, "No arg for -" ++ String.ofList [c] ++ " option"), used, 0⟩
      | _ :: _ => .ok ⟨c, none, none, used, further⟩
      | [] =>
        .ok ⟨c, none, some (false, "Illegal option -" ++ String.ofList [c]), used, further⟩

/-- Tells about an option that is wrong. A colon in front of the known letters asks for silence. -/
def reportOption (quiet : Bool) (name : String) (option : FoundOption) (missing : Bool)
    (complaint : String) : Act Unit := do
  if quiet then do
    assign "OPTARG" [option.letter]
    assignChecked name (if missing then [':'] else ['?'])
  else do
    modify fun s => s.setEntry "OPTARG" none
    emit 2 (bytesOf (complaint ++ "\n"))
    assignChecked name ['?']

/-- Puts the next option of the script, or of some arguments, into a variable. -/
def nextOption (args : List String) : Act Nat := do
  match args with
  | known :: name :: given => do
    let s ← get
    let args := if given.isEmpty then s.args else given
    let used := ((s.value? "OPTIND").bind (natural? signed32Limit)).getD 1 - 1
    let quiet := known.startsWith ":"
    match findOption (known.toList.dropWhile (· == ':')) args used s.optionOffset with
    | .error used => do
      assign "OPTIND" (toString (used + 1)).toList
      modify fun s => { s with optionOffset := 0 }
      assignChecked name ['?']
      return 1
    | .ok option => do
      assign "OPTIND" (toString (option.used + 1)).toList
      modify fun s => { s with optionOffset := option.offset }
      match option.complaint with
      | some (missing, complaint) => reportOption quiet name option missing complaint
      | none => do
        assign "OPTARG" (option.argument.getD "").toList
        assignChecked name [option.letter]
      return 0
  | _ => refuse "Usage: getopts optstring var [arg...]"

end TileBench.Shell
