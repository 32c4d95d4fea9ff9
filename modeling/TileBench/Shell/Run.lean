import TileBench.Shell.Commands

/-!
# Running scripts

A command leaves a status, which is zero if it succeeded. The commands that the shell knows itself
are run by it, a function is run like a script, and every other name is a program to be started.
-/

namespace TileBench.Shell

open Text Launcher

/-! ### Names -/

def regularNames : List String :=
  ["[", "alias", "bg", "cd", "chdir", "command", "echo", "false", "fg", "getopts", "hash", "jobs",
    "kill", "printf", "pwd", "read", "test", "true", "type", "umask", "unalias", "wait"]

/-- What a name stands for. -/
inductive Meaning where
  | special
  | function (body : Script)
  | regular
  | program

def State.meaning (s : State) (withFunctions : Bool) (name : String) : Meaning :=
  if specialNames.contains name then .special
  else
    match if withFunctions then s.functions.find? fun f => f.1 = name else none with
    | some f => .function f.2
    | none => if regularNames.contains name then .regular else .program

/-- Describes what a name stands for, or gives nothing if it stands for nothing. -/
def describe (e : Engine) (s : State) (briefly : Bool) (name : String) : Option String :=
  let text (long : String) : Option String := some (if briefly then name else name ++ long)
  if reservedWords.contains name then text " is a shell keyword"
  else if let some entry := s.aliases.find? fun entry => entry.1 = name then
    some (if briefly then "alias " ++ name ++ "=" ++ singleQuoted entry.2
      else name ++ " is an alias for " ++ String.ofList entry.2)
  else
    match s.meaning true name with
    | .special => text " is a special shell builtin"
    | .function _ => text " is a shell function"
    | .regular => text " is a shell builtin"
    | .program =>
      if name.toList.contains '/' then
        if isThere s.world.store s.here name then text (" is " ++ name) else none
      else (e.locate s name).map fun path => if briefly then path else name ++ " is " ++ path

def describeAll (e : Engine) (briefly : Bool) (names : List String) : Act Nat := do
  let mut status := 0
  for name in names do
    match describe e (← get) briefly name with
    | some text => printLine text
    | none => do
      if !briefly then printLine (name ++ ": not found")
      status := 127
  return status

/-! ### Programs -/

/-- What is said about a program that cannot be started, and the status for it. -/
def startError (name : String) (cause : FileError) : String × Nat :=
  match cause with
  | .notFound | .notDirectory => (name ++ ": not found", 127)
  | .tooManyLinks | .nameTooLong => (name ++ ": " ++ cause.text, 127)
  | cause => (name ++ ": " ++ cause.text, 126)

/-- Starts a program with what it gets from the shell. A file that the system cannot run is taken
for a script. -/
def startProgram (e : Engine) (i : Inherited) (name : String) (args : List String) :
    Act (Except FileError ExitStatus) := do
  e.complete false
  let s ← get
  let started :=
    if name.isEmpty then .error .permissionDenied
    else
      match e.start i name args s.world with
      | .error .notExecutable =>
        e.start i "/bin/sh" ((e.locate s name).getD name :: args) s.world
      | result => result
  match started with
  | .ok (status, world) => do
    set { s with world }
    e.complete false
    return .ok status
  | .error cause => return .error cause

def runProgram (e : Engine) (name : String) (args : List String) : Act Unit := do
  match ← startProgram e (← get).inherited name args with
  | .ok (.code n) => setStatus n.toNat
  | .ok (.signal n) => mourn n
  | .error cause => do
    let (message, status) := startError name cause
    complain message
    setStatus (if name.toList.contains '/' then status else 127)
  heedSignals

/-- Lets a program take the place of the shell. -/
def replaceBy (e : Engine) (name : String) (args : List String) : Act Nat := do
  let s ← get
  match ← startProgram e { s.inherited with ancestors := s.ancestors } name args with
  | .ok status => do
    modify fun s => { s with traps := [] }
    match status with
    | .code n => leave n.toNat
    | .signal n => throw (.died n)
  | .error cause => do
    let (message, status) := startError name cause
    complain message
    leave status

/-! ### Commands of the shell -/

/-- The path of a script that is looked for like a program. -/
def scriptPath? (s : State) (name : String) : Option String :=
  if name.toList.contains '/' then some name
  else (searchCandidates s.searchPath name).find? fun path =>
    match s.world.store.find (seenFrom s.world.store s.here path) with
    | .ok (.taken _ (.file ..)) => true
    | .ok (.taken _ (.sealed regular)) => regular
    | _ => false

/-- Runs the script in a file. A directory is an empty script. -/
def runFile (e : Engine) (args : List String) : Act Nat := do
  match args with
  | [] => return 0
  | name :: _ => do
    let s ← get
    match scriptPath? s name with
    | none => refuse (name ++ ": not found")
    | some path =>
      match s.world.store.read (seenFrom s.world.store s.here path) with
      | .error .isDirectory => return 0
      | .error cause => refuse (openError false path cause)
      | .ok bytes => do
        match ← attempt (underName path (e.load (decodeLossy bytes))) with
        | .ok () => return (← get).status
        | .error (.finish n) => return n
        | .error jump => throw jump

/-- Looks for programs, and reports those that are not found. -/
def lookUp (e : Engine) (args : List String) : Act Nat := do
  let (_, names) ← readOptions ['r', 'v'] [] args
  let mut status := 0
  for name in names do
    let s ← get
    if (s.meaning true name matches .program) && (e.locate s name).isNone then do
      complain (name ++ ": not found")
      status := 1
  return status

/-- Runs a command that the shell knows, and gives its status. -/
def runBuiltin (e : Engine) (watched : Bool) (name : String) (args : List String) : Act Nat := do
  match name with
  | ":" | "true" | "jobs" | "times" => return 0
  | "false" => return 1
  | "." => runFile e args
  | "alias" => aliasCommand args
  | "unalias" => dropAliases args
  | "break" => leaveLoops false args
  | "continue" => leaveLoops true args
  | "cd" | "chdir" => changeDirectory args
  | "command" => do
    let (found, names) ← readOptions ['p', 'v', 'V'] [] args
    describeAll e (found.any fun option => option.1 = 'v') names
  | "echo" => echo args
  | "eval" =>
    if args.isEmpty then return 0
    else do
      e.interpret (" ".intercalate args).toList watched
      return (← get).status
  | "exec" =>
    match args with
    | [] => return 0
    | name :: args => replaceBy e name args
  | "exit" => do leave (← statusArgument args)
  | "export" => declaration "export" (·.exported) (fun v => { v with exported := true }) args
  | "fg" | "bg" => refuse "No current job"
  | "getopts" => nextOption args
  | "hash" => lookUp e args
  | "kill" => kill args
  | "local" => declareLocal args
  | "printf" => printf args
  | "pwd" => printDirectory args
  | "read" => readCommandLine args
  | "readonly" => declaration "readonly" (·.readOnly) (fun v => { v with readOnly := true }) args
  | "return" => do throw (.finish (← statusArgument args))
  | "set" => setCommand args
  | "shift" => shift args
  | "test" => test args
  | "[" => bracketTest args
  | "trap" => trap args
  | "type" => describeAll e false args
  | "umask" => maskCommand args
  | "unset" => unset args
  | "wait" => do
    e.complete true
    wait args
  | _ => return 0

/-! ### Simple commands -/

/-- Do the arguments of a command that look like assignments stay whole? -/
def keepsAssignments (name : String) : Bool :=
  name == "export" || name == "readonly" || name == "local"

def expandWords (e : Engine) : List Word → List String → Act (List String)
  | [], args => return args
  | w :: rest, args => do
    let whole := match args.filter (· ≠ "command") with
      | name :: _ => keepsAssignments name && (assignment? w).isSome
      | [] => false
    let more ← if whole then do pure [String.ofList (← expandText e w)] else expand e w
    expandWords e rest (args ++ more)

/-- A command without the words in front of it that keep functions out of the way. Tells whether
there were any. -/
def stripCommand : List String → Bool × List String
  | "command" :: name :: rest =>
    if name = "-p" || name = "--" then
      match rest with
      | next :: _ => if next.startsWith "-" then (false, "command" :: name :: rest)
        else (true, (stripCommand rest).2)
      | [] => (true, [])
    else if name.startsWith "-" then (false, "command" :: name :: rest)
    else (true, (stripCommand (name :: rest)).2)
  | words => (false, words)

/-- Assigns variables, and gives the assignments as they were made. -/
def assignAll (e : Engine) (prepare : String → Act Unit) (finish : String → Act Unit) :
    List (String × Word) → Act (List String)
  | [] => return []
  | (name, w) :: rest => do
    let value ← expandText e w
    prepare name
    assign name value
    finish name
    return (name ++ "=" ++ String.ofList value) :: (← assignAll e prepare finish rest)

def showCommand (channel : Option Channel) (parts : List String) : Act Unit := do
  let s ← get
  if s.hasOption 'x' then
    let marker := String.ofList ((s.value? "PS4").getD [])
    match channel with
    | some c =>
      set { s with world := s.world.write c (bytesOf (marker ++ " ".intercalate parts ++ "\n")) }
    | none => pure ()

/-- How deep functions may call functions. -/
def maxCalls : Nat := 1000

def callFunction (e : Engine) (watched : Bool) (body : Script) (args : List String) : Act Unit := do
  let before ← get
  if maxCalls ≤ before.calls then
    refuse ("Maximum function recursion depth (" ++ toString maxCalls ++ ") reached")
  set { before with args, calls := before.calls + 1, loops := 0, optionOffset := 0 }
  let result ← attempt (withSaved (e.run body watched))
  modify fun s => { s with
    args := before.args, calls := before.calls, loops := before.loops,
    optionOffset := before.optionOffset }
  match result with
  | .ok () => pure ()
  | .error (.finish n) => setStatus n
  | .error jump => throw jump

/-- Runs a command of the shell under its name. Output that was lost is an error. -/
def runNamed (e : Engine) (watched : Bool) (name : String) (args : List String) : Act Nat := do
  underName name do
    modify fun s => { s with lost := false }
    let status ← runBuiltin e watched name args
    if (← get).lost then do
      modify fun s => { s with lost := false }
      complain (name ++ ": I/O error")
      return status ||| 1
    else return status

/-- Runs a command of the shell that is not special: an error does not end the shell. -/
def runRegular (e : Engine) (watched : Bool) (name : String) (args : List String) : Act Unit := do
  match ← attempt (runNamed e watched name args) with
  | .ok status => setStatus status
  | .error .fault => setStatus 2
  | .error jump => throw jump

/-- Runs a command whose words are expanded and whose descriptors are set. -/
def runWords (e : Engine) (watched : Bool) (channel : Option Channel)
    (assignments : List (String × Word)) (words : List String) : Act Unit := do
  let (stripped, rest) := stripCommand words
  match rest with
  | [] => do
    let made ← assignAll e (fun _ => pure ()) (fun _ => pure ()) assignments
    showCommand channel (made ++ words)
    setStatus (← get).outputStatus
  | name :: args => do
    match (← get).meaning (!stripped) name with
    | .special => do
      let made ← assignAll e (fun _ => pure ()) (fun _ => pure ()) assignments
      showCommand channel (made ++ words)
      if stripped then runRegular e watched name args
      else setStatus (← runNamed e watched name args)
    | meaning => do
      let exported (name : String) : Act Unit :=
        changeVariable name fun v => { v with exported := true }
      let act : Act Unit := do
        let made ← assignAll e save exported assignments
        showCommand channel (made ++ words)
        match meaning with
        | .function body => callFunction e watched body args
        | .regular => runRegular e watched name args
        | _ => runProgram e name args
      if assignments.isEmpty then act else withSaved act

def runSimple (e : Engine) (watched : Bool) (line : Nat) (assignments : List (String × Word))
    (words : List Word) (redirections : List Redirection) : Act Unit := do
  modify fun s => { s with line, outputStatus := 0 }
  let words ← expandWords e words []
  let s ← get
  let name := (stripCommand words).2.headD ""
  let channel := s.wiring.channel? 2
  match ← redirectAll e s.wiring redirections with
  | (w, some message) => do
    underWiring w (complain message)
    setStatus 2
    if specialNames.contains name && (stripCommand words).1 = false then throw .fault
  | (w, none) =>
    if name = "exec" then do
      modify fun s => { s with wiring := w }
      runWords e watched channel assignments words
    else underWiring w (runWords e watched channel assignments words)

/-! ### Compound commands -/

/-- Ends a careful shell if the last command failed and its status is not looked at. -/
def settle (watched : Bool) : Act Unit := do
  let s ← get
  if s.hasOption 'e' && !watched && s.status != 0 then leave s.status

/-- Runs a turn of a loop. The result is that of the step; or else the step jumped, and the loop
goes on or does not. -/
def runTurn {α : Type} (act : Act α) : Act (Except Bool α) := do
  modify fun s => { s with loops := s.loops + 1 }
  let result ← attempt act
  modify fun s => { s with loops := s.loops - 1 }
  match result with
  | .ok a => return .ok a
  | .error (.loops count goesOn) =>
    if count ≤ 1 then return .error goesOn else throw (.loops (count - 1) goesOn)
  | .error jump => throw jump

/-- More turns than any loop takes. -/
def maxTurns : Nat := 10000000

/-- Repeats a script as long as a condition succeeds, or fails. The status is that of the last
turn. -/
def repeatScript (e : Engine) (watched untilSuccess : Bool) (condition body : Script) :
    Nat → Nat → Act Unit
  | 0, status => setStatus status
  | turns + 1, status => do
    let turn ← runTurn do
      e.run condition true
      if ((← get).status == 0) == untilSuccess then return none
      else do
        e.run body watched
        return some (← get).status
    match turn with
    | .ok (some status) => repeatScript e watched untilSuccess condition body turns status
    | .ok none => setStatus status
    | .error true => repeatScript e watched untilSuccess condition body turns 0
    | .error false => setStatus 0

def runFor (e : Engine) (watched : Bool) (name : String) (body : Script) : List String → Act Unit
  | [] => pure ()
  | word :: rest => do
    assign name word.toList
    match ← runTurn (e.run body watched) with
    | .ok () => runFor e watched name body rest
    | .error goesOn => do
      setStatus 0
      if goesOn then runFor e watched name body rest

/-- Runs the first case whose patterns the text fits. -/
def runCases (e : Engine) (watched : Bool) (text : List Char) :
    List (List Word × Script) → Act Unit
  | [] => setStatus 0
  | (patterns, body) :: rest => do
    if ← patterns.anyM fun pattern => return (← expandPattern e pattern).fits text then
      e.run body watched
    else runCases e watched text rest

/-- Runs commands one after the other, each of which reads what the one before it wrote. -/
def runPipeline (e : Engine) (watched : Bool) : List Script → Act Unit
  | [] => pure ()
  | [last] => inSubshell e (e.run last watched)
  | first :: rest => do
    let bytes ← capture (inSubshell e (e.run first watched))
    let s ← get
    let (world, c) := s.world.openFile ⟨.text bytes, 0, false⟩
    set { s with world }
    underWiring (s.wiring.connect 0 c) (runPipeline e watched rest)

/-- Begins a job in the background, which has no input and cannot be interrupted. -/
def beginJob (body : Script) : Act Unit := do
  let s ← get
  let process := s.world.lastProcess + 1
  let frame := { s.toFrame with
    wiring := s.wiring.connect 0 .nowhere
    traps := [(2, ""), (3, "")] ++ s.ignoringTraps
    own := process, ancestors := s.own :: s.ancestors }
  let job : Job := ⟨process, 0, none, s.world.clock, some (body, frame)⟩
  set { s with
    world := { s.world with lastProcess := process }
    jobs := s.jobs ++ [job] }
  setStatus 0

/-- A job after it was run, the world that it leaves, and when that is. -/
structure Finished where
  job : Job
  world : World
  time : Nat

/-- Runs a job to its end in a world of its own. -/
def finishJob (e : Engine) (job : Job) (body : Script) (frame : Frame) : Act Finished := do
  let before ← get
  set (State.mk frame { before.world with clock := job.begun } [])
  let signal ← toEnd e do
    heedSignals
    e.run body false
  let after ← get
  set before
  let ended := { job with
    status := signal.elim after.status (128 + ·), signal, waiting := none }
  return ⟨ended, after.world, after.world.clock⟩

/-- The one of two jobs that ended first. -/
def Finished.first (f : Finished) : Option Finished → Finished
  | some other => if other.time ≤ f.time then other else f
  | none => f

def firstFinished (e : Engine) : List Job → Option Finished → Act (Option Finished)
  | [], found => return found
  | job :: rest, found => do
    match job.waiting with
    | some (body, frame) => do
      let f ← finishJob e job body frame
      firstFinished e rest (some (f.first found))
    | none => firstFinished e rest found

/-- Runs the jobs in the background, the ones that end first before the others: all of them, or
those that end before now. A job leaves nothing before its end. -/
def runJobs (e : Engine) (all : Bool) : Nat → Act Unit
  | 0 => pure ()
  | n + 1 => do
    let s ← get
    match ← firstFinished e s.jobs none with
    | none => pure ()
    | some f =>
      if all || f.time ≤ s.world.clock then do
        set { s with
          world := { f.world with clock := max s.world.clock f.time }
          jobs := s.jobs.map fun (job : Job) => if job.process = f.job.process then f.job else job }
        runJobs e all n

/-- Runs a script, whose parts are run by the engine. -/
def runScript (e : Engine) (script : Script) (watched : Bool) : Act Unit := do
  if (← get).hasOption 'n' then return
  match script with
  | .nothing => setStatus 0
  | .simple line assignments words redirections => do
    runSimple e watched line assignments words redirections
    answerSignals e
    settle watched
  | .sequence first second => do
    e.run first watched
    e.run second watched
  | .both first second => do
    e.run first true
    if (← get).status = 0 then e.run second watched
  | .either first second => do
    e.run first true
    if (← get).status ≠ 0 then e.run second watched
  | .negation body => do
    e.run body true
    setStatus (if (← get).status = 0 then 1 else 0)
  | .pipeline commands => do
    runPipeline e watched commands
    answerSignals e
    settle watched
  | .background body => beginJob body
  | .redirected line body redirections => do
    modify fun s => { s with line }
    underRedirections e redirections (e.run body watched)
    settle watched
  | .subshell line body redirections => do
    modify fun s => { s with line }
    inSubshell e (underRedirections e redirections (e.run body watched))
    answerSignals e
    settle watched
  | .choice condition yes no => do
    e.run condition true
    if (← get).status = 0 then e.run yes watched else e.run no watched
  | .repetition untilSuccess condition body => do
    repeatScript e watched untilSuccess condition body maxTurns 0
  | .loop line name words body => do
    modify fun s => { s with line }
    let words ← words.mapM (expand e)
    setStatus 0
    runFor e watched name body words.flatten
  | .selection line subject cases => do
    modify fun s => { s with line }
    runCases e watched (← expandText e subject) cases
  | .function name body => do
    modify fun s => { s with functions := (name, body) :: s.functions.filter fun f => f.1 ≠ name }
    setStatus 0

/-! ### Reading and running -/

/-- Reads a script line by line, and runs each line before the next one is read. Lines are shown
before they are run if `shows` allows that. The flag `any` tells that something was run. -/
def runLines (run : Script → Bool → Act Unit) (watched shows : Bool) :
    Nat → Bool → Source → Act Unit
  | 0, _, _ => pure ()
  | n + 1, any, source => do
    match (readLine (contextFor source)).run source with
    | .error error => do
      modify fun s => { s with line := error.line }
      refuse error.message
    | .ok (script, after) => do
      modify fun s => { s with
        documents := s.documents ++ after.documents, nextDocument := after.nextDocument }
      if shows && (← get).hasOption 'v' then
        emit 2 (encode (source.rest.take (source.rest.length - after.rest.length)))
      match script with
      | none => if !any then setStatus 0
      | some script => do
        let isCommand := !script matches .nothing
        if isCommand then run script watched
        runLines run watched shows n (any || isCommand)
          { after with documents := [], aliases := (← get).aliases }

/-- Runs all lines of a script. -/
def runText (run : Script → Bool → Act Unit) (watched shows : Bool) (text : List Char) :
    Act Unit := do
  let s ← get
  runLines run watched shows (text.length + 2) false (.ofChars text s.nextDocument s.aliases)

/-- The engine of a shell in which scripts are nested down to a depth. A script that is nested too
deeply ends the shell as a lack of memory does. -/
def engineAt (start : Starter) (locate : State → String → Option String) : Nat → Engine
  | 0 =>
    { run _ _ := throw (.died 11)
      interpret _ _ := pure ()
      load _ := pure ()
      complete _ := pure ()
      start
      locate }
  | depth + 1 =>
    let run (script : Script) (watched : Bool) : Act Unit :=
      runScript (engineAt start locate depth) script watched
    { run
      interpret text watched := runText run watched false text
      load text := runText run false true text
      complete all := do runJobs (engineAt start locate depth) all (← get).jobs.length
      start
      locate }

/-- How deep scripts may be nested while they run. -/
def maxDepth : Nat := 12000

def engine (start : Starter) (locate : State → String → Option String) : Engine :=
  engineAt start locate maxDepth

end TileBench.Shell
