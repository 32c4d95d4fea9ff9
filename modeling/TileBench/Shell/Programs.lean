import TileBench.Shell.Run
import TileBench.Shell.Utilities

/-!
# The programs

A name without a slash is looked for in the directories of the search path. A path leads to one of
the programs of the system, or to a file of the store, which has to be executable and to name its
interpreter on its first line. The interpreter is a path as well.

A program may start others, down to a fixed depth.
-/

namespace TileBench.Shell

open Text Launcher

/-! ### The shell -/

/-- The state in which a shell begins. -/
def State.initial (i : Inherited) (options : List Char) (name : String) (args : List String)
    (w : World) : State where
  world := { w with lastProcess := w.lastProcess + 1 }
  wiring := i.wiring
  here := i.here
  directory := fullPath i.here
  name := name
  args := args
  bindings :=
    [⟨"IFS", some [' ', '\t', '\n'], false, false⟩, ⟨"OPTIND", some ['1'], false, false⟩,
      ⟨"PS4", some ['+', ' '], false, false⟩, ⟨"PWD", some (fullPath i.here).toList, false, false⟩,
      ⟨"PPID", some (toString (i.ancestors.headD 1)).toList, false, false⟩]
      ++ ((i.environment.filter fun v => isName v.1.toList && v.1 ≠ "IFS").map fun v =>
        ⟨v.1, some v.2, true, false⟩)
  functions := []
  aliases := []
  documents := []
  nextDocument := 0
  saved := []
  status := 0
  outputStatus := 0
  options := options
  traps := i.ignored.map fun signal => (signal, "")
  trapStatus := none
  process := w.lastProcess + 1
  own := w.lastProcess + 1
  ancestors := i.ancestors
  jobs := []
  line := 0
  command := none
  lost := false
  loops := 0
  calls := 0
  mask := 18
  optionOffset := 0

/-- Runs a script with a name and arguments, in a shell that is told what to run. -/
def runShell (e : Engine) (i : Inherited) (options : List Char) (name : String) (args : List String)
    (w : World) (act : Act Unit) : ExitStatus × World :=
  let begun : Act Unit := do
    if options.contains 'm' || options.contains 'i' then complain noTerminal
    act
  let (signal, s) :=
    (ExceptT.run (toEnd e begun)).run (.initial i (options.filter (· ≠ 'm')) name args w)
  match signal with
  | .ok (some signal) | .error (.died signal) => (.signal signal, s.world)
  | _ => (.code (UInt8.ofNat s.status), s.world)

/-- What a shell leaves that cannot begin. -/
def refuseStart (i : Inherited) (name message : String) (w : World) : ExitStatus × World :=
  (.code 2, w.writeTo i.wiring 2 (bytesOf (name ++ ": 0: " ++ message ++ "\n")))

def shell (e : Engine) (i : Inherited) (name : String) (args : List String) (w : World) :
    ExitStatus × World :=
  let change := readSettings ('c' :: 'l' :: optionLetters) [] args
  let w := w.writeTo i.wiring 1 (bytesOf change.shown)
  match change.wrong with
  | some option => refuseStart i name ("Illegal option " ++ option) w
  | none =>
    let options := change.letters.filter fun c => c ≠ 'c' && c ≠ 'l'
    if change.letters.contains 'c' then
      match change.rest with
      | [] => refuseStart i name "-c requires an argument" w
      | script :: rest =>
        runShell e i options (rest.headD name) rest.tail w (e.interpret script.toList false)
    else
      match if options.contains 's' then [] else change.rest with
      | [] =>
        let c := (i.wiring.channel? 0).getD .nowhere
        let bytes := w.pending c
        runShell e i ('s' :: options) name change.rest (w.advance c bytes.length)
          (e.load (decodeLossy bytes))
      | path :: args =>
        match w.store.read (seenFrom w.store i.here path) with
        | .ok bytes => runShell e i options path args w (e.load (decodeLossy bytes))
        | .error .isDirectory => (.code 0, w)
        | .error cause => refuseStart i name (openError false path cause) w

/-! ### Finding a program -/

inductive Program where
  | echo
  | cat
  | env
  | sleep
  | succeed
  | fail
  | shell
  | utility (u : Utility)
  /-- A file that names its interpreter, with an argument for that. -/
  | script (interpreter : String) (arg : Option String)
  deriving DecidableEq

namespace Program

/-- The programs of the system by name. -/
def named? (name : String) : Option Program :=
  match name with
  | "echo" => some .echo
  | "cat" => some .cat
  | "env" => some .env
  | "sleep" => some .sleep
  | "true" => some .succeed
  | "false" => some .fail
  | "sh" | "dash" | "bash" => some .shell
  | _ => (Utility.find? name).map .utility

/-- The directories of the system in which the programs are. -/
def systemDirectories : List String := ["/bin/", "/usr/bin/"]

/-- The program of a path in a directory of the system. -/
def system? (path : String) : Option Program :=
  systemDirectories.findSome? fun dir =>
    if dir.toList.isPrefixOf path.toList then named? (String.ofList (path.toList.drop dir.length))
    else none

/-- The bytes at the front of a file in which the interpreter is looked for. -/
def headSize : Nat := 256

def isGap (b : UInt8) : Bool := b == 0x20 || b == 0x09

/-- Drops the blanks at the end. -/
def dropGaps (bytes : Bytes) : Bytes := (bytes.reverse.dropWhile isGap).reverse

/-- The interpreter that a file names on its first line, and an argument for it. A line that does
not end in the front of the file is cut there, but not within the name. -/
def ofFile? (contents : Bytes) : Option Program :=
  match (contents.take headSize).takeWhile (· ≠ 0) with
  | 0x23 :: 0x21 :: head =>
    let front := head.takeWhile (· ≠ 0x0a)
    let ended := front.length < head.length
    let line := (if ended then dropGaps front else front).dropWhile isGap
    let name := line.takeWhile fun b => !isGap b
    let arg := (line.drop name.length).dropWhile isGap
    let isCut := !ended && head.length + 2 = headSize
    if name.isEmpty || (isCut && name.length = line.length) then none
    else
      let text (bytes : Bytes) : String := String.ofList (decodeLossy bytes)
      let arg := if arg.isEmpty then none else some (text (if isCut then arg.dropLast else arg))
      some (.script (text name) arg)
  | _ => none

def atPath (i : Inherited) (store : Store) (path : String) : Except FileError Program :=
  match system? path with
  | some program => .ok program
  | none =>
    match store.find (seenFrom store i.here path) with
    | .error cause => .error cause
    | .ok (.free _) => .error .notFound
    | .ok (.taken _ (.file contents true)) => (ofFile? contents).elim (.error .notExecutable) .ok
    | .ok _ => .error .permissionDenied

/-- Finds the program of a name or a path, and the path of it. A file that may not be run counts
only if no other one is found. -/
def find (i : Inherited) (store : Store) (name : String) : Except FileError (Program × String) :=
  if name.toList.contains '/' then (atPath i store name).map fun program => (program, name)
  else if name.isEmpty then .error .notFound
  else
    let tries := (searchCandidates i.searchPath name).map fun path =>
      (atPath i store path).map fun program => (program, path)
    match tries.find? fun result => match result with
      | .ok _ | .error .notExecutable => true
      | .error _ => false with
    | some (.ok (program, path)) =>
      .ok (program, match program with | .script .. => path | _ => name)
    | some (.error cause) => .error cause
    | none =>
      if name = "." || name = ".." || tries.any fun result => match result with
        | .error .permissionDenied => true
        | _ => false then .error .permissionDenied
      else .error .notFound

end Program

def locateProgram (s : State) (name : String) : Option String :=
  if name.toList.contains '/' then some name
  else (searchCandidates s.searchPath name).find? fun path =>
    match Program.atPath s.inherited s.world.store path with
    | .ok _ | .error .notExecutable => true
    | .error _ => false

/-! ### Environments -/

/-- What the arguments of `env` ask for. -/
structure EnvRequest where
  environment : List (String × List Char)
  command : List String

/-- Reads the options and assignments in front of a command. -/
def EnvRequest.read : Nat → EnvRequest → EnvRequest
  | 0, r => r
  | n + 1, r =>
    match r.command with
    | [] => r
    | arg :: rest =>
      match arg.toList with
      | ['-'] | ['-', 'i'] => EnvRequest.read n ⟨[], rest⟩
      | ['-', '-'] => EnvRequest.read n { r with command := rest }
      | ['-', 'u'] =>
        EnvRequest.read n ⟨r.environment.filter fun v => some v.1 ≠ rest.head?, rest.tail⟩
      | ['-', 'S'] =>
        match rest with
        | text :: rest =>
          EnvRequest.read n { r with command := (words text.toList).map String.ofList ++ rest }
        | [] => r
      | '-' :: 'S' :: text =>
        EnvRequest.read n { r with command := (words text).map String.ofList ++ rest }
      | s =>
        match splitOnce '=' s with
        | some (name, value) =>
          let name := String.ofList name
          EnvRequest.read n
            ⟨(r.environment.filter fun v => v.1 ≠ name) ++ [(name, value)], rest⟩
        | none => r

/-- The program that starts another one in an environment of its own. -/
def envProgram (start : Starter) (i : Inherited) (args : List String) (w : World) :
    ExitStatus × World :=
  let request := EnvRequest.read (2 * args.length + 2) ⟨i.environment, args⟩
  let failed (result : Result) : ExitStatus × World := (.code result.1, result.2)
  match request.command with
  | [] =>
    let lines := request.environment.map fun v => v.1 ++ "=" ++ String.ofList v.2 ++ "\n"
    (.code 0, w.writeTo i.wiring 1 (bytesOf (String.join lines)))
  | name :: args =>
    let given := request.environment.find? fun v => v.1 = "PATH"
    let searchPath := (given.map (·.2)).getD i.searchPath
    match start { i with environment := request.environment, searchPath } name args w with
    | .ok result => result
    | .error cause =>
      let missing := cause matches .notFound
      let advice := if missing && name.toList.any isSpace then
          "\nenv: use -[v]S to pass options in shebang lines" else ""
      failed (failWith i w (if missing then 127 else 126)
        ("env: '" ++ name ++ "': " ++ cause.text ++ advice))

/-! ### Starting -/

/-- How deep programs may start others. -/
def maxProcesses : Nat := 64

/-- How often an interpreter may be a script itself. -/
def maxInterpreters : Nat := 5

def Program.run (start : Starter) (i : Inherited) (name : String) (args : List String) (w : World) :
    Program → ExitStatus × World
  | .echo => finish (echoProgram i args w)
  | .cat => utility (Utility.find? "cat") fun _ => finish (catProgram i args w)
  | .env => utility (Utility.find? "env") fun _ => envProgram start i args w
  | .sleep => utility (Utility.find? "sleep") fun _ => finish (sleepProgram i args w)
  | .succeed => finish (0, w)
  | .fail => finish (1, w)
  | .shell => TileBench.Shell.shell (engine start locateProgram) i name args w
  | .utility u => utility (some u) fun _ => finish (0, w)
  | .script .. => finish (0, w)
where
  /-- A program that ends with a code. -/
  finish (result : Result) : ExitStatus × World := (.code result.1, result.2)
  /-- Runs a utility unless its options are wrong. -/
  utility (u : Option Utility) (act : Unit → ExitStatus × World) : ExitStatus × World :=
    match u.bind fun u => (u.complaint? args).map fun complaint => u.refuse i w complaint with
    | some result => finish result
    | none => act ()

/-- Starts a program that was found. An interpreter is started in place of its script. -/
def startFound (start : Starter) (i : Inherited) : Nat → Program → String → List String → World →
    Except FileError (ExitStatus × World)
  | interpreters, .script interpreter arg, path, args, w =>
    match interpreters with
    | 0 => .error .tooManyLinks
    | interpreters + 1 => do
      let program ← Program.atPath i w.store interpreter
      startFound start i interpreters program interpreter (arg.toList ++ path :: args) w
  | _, program, name, args, w => .ok (program.run start i name args w)

def start : Nat → Starter
  | 0, _, _, _, _ => .error .tooManyProcesses
  | depth + 1, i, name, args, w =>
    if (name :: args).any fun arg => arg.toList.contains '\x00' then .error .nulInArgument
    else do
      let (program, path) ← Program.find i w.store name
      startFound (start depth) i maxInterpreters program path args w

/-! ### The first process -/

/-- The directories in which programs are looked for. -/
def standardSearchPath : String :=
  "/usr/local/sbin:/usr/local/bin:/usr/sbin:/usr/bin:/sbin:/bin"

/-- What the first process gets in its working directory. -/
def standardInheritance (here : Place) : Inherited :=
  ⟨.standard, [("PATH", standardSearchPath.toList)], standardSearchPath.toList, here, [], []⟩

/-- Each program is the first process of a system of its own, which finds the files as they are. -/
def programs : Programs := fun name args store => do
  let (status, w) ← start maxProcesses (standardInheritance store.cwd) name args (.ofStore store)
  return ⟨status, w.written.toList, w.store⟩

end TileBench.Shell
