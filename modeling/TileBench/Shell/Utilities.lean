import TileBench.Shell.Format
import TileBench.Shell.World

/-!
# Utilities

The programs of the system that a script may start besides the shell. Most of them are known by the
options that they take alone, because what a launch asks of them is none of those.
-/

namespace TileBench.Shell

open Text Launcher

/-- What a program leaves in the world, with its exit code. -/
abbrev Result := UInt8 × World

def World.writeTo (w : World) (wiring : Wiring) (descriptor : Nat) (bytes : Bytes) : World :=
  match wiring.channel? descriptor with
  | some c => w.write c bytes
  | none => w

def failWith (i : Inherited) (w : World) (code : UInt8) (message : String) : Result :=
  (code, w.writeTo i.wiring 2 (bytesOf (message ++ "\n")))

/-! ### Echo -/

structure EchoStyle where
  lineEnd : Bool
  escapes : Bool
  deriving DecidableEq

/-- Reads the options of `echo`, which are those of its letters alone. -/
def EchoStyle.read (style : EchoStyle) : List String → EchoStyle × List String
  | [] => (style, [])
  | arg :: rest =>
    match arg.toList with
    | '-' :: c :: flags =>
      if (c :: flags).all fun c => c = 'n' || c = 'e' || c = 'E' then
        EchoStyle.read
          ((c :: flags).foldl (fun style c =>
            if c = 'n' then { style with lineEnd := false }
            else { style with escapes := c == 'e' }) style) rest
      else (style, arg :: rest)
    | _ => (style, arg :: rest)

/-- The program that prints its arguments. -/
def echoProgram (i : Inherited) (args : List String) (w : World) : Result :=
  let (style, rest) := EchoStyle.read ⟨true, false⟩ args
  let text := (" ".intercalate rest).toList
  let (bytes, goesOn) := if style.escapes then escapedBytes .program text else (encode text, true)
  (0, w.writeTo i.wiring 1 (if goesOn && style.lineEnd then bytes ++ [0x0a] else bytes))

/-! ### Options -/

/-- The options of a utility. -/
structure Utility where
  name : String
  /-- The letters of its options. -/
  flags : List Char
  /-- The letters of its options that have an argument. -/
  valued : List Char
  /-- Do the options end at the first argument that is none? -/
  strict : Bool
  /-- The exit code for an option that does not exist. -/
  code : UInt8
  deriving DecidableEq

namespace Utility

/-- The first letter that is no option; and does an option take the next argument? -/
def badLetter? (u : Utility) : List Char → Option Char × Bool
  | [] => (none, false)
  | c :: rest =>
    if u.flags.contains c then u.badLetter? rest
    else if u.valued.contains c then (none, rest.isEmpty)
    else (some c, false)

/-- What is wrong with the options among some arguments. -/
def complaint? (u : Utility) : List String → Option String
  | [] => none
  | arg :: rest =>
    match arg.toList with
    | ['-'] => if u.strict then none else u.complaint? rest
    | ['-', '-'] => none
    | '-' :: '-' :: _ => some ("unrecognized option '" ++ arg ++ "'")
    | '-' :: letters =>
      match u.badLetter? letters with
      | (some c, _) => some ("invalid option -- '" ++ String.ofList [c] ++ "'")
      | (none, true) =>
        match rest with
        | _ :: rest => u.complaint? rest
        | [] =>
          let last := letters.drop (letters.length - 1)
          some ("option requires an argument -- '" ++ String.ofList last ++ "'")
      | (none, false) => u.complaint? rest
    | _ => if u.strict then none else u.complaint? rest

def refuse (u : Utility) (i : Inherited) (w : World) (complaint : String) : Result :=
  failWith i w u.code
    (u.name ++ ": " ++ complaint ++ "\nTry '" ++ u.name ++ " --help' for more information.")

/-- A utility whose options may stand everywhere. -/
def loose (name flags valued : String) (code : UInt8) : Utility :=
  ⟨name, flags.toList, valued.toList, false, code⟩

/-- The utilities by their options. -/
def all : List Utility :=
  [loose "basename" "az" "s" 1, loose "cat" "benstuvAET" "" 1, loose "chgrp" "cfvRHLPh" "" 1,
    loose "cksum" "aclbutwz" "l" 1, loose "comm" "123z" "" 1, loose "date" "uR" "dfIrs" 1,
    loose "dirname" "z" "" 1, ⟨"env", "iv0".toList, "CSu".toList, true, 125⟩,
    loose "groups" "" "" 1, loose "hostid" "" "" 1, loose "id" "agnruzGZ" "" 1,
    loose "ln" "bdfinrsvFLPT" "tS" 1, loose "md5sum" "bctwz" "" 1, loose "mkdir" "pvZ" "m" 1,
    loose "mkfifo" "Z" "m" 1, loose "mv" "bfinuvTZ" "tS" 1, loose "pwd" "LP" "" 1,
    loose "realpath" "eELmPqsz" "" 1, loose "rm" "dfirvIR" "" 1, loose "rmdir" "pv" "" 1,
    ⟨"seq", "w".toList, "fs".toList, true, 1⟩, loose "sleep" "" "" 1, loose "stat" "fLt" "cp" 1,
    loose "sync" "df" "" 1, loose "tac" "br" "s" 1, loose "tee" "aip" "" 1,
    loose "touch" "achfm" "drt" 1, loose "tsort" "" "" 1, loose "tty" "s" "" 2,
    loose "unlink" "" "" 1, loose "link" "" "" 1, loose "wc" "clLmw" "" 1, loose "whoami" "" "" 1,
    ⟨"yes", [], [], false, 1⟩]

def find? (name : String) : Option Utility := all.find? fun u => u.name = name

end Utility

/-! ### Utilities that are run -/

/-- Prints files one after the other, or what is read if there are none. -/
def catFiles (i : Inherited) : List String → UInt8 → World → Result
  | [], code, w => (code, w)
  | path :: rest, code, w =>
    if path = "-" then
      let c := (i.wiring.channel? 0).getD .nowhere
      let bytes := w.pending c
      catFiles i rest code ((w.advance c bytes.length).writeTo i.wiring 1 bytes)
    else
      match w.store.read (seenFrom w.store i.here path) with
      | .ok bytes => catFiles i rest code (w.writeTo i.wiring 1 bytes)
      | .error cause =>
        catFiles i rest 1 (failWith i w 1 ("cat: " ++ path ++ ": " ++ cause.text)).2

/-- The arguments that are no options. -/
def operands (args : List String) : List String :=
  let front := args.takeWhile (· ≠ "--")
  (front.filter fun arg => !arg.startsWith "-" || arg = "-") ++ (args.drop front.length).drop 1

/-- The seconds that a letter stands for. -/
def secondsOf? : Char → Option Nat
  | 's' => some 1
  | 'm' => some 60
  | 'h' => some 3600
  | 'd' => some 86400
  | _ => none

/-- Longer than anything is waited for, in milliseconds. -/
def longTime : Nat := 1000000000000

/-- The milliseconds that a text means: a number, and a letter for its unit. -/
def interval? (s : List Char) : Option Nat := do
  let unit := s.getLast?.bind secondsOf?
  let number := if unit.isSome then s.dropLast else s
  let seconds := unit.getD 1
  match Decimal.decimal? number with
  | some (m, e) =>
    let scaled : Nat := match e + 3 with
      | .ofNat k => if 20 < k && m ≠ 0 then longTime else m * seconds * Nat.pow 10 k
      | .negSucc k => if 20 < k then 0 else m * seconds / Nat.pow 10 (k + 1)
    return min scaled longTime
  | none => do
    let _ ← Decimal.word? number
    return longTime

def sleepProgram (i : Inherited) (args : List String) (w : World) : Result :=
  let advice := "\nTry 'sleep --help' for more information."
  let times := operands args
  match times, times.filter fun arg => (interval? arg.toList).isNone with
  | [], _ => failWith i w 1 ("sleep: missing operand" ++ advice)
  | _, [] =>
    (0, { w with clock := times.foldl (fun t arg => t + (interval? arg.toList).getD 0) w.clock })
  | _, wrong =>
    failWith i w 1 ("\n".intercalate
      (wrong.map fun arg => "sleep: invalid time interval '" ++ arg ++ "'") ++ advice)

def catProgram (i : Inherited) (args : List String) (w : World) : Result :=
  let paths := operands args
  catFiles i (if paths.isEmpty then ["-"] else paths) 0 w

end TileBench.Shell
