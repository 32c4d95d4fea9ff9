import TileBench.Shell.State

/-!
# Conditions

A condition is a list of words: texts, comparisons of two of them, tests of one, joined by `-a` and
`-o` and turned round by an exclamation mark. Whether a word is an operator depends on what follows
it, so that a text which looks like one can be compared.
-/

namespace TileBench.Shell

open Text

/-! ### Tests -/

def unaryTests : List String :=
  ["-r", "-w", "-x", "-e", "-f", "-d", "-c", "-b", "-p", "-u", "-g", "-k", "-s", "-t", "-z", "-n",
    "-h", "-O", "-G", "-L", "-S"]

def comparisons : List String :=
  ["=", "!=", "<", ">", "-eq", "-ne", "-gt", "-ge", "-lt", "-le", "-nt", "-ot", "-ef"]

/-- The files as a shell sees them from its working directory. -/
structure FileView where
  store : Store
  here : Place

namespace FileView

def spot? (s : FileView) (path : String) : Option Store.Spot :=
  match s.store.find (seenFrom s.store s.here path) with
  | .ok (.taken place entry) => some (.taken place entry)
  | _ => none

def isLink (s : FileView) (path : String) : Bool :=
  let steps := Store.names (seenFrom s.store s.here path)
  match s.store.follow (seenFrom s.store s.here path) steps.dropLast, steps.getLast? with
  | .ok (.taken here .directory), some name =>
    match s.store.entryAt? (here ++ [name]) with
    | some (.link _) => true
    | _ => false
  | _, _ => false

end FileView

/-- The file that gives nothing and takes everything. -/
def nullDevice : String := "/dev/null"

def testOne (s : FileView) (test word : String) : Bool :=
  match test with
  | "-z" => word.isEmpty
  | "-n" => !word.isEmpty
  | "-t" | "-b" | "-p" | "-u" | "-g" | "-k" | "-S" => false
  | "-c" => word == nullDevice
  | "-h" | "-L" => s.isLink word
  | "-d" =>
    match s.spot? word with
    | some (.taken _ .directory) => true
    | _ => false
  | "-f" =>
    match s.spot? word with
    | some (.taken _ (.file ..)) => true
    | some (.taken _ (.sealed regular)) => regular
    | _ => false
  | "-s" =>
    match s.spot? word with
    | some (.taken _ (.file contents _)) => !contents.isEmpty
    | some _ => true
    | none => false
  | "-x" =>
    match s.spot? word with
    | some (.taken _ (.file _ executable)) => executable
    | some (.taken _ (.sealed _)) => false
    | some _ => true
    | none => false
  | "-r" | "-w" =>
    match s.spot? word with
    | some (.taken _ (.sealed _)) => false
    | some _ => true
    | none => word == nullDevice
  | _ => (s.spot? word).isSome || word == nullDevice

/-- Reads a whole number. Blanks may surround it. -/
def conditionNumber (word : String) : Except String Int :=
  let s := word.toList.dropWhile isBlankSign
  match integer? signed64Limit (s.reverse.dropWhile isBlankSign).reverse with
  | some n => .ok n
  | none => .error ("Illegal number: " ++ word)
where
  /-- Is it a blank around a number? -/
  isBlankSign (c : Char) : Bool := c == ' ' || ('\t' ≤ c && c ≤ '\x0d')

/-- Compares two words. Nothing is known about the age of files, so none is newer or older. -/
def compareWords (s : FileView) (a op b : String) : Except String Bool := do
  let numbers (f : Int → Int → Bool) : Except String Bool := do
    return f (← conditionNumber a) (← conditionNumber b)
  match op with
  | "=" => return a == b
  | "!=" => return a != b
  | "<" => return decide (a < b)
  | ">" => return decide (b < a)
  | "-eq" => numbers fun a b => a == b
  | "-ne" => numbers fun a b => a != b
  | "-gt" => numbers fun a b => b < a
  | "-ge" => numbers fun a b => b ≤ a
  | "-lt" => numbers fun a b => a < b
  | "-le" => numbers fun a b => a ≤ b
  | "-ef" => return (s.spot? a).isSome && s.spot? a == s.spot? b
  | _ => return false

/-! ### Reading -/

/-- What a word is at its place. -/
inductive Role where
  | finished
  | operand
  | unary
  | comparison
  | negation
  | conjunction
  | disjunction
  | opening
  | closing
  deriving DecidableEq

def roleOf : List String → Role
  | [] => .finished
  | word :: rest =>
    if unaryTests.contains word then
      match rest with
      | [] => .operand
      | next :: _ :: _ => if comparisons.contains next then .operand else .unary
      | _ => .unary
    else if comparisons.contains word then .comparison
    else
      match word, rest with
      | "!", _ => .negation
      | "-a", _ => .conjunction
      | "-o", _ => .disjunction
      | "(", [] => .operand
      | "(", _ => .opening
      | ")", _ => .closing
      | _, _ => .operand

/-- A truth value, and the words from the last one on that was used for it. -/
abbrev Judged := Bool × List String

/-- The parts of a condition, from the outside to the inside. -/
inductive Clause where
  | disjunction
  | conjunction
  | negation
  | primary

/-- Judges a part of a condition that starts with a role. -/
def judge (s : FileView) : Nat → Clause → Role → List String → Except String Judged
  | 0, _, _, words => .ok (false, words)
  | n + 1, clause, role, words =>
    match clause with
    | .disjunction => do
      let (first, words) ← judge s n .conjunction role words
      if roleOf words.tail = .disjunction then do
        let rest := words.drop 2
        let (second, words) ← judge s n .disjunction (roleOf rest) rest
        return (first || second, words)
      else return (first, words)
    | .conjunction => do
      let (first, words) ← judge s n .negation role words
      if roleOf words.tail = .conjunction then do
        let rest := words.drop 2
        let (second, words) ← judge s n .conjunction (roleOf rest) rest
        return (first && second, words)
      else return (first, words)
    | .negation =>
      if role = .negation then do
        let next := roleOf words.tail
        let rest := if next = .finished then words else words.tail
        let (value, words) ← judge s n .negation next rest
        return (!value, words)
      else judge s n .primary role words
    | .primary =>
      match role, words with
      | .finished, words => return (false, words)
      | .opening, words => do
        let next := roleOf words.tail
        if next = .closing then return (false, words.tail)
        else do
          let (value, words) ← judge s n .disjunction next words.tail
          if roleOf words.tail = .closing then return (value, words.tail)
          else throw "closing paren expected"
      | .unary, test :: word :: rest => return (testOne s test word, word :: rest)
      | .unary, [test] => throw (test ++ ": argument expected")
      | _, word :: rest =>
        if roleOf rest = .comparison then
          match rest with
          | op :: other :: rest => return (← compareWords s word op other, other :: rest)
          | [op] => throw (op ++ ": argument expected")
          | [] => return (!word.isEmpty, [word])
        else return (!word.isEmpty, word :: rest)
      | _, [] => return (false, [])

def judgeAll (s : FileView) (role : Role) (words : List String) : Except String Bool := do
  let (value, left) ← judge s (4 * words.length + 8) .disjunction role words
  match left with
  | word :: _ :: _ => throw (word ++ ": unexpected operator")
  | _ => return value

/-- The truth of a condition, or what is wrong with it. A condition of three or four words is read
by its middle one, or by an exclamation mark or parentheses around it. -/
def condition (s : FileView) : List String → Except String Bool
  | [] => .ok false
  | [a, op, b] =>
    if comparisons.contains op then judgeAll s .operand [a, op, b]
    else if a = "(" && b = ")" then judgeAll s (roleOf [op]) [op]
    else if a = "!" then (condition s [op, b]).map (!·)
    else judgeAll s (roleOf [a, op, b]) [a, op, b]
  | [a, b, c, d] =>
    if a = "(" && d = ")" then judgeAll s (roleOf [b, c]) [b, c]
    else if a = "!" then (condition s [b, c, d]).map (!·)
    else judgeAll s (roleOf [a, b, c, d]) [a, b, c, d]
  | words => judgeAll s (roleOf words) words

end TileBench.Shell
