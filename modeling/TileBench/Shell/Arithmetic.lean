import TileBench.Text.Numeral

/-!
# Expressions

Expressions are made of 64-bit signed numbers and variables, with the usual operators and
assignments. They are evaluated as they are read; what stands behind a condition that settles the
value is read without effect.
-/

namespace TileBench.Shell

inductive Symbol where
  | number (n : Int64)
  | named (name : String)
  | operator (text : String)
  | finished
  /-- A character that no expression contains. -/
  | foreign
  deriving DecidableEq

/-! ### Numbers -/

def greatest : Nat := 9223372036854775807

def isOctal (c : Char) : Bool := '0' ≤ c && c ≤ '7'

def isHex (c : Char) : Bool := c.isDigit || ('a' ≤ c && c ≤ 'f') || ('A' ≤ c && c ≤ 'F')

def digitValue (c : Char) : Nat :=
  if c.isDigit then c.toNat - '0'.toNat else c.toLower.toNat - 'a'.toNat + 10

/-- The number of some digits to a base. -/
def ofDigits (base : Nat) (digits : List Char) : Nat :=
  digits.foldl (fun n c => n * base + digitValue c) 0

/-- The value of the digits at the front of a text, to the base that the text shows, and the rest
of it; `none` if there is no digit. -/
def leadingNumber? (s : List Char) : Option (Nat × List Char) :=
  let (base, isDigit, body) : Nat × (Char → Bool) × List Char :=
    match s with
    | '0' :: x :: c :: rest =>
      if (x = 'x' || x = 'X') && isHex c then (16, isHex, c :: rest) else (8, isOctal, s)
    | '0' :: _ => (8, isOctal, s)
    | _ => (10, Char.isDigit, s)
  let digits := body.takeWhile isDigit
  if digits.isEmpty then none else some (ofDigits base digits, body.drop digits.length)

/-- Is it a blank between symbols or around a number? -/
def isSpace (c : Char) : Bool := c == ' ' || ('\t' ≤ c && c ≤ '\x0d')

def splitSign : List Char → Bool × List Char
  | '-' :: s => (true, s)
  | '+' :: s => (false, s)
  | s => (false, s)

/-- The number that the value of a variable denotes. Blanks may surround it, and an empty value
denotes zero. -/
def valueNumber? (s : List Char) : Option Int64 :=
  let (negative, body) := splitSign (s.dropWhile isSpace)
  match leadingNumber? body with
  | some (n, rest) =>
    if rest.all isSpace && n ≤ greatest + (if negative then 1 else 0) then
      some (Int64.ofInt (if negative then -n else n))
    else none
  | none => if s.all isSpace then some 0 else none

/-! ### Symbols -/

/-- The operators, the longer ones first. -/
def expressionOperators : List String :=
  ["<<=", ">>=", "||", "&&", "==", "!=", "<=", ">=", "<<", ">>", "+=", "-=", "*=", "/=", "%=", "&=",
    "^=", "|=", "(", ")", "?", ":", "=", "|", "^", "&", "<", ">", "+", "-", "*", "/", "%", "!", "~"]

def readSymbol (s : List Char) : Symbol × List Char :=
  match s.dropWhile fun c => c == ' ' || c == '\t' || c == '\n' with
  | [] => (.finished, [])
  | c :: s =>
    if c.isDigit then
      match leadingNumber? (c :: s) with
      | some (n, rest) => (.number (Int64.ofNat (min n greatest)), rest)
      | none => (.foreign, [])
    else if c.isAlpha || c == '_' then
      let name := (c :: s).takeWhile fun c => c.isAlphanum || c == '_'
      (.named (String.ofList name), (c :: s).drop name.length)
    else
      match expressionOperators.find? fun op => op.toList.isPrefixOf (c :: s) with
      | some op => (.operator op, (c :: s).drop op.length)
      | none => (.foreign, s)

/-! ### Evaluation -/

/-- Why an expression has no value. -/
inductive ExpressionError where
  /-- The expression is not well formed, or divides by zero. -/
  | malformed (reason : String)
  /-- A variable is no number. -/
  | notNumber (value : String)

/-- What is left of an expression, and the variables. -/
structure Evaluation where
  symbol : Symbol
  rest : List Char
  /-- The assignments, the latest first. -/
  assigned : List (String × Int64)

/-- A step that evaluates a part of an expression. -/
abbrev Evaluator := StateT Evaluation (Except ExpressionError)

namespace Evaluator

def fail {α : Type} (reason : String) : Evaluator α := throw (.malformed reason)

/-- Goes on to the next symbol. -/
def advance : Evaluator Unit := modify fun e =>
  let (symbol, rest) := readSymbol e.rest
  { e with symbol, rest }

/-- Skips an operator, and tells whether it was there. -/
def skipOperator (op : String) : Evaluator Bool := do
  if (← get).symbol = .operator op then do
    advance
    return true
  else return false

end Evaluator

open Evaluator

/-- How tightly an operator between two numbers binds, the tightest first. -/
def precedence? : String → Option Nat
  | "*" | "/" | "%" => some 0
  | "+" | "-" => some 1
  | "<<" | ">>" => some 2
  | "<" | "<=" | ">" | ">=" => some 3
  | "==" | "!=" => some 4
  | "&" => some 5
  | "^" => some 6
  | "|" => some 7
  | _ => none

def truth (b : Bool) : Int64 := if b then 1 else 0

def applyOperator (op : String) (a b : Int64) : Evaluator Int64 :=
  match op with
  | "*" => return a * b
  | "/" => if b = 0 then fail "division by zero" else return a / b
  | "%" => if b = 0 then fail "division by zero" else return a % b
  | "+" => return a + b
  | "-" => return a - b
  | "<<" => return a <<< b
  | ">>" => return a >>> b
  | "<" => return truth (a < b)
  | "<=" => return truth (a ≤ b)
  | ">" => return truth (b < a)
  | ">=" => return truth (b ≤ a)
  | "==" => return truth (a == b)
  | "!=" => return truth (a != b)
  | "&" => return a &&& b
  | "^" => return a ^^^ b
  | _ => return a ||| b

/-- The value of a variable, which `lookup` knows unless it was assigned before. -/
def variableNumber (lookup : String → List Char) (name : String) : Evaluator Int64 := do
  match (← get).assigned.find? fun entry => entry.1 = name with
  | some entry => return entry.2
  | none =>
    match valueNumber? (lookup name) with
    | some n => return n
    | none => throw (.notNumber (String.ofList (lookup name)))

/-- The operator in front of an equals sign, if the symbol is an assignment. -/
def assignmentOperator? : Symbol → Option String
  | .operator "=" => some ""
  | .operator op =>
    if ["<<=", ">>=", "+=", "-=", "*=", "/=", "%=", "&=", "^=", "|="].contains op then
      some (String.ofList op.toList.dropLast)
    else none
  | _ => none

/-- What an expression consists of, from the outside to the inside. -/
inductive Part where
  | assignment
  | condition
  | disjunction
  | conjunction
  /-- Operators that bind at least as tightly as a precedence. -/
  | operation (loosest : Nat)
  | primary

/-- Evaluates operators behind a number, as far as they bind tightly enough. -/
def operateFrom (operand : Nat → Evaluator Int64) (loosest : Nat) (skips : Bool) :
    Nat → Int64 → Evaluator Int64
  | 0, a => return a
  | n + 1, a => do
    match (← get).symbol with
    | .operator op =>
      match precedence? op with
      | some p =>
        if p ≤ loosest then do
          advance
          let b ← operand p
          let value ← if skips then pure b else applyOperator op a b
          operateFrom operand loosest skips n value
        else return a
      | none => return a
    | _ => return a

/-- Evaluates a part of an expression. `skips` tells that the value does not matter. -/
def evaluatePart (lookup : String → List Char) : Nat → Part → Bool → Evaluator Int64
  | 0, _, _ => fail "expecting primary"
  | n + 1, part, skips =>
    let inner (part : Part) (skips : Bool) : Evaluator Int64 := evaluatePart lookup n part skips
    match part with
    | .assignment => do
      let e ← get
      match e.symbol with
      | .named name =>
        match assignmentOperator? (readSymbol e.rest).1 with
        | some op => do
          advance
          advance
          let b ← inner .assignment skips
          if skips then return b
          else do
            let value ← if op.isEmpty then pure b
              else do applyOperator op (← variableNumber lookup name) b
            modify fun e => { e with assigned := (name, value) :: e.assigned }
            return value
        | none => inner .condition skips
      | _ => inner .condition skips
    | .condition => do
      let a ← inner .disjunction skips
      if ← skipOperator "?" then do
        let b ← inner .assignment (skips || a == 0)
        if ← skipOperator ":" then do
          let c ← inner .condition (skips || a != 0)
          return if a != 0 then b else c
        else fail "expecting ':'"
      else return a
    | .disjunction => do
      let a ← inner .conjunction skips
      if ← skipOperator "||" then do
        let b ← inner .disjunction (skips || a != 0)
        return truth (a != 0 || b != 0)
      else return a
    | .conjunction => do
      let a ← inner (.operation 7) skips
      if ← skipOperator "&&" then do
        let b ← inner .conjunction (skips || a == 0)
        return truth (a != 0 && b != 0)
      else return a
    | .operation loosest => do
      let a ← inner .primary skips
      let operand (p : Nat) : Evaluator Int64 :=
        match p with
        | 0 => inner .primary skips
        | p + 1 => inner (.operation p) skips
      operateFrom operand loosest skips (n + 1) a
    | .primary => do
      match (← get).symbol with
      | .operator "(" => do
        advance
        let a ← inner .assignment skips
        if ← skipOperator ")" then return a else fail "expecting ')'"
      | .number a => do
        advance
        return a
      | .named name => do
        advance
        if skips then return 0 else variableNumber lookup name
      | .operator "+" => do
        advance
        inner .primary skips
      | .operator "-" => do
        advance
        return -(← inner .primary skips)
      | .operator "!" => do
        advance
        return truth ((← inner .primary skips) == 0)
      | .operator "~" => do
        advance
        return ~~~(← inner .primary skips)
      | _ => fail "expecting primary"

/-- The value of an expression, and the assignments in it, the first one first. -/
def evaluate (lookup : String → List Char) (s : List Char) :
    Except ExpressionError (Int64 × List (String × Int64)) := do
  let (symbol, rest) := readSymbol s
  let act : Evaluator Int64 := do
    let a ← evaluatePart lookup (8 * (s.length + 1)) .assignment false
    if (← get).symbol = .finished then return a else fail "expecting EOF"
  let (value, e) ← act.run ⟨symbol, rest, []⟩
  return (value, e.assigned.reverse)

end TileBench.Shell
