import TileBench.Decimal.Read
import TileBench.Logging
import TileBench.Text.Alphanumeric
import TileBench.Text.MatchExpression
import TileBench.Text.Numeral
import TileBench.Text.Split
import TileBench.Text.Utf8

/-!
# Filters of the log

A filter decides which events are shown, by rules for the parts of the program. A rule may ask for a
field, as in `part[{field}]=level`; of all rules that fit an event the most specific one decides.
Events stand in no span, so a rule that asks for a span, or for the value of a field in one, fits
none of them.
-/

namespace TileBench

open Text

structure LogRule where
  /-- The rule is for the parts whose names start with this text; for every part without it. -/
  part : Option String
  /-- The span that the rule is for. -/
  span : Option String
  /-- The field that an event has to have, and the value that it is to have in a span. -/
  field : Option (String × Option String)
  /-- The weakest level that is shown, by its rank; rank zero shows none. -/
  rank : Nat
  deriving DecidableEq

namespace LogRule

def everything : LogRule := ⟨none, none, none, Level.trace.rank⟩

/-- Does the rule ask for nothing that only a span has? -/
def isForEvents (r : LogRule) : Bool :=
  r.span.isNone && (r.field.bind (·.2)).isNone

def fits (r : LogRule) (e : Event) : Bool :=
  r.isForEvents && r.part.all (fun part => part.toList.isPrefixOf e.part.toList)
    && r.field.all fun field => e.hasField field.1

/-- How much of the name of a part the rule gives. -/
def reach (r : LogRule) : Nat := r.part.elim 0 fun part => part.utf8ByteSize + 1

/-- The field that the rule asks for. -/
def fieldName (r : LogRule) : String := r.field.elim "" (·.1)

/-- Is the rule more specific than another one? More of the name of a part counts most, then a
field, and then the order of the fields' names. -/
def outranks (r other : LogRule) : Bool :=
  other.reach < r.reach || (other.reach == r.reach && other.fieldName < r.fieldName)

/-! ### Reading a rule

The signs of a rule are looked for in its text without the blanks around it, but what stands between
them is cut out of the whole text at the same distances from its start. So a blank in front is taken
into the first name, and one at the end into the last.
-/

/-- The text from one byte to another. -/
def cut (text : Bytes) (first last : Nat) : String :=
  String.ofList (decodeLossy ((text.take last).drop first))

/-- The number of bytes of a text. -/
def width (s : List Char) : Nat := (encode s).length

def levelCount : Nat := 6

/-- Reads the name or the number of a level. -/
def rank? (s : String) : Option Nat :=
  match natural? UInt64.size s.toList with
  | some n => if n < levelCount then some n else none
  | none =>
    match String.ofList (s.toList.map Char.toLower) with
    | "off" => some 0
    | "error" => some 1
    | "warn" => some 2
    | "info" => some 3
    | "debug" => some 4
    | "trace" => some 5
    | _ => none

/-- Gives a rule the level behind an equals sign. Everything is shown if there is none. -/
def withLevel? (r : LogRule) (level : String) : Option LogRule :=
  if level.isEmpty then some r else (rank? level).map fun rank => { r with rank }

/-- Is it a value that a field may have: a number, or an expression that values match? -/
def isValue (s : List Char) : Bool :=
  (Decimal.float? s).isSome || MatchExpression.isExpression s

/-- Reads a field with or without a value. -/
def readField? (s : String) : Option (String × Option String) :=
  match s.toList.splitOn '=' with
  | name :: value :: _ =>
    if isValue value then some (String.ofList name, some (String.ofList value)) else none
  | _ => if s.isEmpty then none else some (s, none)

/-- May a rule start with the character, if it starts with no bracket? -/
def startsPart (c : Char) : Bool := Text.isAlphanumeric c || c == '-' || c == ':' || c == '_'

/-- Reads the level behind a span, if there is one. -/
def readLevel? (text : Bytes) (start : Nat) (r : LogRule) : List Char → Option LogRule
  | [] => some r
  | '=' :: _ => r.withLevel? (cut text (start + 1) text.length)
  | _ => none

/-- Reads the span and the field between brackets, from the byte behind the first one on. -/
def readSpan? (text : Bytes) (start : Nat) (r : LogRule) (s : List Char) : Option LogRule :=
  let name := s.takeWhile fun c => c != ']' && c != '\x7b'
  let behind := start + width name
  let span := cut text start behind
  match s.drop name.length with
  | ']' :: s => readLevel? text (behind + 1) { r with span := some span } s
  | '\x7b' :: s =>
    let body := s.takeWhile (· != '\x7d')
    let stop := behind + 1 + width body
    let field := cut text (behind + 1) stop
    match s.drop body.length with
    | '\x7d' :: ']' :: s => do
      let field ← readField? field
      readLevel? text (stop + 2)
        { r with span := if span.isEmpty then none else some span, field := some field } s
    | _ => none
  | _ => none

/-- Reads a rule: a level for every part, or a part or a span with or without a level. -/
def parse? (s : String) : Option LogRule :=
  let text := bytesOf s
  match trim s.toList with
  | [] => none
  | '[' :: rest => readSpan? text 1 everything rest
  | c :: rest =>
    if !startsPart c then none
    else
      let name := (c :: rest).takeWhile fun c => c != '=' && c != '['
      let behind := width name
      let r := { everything with part := some (cut text 0 behind) }
      match (c :: rest).drop name.length with
      | '=' :: _ => r.withLevel? (cut text (behind + 1) text.length)
      | '[' :: rest => readSpan? text (behind + 1) r rest
      | _ =>
        match rank? s with
        | some rank => some { everything with rank }
        | none => some { everything with part := some s }

end LogRule

/-- Rules for what is shown of the log. -/
structure LogFilter where
  rules : List LogRule
  deriving DecidableEq

namespace LogFilter

/-- Reads rules between commas. Without a rule only errors are shown. -/
def parse? (s : String) : Option LogFilter := do
  let pieces := (s.toList.splitOn ',').filter fun piece => !piece.isEmpty
  let rules ← pieces.mapM fun piece => LogRule.parse? (String.ofList piece)
  return ⟨if rules.isEmpty then [{ LogRule.everything with rank := Level.error.rank }] else rules⟩

/-- The filter of a verbosity: messages, details, or everything from the given parts. -/
def ofVerbosity (parts : List String) (verbosity : Nat) : LogFilter :=
  let level : Level := if verbosity = 0 then .info else if verbosity = 1 then .debug else .trace
  ⟨parts.map fun part => { LogRule.everything with part := some part, rank := level.rank }⟩

/-- The filter of some rules in words, or that of a verbosity if there are none or they cannot be
read. -/
def choose (rules : Option String) (parts : List String) (verbosity : Nat) : LogFilter :=
  (rules.bind parse?).getD (ofVerbosity parts verbosity)

/-- The more specific of two rules, the later one if they are alike. -/
def moreSpecific (best : Option LogRule) (rule : LogRule) : Option LogRule :=
  match best with
  | some b => if b.outranks rule then some b else some rule
  | none => some rule

/-- Is an event shown? The most specific rule that fits decides. -/
def shows (filter : LogFilter) (e : Event) : Bool :=
  match (filter.rules.filter fun rule => rule.fits e).foldl moreSpecific none with
  | some rule => e.level.rank ≤ rule.rank
  | none => false

end LogFilter

end TileBench
