import TileBench.Decimal.Read
import TileBench.Decimal.Scientific
import TileBench.Shell.Arithmetic
import TileBench.Text.Utf8

/-!
# Escapes and formats

The commands that print text know escapes, which stand for one byte each, and formats, whose
directives take the arguments in turn. A format is used again until no argument is left.
-/

namespace TileBench.Shell

open Text

/-! ### Escapes -/

def byteOf (base : Nat) (digits : List Char) : UInt8 :=
  UInt8.ofNat (ofDigits base digits)

/-- The byte that a character behind a backslash stands for. -/
def letterByte? : Char → Option UInt8
  | '\\' => some 0x5c
  | 'a' => some 0x07
  | 'b' => some 0x08
  | 'e' => some 0x1b
  | 'f' => some 0x0c
  | 'n' => some 0x0a
  | 'r' => some 0x0d
  | 't' => some 0x09
  | 'v' => some 0x0b
  | _ => none

/-- Which escapes there are besides those of a letter and of up to three octal digits. -/
structure EscapeRules where
  /-- May a zero stand in front of three octal digits? -/
  leadingZero : Bool
  /-- Does `\c` end the output? -/
  stops : Bool
  /-- Is there an escape for hexadecimal digits? -/
  hexadecimal : Bool
  deriving DecidableEq

def EscapeRules.format : EscapeRules := ⟨false, false, false⟩

/-- The escapes of a text that the shell prints. -/
def EscapeRules.shell : EscapeRules := ⟨true, true, false⟩

/-- The escapes that the program `echo` knows if it is asked to. -/
def EscapeRules.program : EscapeRules := ⟨true, true, true⟩

def octalDigits (rules : EscapeRules) (s : List Char) : List Char :=
  match s with
  | '0' :: c :: rest =>
    if rules.leadingZero && isOctal c then '0' :: (c :: rest).takeWhile isOctal |>.take 4
    else s.takeWhile isOctal |>.take 3
  | _ => s.takeWhile isOctal |>.take 3

/-- The bytes of a text with escapes, and whether the output goes on behind it. -/
def unescape (rules : EscapeRules) : Nat → List Char → Bytes × Bool
  | 0, _ | _, [] => ([], true)
  | fuel + 1, '\\' :: c :: s =>
    if rules.stops && c = 'c' then ([], false)
    else
      let (front, rest) : Bytes × List Char :=
        match letterByte? c with
        | some b => ([b], s)
        | none =>
          if isOctal c then
            let digits := octalDigits rules (c :: s)
            ([byteOf 8 digits], (c :: s).drop digits.length)
          else
            let digits := s.takeWhile isHex |>.take 2
            if rules.hexadecimal && c = 'x' && !digits.isEmpty then
              ([byteOf 16 digits], s.drop digits.length)
            else (encode ['\\', c], s)
      let (others, goesOn) := unescape rules fuel rest
      (front ++ others, goesOn)
  | fuel + 1, c :: s =>
    let (others, goesOn) := unescape rules fuel s
    (encode [c] ++ others, goesOn)

/-- The bytes of a text with escapes, and whether the output goes on behind it. -/
def escapedBytes (rules : EscapeRules) (s : List Char) : Bytes × Bool :=
  unescape rules s.length s

/-! ### Formats -/

/-- The number of the 64-bit words. -/
def wordLimit : Int := UInt64.size

structure Directive where
  /-- How it stands in the format. -/
  text : List Char
  flags : List Char
  width : Nat
  precision : Option Nat
  kind : Char

/-- Reads a number in a directive, or takes the next argument for a star. -/
def directiveNumber (s : List Char) (args : List String) : Int × List Char × List String :=
  match s with
  | '*' :: s => ((valueNumber? (args.headD "").toList).elim 0 Int64.toInt, s, args.tail)
  | s => (Nat.ofDigitChars 10 (s.takeWhile Char.isDigit) 0, s.dropWhile Char.isDigit, args)

/-- Reads a directive behind its percent sign. -/
def directive? (s : List Char) (args : List String) :
    Option (Directive × List Char × List String) :=
  let flags := s.takeWhile fun c => "-+ #0".toList.contains c
  let (width, rest, args) := directiveNumber (s.drop flags.length) args
  let flags := if width < 0 then '-' :: flags else flags
  let (precision, rest, args) : Option Nat × List Char × List String :=
    match rest with
    | '.' :: rest =>
      let (n, rest, args) := directiveNumber rest args
      (if n < 0 then none else some n.toNat, rest, args)
    | rest => (none, rest, args)
  match rest with
  | kind :: rest =>
    let text := '%' :: s.take (s.length - rest.length)
    some (⟨text, flags, width.natAbs, precision, kind⟩, rest, args)
  | [] => none

namespace Directive

def has (d : Directive) (flag : Char) : Bool := d.flags.contains flag

def pad (d : Directive) (bytes : Bytes) : Bytes :=
  if d.has '-' then bytes.rightpad d.width 0x20 else bytes.leftpad d.width 0x20

def cut (d : Directive) (bytes : Bytes) : Bytes := d.precision.elim bytes bytes.take

/-- A number with its sign or mark in front, filled up by zeros if the directive asks for that. -/
def padNumber (d : Directive) (mark digits : List Char) (exact : Bool) : Bytes :=
  let fill := d.has '0' && !d.has '-' && !exact
  let zeros := if fill then d.width - mark.length - digits.length else 0
  d.pad (encode (mark ++ List.replicate zeros '0' ++ digits))

/-- The mark of a number that is not negative. -/
def plusMark (d : Directive) : List Char :=
  if d.has '+' then ['+'] else if d.has ' ' then [' '] else []

/-- The digits of a whole number, as many as the precision asks for. -/
def wholeDigits (d : Directive) (base n : Nat) : List Char :=
  let digits := if n = 0 && d.precision = some 0 then [] else Nat.toDigits base n
  digits.leftpad (d.precision.getD 0) '0'

def signed (d : Directive) (n : Int) : Bytes :=
  d.padNumber (if n < 0 then ['-'] else d.plusMark) (d.wholeDigits 10 n.natAbs) d.precision.isSome

/-- A whole number without a sign; a negative one counts from the end of the 64-bit words. -/
def unsigned (d : Directive) (base : Nat) (n : Int) : Bytes :=
  let n := (n % wordLimit).toNat
  let digits := d.wholeDigits base n
  let mark : List Char :=
    if !d.has '#' || n = 0 then []
    else if base = 16 then ['0', 'x']
    else if base = 8 then ['0']
    else []
  d.padNumber mark digits d.precision.isSome

/-- The digits of a number with places, whose form the kind of the directive tells. -/
def realDigits (d : Directive) (m : Nat) (q : Int) : List Char :=
  let precision := d.precision.getD 6
  let (digits, power) : List Char × List Char :=
    match d.kind.toLower with
    | 'e' => Decimal.scientificParts precision m q
    | 'g' =>
      let (digits, power) := Decimal.generalParts (precision - 1) m q
      (if d.has '#' then digits else Decimal.dropZeros digits, power)
    | _ => (Decimal.withPoint precision (Decimal.scaled precision m q), [])
  (if d.has '#' then digits else Decimal.dropPoint digits) ++ power

/-- A number with places. -/
def real (d : Directive) (x : Float) : Bytes :=
  let mark (negative : Bool) : List Char := if negative then ['-'] else d.plusMark
  let cased (text : List Char) : List Char :=
    if d.kind.isUpper then text.map Char.toUpper else text
  match Decimal.Parts.ofFloat x with
  | .nan => d.padNumber d.plusMark (cased ['n', 'a', 'n']) true
  | .infinite negative => d.padNumber (mark negative) (cased ['i', 'n', 'f']) true
  | .finite negative m q => d.padNumber (mark negative) (cased (d.realDigits m q)) false

end Directive

/-! ### Arguments -/

/-- The complaint about what is left of an argument, if anything is. -/
def leftOver (arg : String) (rest : List Char) : List String :=
  if rest.isEmpty then [] else [arg ++ ": not completely converted"]

/-- The number of the character behind a quote. -/
def quotedNumber? : List Char → Option Nat
  | '\'' :: rest | '"' :: rest => some ((encode rest).headD 0).toNat
  | _ => none

/-- Reads a whole number of 64 bits with or without a sign, or tells what is wrong with it. A quote
stands in front of a character whose number is meant. -/
def wholeNumber (isSigned : Bool) (arg : String) : Int × List String :=
  match arg.toList with
  | [] => (0, [])
  | s =>
    match quotedNumber? s with
    | some n => (n, [])
    | none =>
      let (negative, body) := splitSign (s.dropWhile isSpace)
      match leadingNumber? body with
      | some (n, rest) =>
        let n : Int := n
        let limit := if !isSigned then wordLimit - 1
          else if negative then wordLimit / 2 else wordLimit / 2 - 1
        let complaints := if rest.isEmpty && limit < n then
          [arg ++ ": Numerical result out of range"] else leftOver arg rest
        let value : Int := if negative then -(min n limit) else min n limit
        (if !isSigned && limit < n then limit else value, complaints)
      | none => (0, [arg ++ ": expected numeric value"])

/-- Reads a number with places, or tells what is wrong with it. What is behind the longest front
that is a number is left over. -/
def realNumber (arg : String) : Float × List String :=
  match arg.toList with
  | [] => (0.0, [])
  | s =>
    match quotedNumber? s with
    | some n => (Float.ofNat n, [])
    | none =>
      let s := s.dropWhile isSpace
      let fronts := (List.range (s.length + 1)).reverse.map fun n => (s.take n, s.drop n)
      match fronts.findSome? fun cut => (Decimal.float? cut.1).map fun x => (x, cut.2) with
      | some (x, rest) => (x, leftOver arg rest)
      | none => (0.0, [arg ++ ": expected numeric value"])

/-! ### Printing -/

/-- What printing by a format gives: the bytes, the errors, and whether the output goes on. -/
structure Printed where
  bytes : Bytes
  errors : List String
  goesOn : Bool
  /-- Is the format itself wrong? -/
  broken : Bool

def Printed.nothing : Printed := ⟨[], [], true, false⟩

/-- Puts bytes and errors in front. -/
def Printed.after (p : Printed) (bytes : Bytes) (errors : List String) : Printed :=
  { p with bytes := bytes ++ p.bytes, errors := errors ++ p.errors }

/-- The bytes of an argument under a directive, the errors, and whether the output goes on; `none`
for a directive that does not exist. -/
def Directive.print? (d : Directive) (arg : String) : Option (Bytes × List String × Bool) :=
  let whole (isSigned : Bool) (written : Int → Bytes) : Option (Bytes × List String × Bool) :=
    let (n, errors) := wholeNumber isSigned arg
    some (written n, errors, true)
  match d.kind with
  | 's' => some (d.pad (d.cut (bytesOf arg)), [], true)
  | 'b' =>
    let (bytes, goesOn) := escapedBytes .shell arg.toList
    some (d.pad (d.cut bytes), [], goesOn)
  | 'c' => some (d.pad [(bytesOf arg).headD 0], [], true)
  | 'd' | 'i' => whole true d.signed
  | 'u' => whole false (d.unsigned 10)
  | 'o' => whole false (d.unsigned 8)
  | 'x' => whole false (d.unsigned 16)
  | 'X' => whole false fun n =>
    (d.unsigned 16 n).map fun b => if 0x61 ≤ b && b ≤ 0x7a then b - 0x20 else b
  | 'e' | 'E' | 'f' | 'F' | 'g' | 'G' =>
    let (x, errors) := realNumber arg
    some (d.real x, errors, true)
  | _ => none

/-- Prints by a format once. Gives the arguments that are left. -/
def printOnce : Nat → List Char → List String → Printed × List String
  | 0, _, args | _, [], args => (.nothing, args)
  | fuel + 1, '%' :: '%' :: s, args =>
    let (p, args) := printOnce fuel s args
    (p.after [0x25] [], args)
  | fuel + 1, '%' :: s, args =>
    match directive? s args with
    | none => (⟨[], ["missing format character"], false, true⟩, args)
    | some (d, rest, args) =>
      match d.print? (args.headD "") with
      | none => (⟨[], [String.ofList d.text ++ ": invalid directive"], false, true⟩, args)
      | some (bytes, errors, goesOn) =>
        if goesOn then
          let (p, args) := printOnce fuel rest args.tail
          (p.after bytes errors, args)
        else (⟨bytes, errors, false, false⟩, args.tail)
  | fuel + 1, '\\' :: c :: s, args =>
    let digits := octalDigits .format (c :: s)
    let used := if digits.isEmpty then 1 else digits.length
    let (p, args) := printOnce fuel ((c :: s).drop used) args
    (p.after (escapedBytes .format ('\\' :: (c :: s).take used)).1 [], args)
  | fuel + 1, c :: s, args =>
    let (p, args) := printOnce fuel s args
    (p.after (encode [c]) [], args)

/-- Prints by a format as often as there are arguments for it. -/
def printAll : Nat → List Char → List String → Printed
  | 0, _, _ => .nothing
  | fuel + 1, format, args =>
    let (p, rest) := printOnce format.length format args
    if rest.isEmpty || rest.length = args.length || !p.goesOn then p
    else
      let others := printAll fuel format rest
      ⟨p.bytes ++ others.bytes, p.errors ++ others.errors, others.goesOn, others.broken⟩

def printFormat (format : String) (args : List String) : Printed :=
  printAll (args.length + 1) format.toList args

end TileBench.Shell
