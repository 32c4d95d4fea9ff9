/-!
# Shell scripts

A script is built from commands, which are lists of words. A word is made of pieces: text, and
pieces that stand for what the shell puts in their place. What is quoted is neither split at blanks
nor read as a pattern.
-/

namespace TileBench.Shell

inductive Parameter where
  | named (name : String)
  /-- The name of the script, or one of its arguments. -/
  | position (n : Nat)
  /-- Every argument as a word of its own. -/
  | each
  /-- Every argument in one word. -/
  | joined
  /-- The number of arguments. -/
  | count
  /-- The status of the last command. -/
  | status
  /-- The number of the shell's own process. -/
  | process
  /-- The number of the last process in the background. -/
  | background
  /-- The letters of the options. -/
  | options
  deriving DecidableEq

/-- What a redirection opens a file for. -/
inductive Access where
  | read
  | readWrite
  /-- The file is emptied, unless the shell protects files and it is there. -/
  | write
  /-- The file is emptied. -/
  | overwrite
  | append
  deriving DecidableEq

mutual

inductive Piece where
  | text (s : List Char) (quoted : Bool)
  | parameter (p : Parameter) (use : Use) (quoted : Bool)
  /-- What a script prints. -/
  | output (script : Script) (quoted : Bool)
  /-- The value of an expression. -/
  | value (expression : List Piece) (quoted : Bool)

/-- What is made of a parameter. The flag `ifNull` tells that an empty value counts as none. -/
inductive Use where
  | plain
  | length
  /-- A word instead of a missing value. -/
  | otherwise (ifNull : Bool) (word : List Piece)
  /-- A word instead of a missing value, which is assigned too. -/
  | assign (ifNull : Bool) (word : List Piece)
  /-- An error for a missing value, with the word for its text. -/
  | demand (ifNull : Bool) (word : List Piece)
  /-- A word instead of a value that is there. -/
  | instead (ifNull : Bool) (word : List Piece)
  /-- The value without what fits a pattern at one of its ends. -/
  | trim (atEnd longest : Bool) (pattern : List Piece)
  /-- The shell knows no such use. -/
  | invalid

/-- A change of a descriptor for a command. -/
inductive Redirection where
  | file (descriptor : Nat) (access : Access) (path : List Piece)
  /-- The descriptor becomes another one, or is closed. -/
  | copy (descriptor : Nat) (source : List Piece)
  /-- The descriptor reads a text of the script, known by a number. -/
  | document (descriptor : Nat) (number : Nat)

inductive Script where
  | nothing
  /-- A command without parts that are commands. -/
  | simple (line : Nat) (assignments : List (String × List Piece)) (words : List (List Piece))
    (redirections : List Redirection)
  /-- One after the other. -/
  | sequence (first second : Script)
  /-- The second only if the first succeeds. -/
  | both (first second : Script)
  /-- The second only if the first fails. -/
  | either (first second : Script)
  | negation (body : Script)
  /-- Each reads what the one before it prints. -/
  | pipeline (commands : List Script)
  | background (body : Script)
  | redirected (line : Nat) (body : Script) (redirections : List Redirection)
  /-- A script whose variables are its own. -/
  | subshell (line : Nat) (body : Script) (redirections : List Redirection)
  | choice (condition yes no : Script)
  /-- The body as long as the condition succeeds, or fails. -/
  | repetition (untilSuccess : Bool) (condition body : Script)
  /-- The body for each of some words. -/
  | loop (line : Nat) (name : String) (words : List (List Piece)) (body : Script)
  /-- The script of the first case with a pattern that the subject fits. -/
  | selection (line : Nat) (subject : List Piece) (cases : List (List (List Piece) × Script))
  | function (name : String) (body : Script)

end

abbrev Word := List Piece

/-- The text of a word in which nothing is quoted and nothing stands for something else. -/
def Word.plain? : Word → Option (List Char)
  | [] => some []
  | .text s false :: rest => (plain? rest).map (s ++ ·)
  | _ => none

/-- Adds text in front of a word. -/
def Word.consText (s : List Char) (quoted : Bool) : Word → Word
  | .text rest q :: w =>
    if q = quoted then .text (s ++ rest) q :: w else .text s quoted :: .text rest q :: w
  | w => .text s quoted :: w

end TileBench.Shell
