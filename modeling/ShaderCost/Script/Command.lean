import ShaderCost.Script.Basic

/-!
Commands of scripts and the words that they are made of. A word is made of segments, because
quoting and expansion differ from place to place inside it.
-/

namespace ShaderCost.Script

/-- What a file is opened for. -/
inductive Opening where
  | reading
  | writing
  /-- Writing over what is there, even where files are kept from that. -/
  | replacing
  | appending
  | both
  deriving DecidableEq

/-- The language that a script is written in. -/
inductive Dialect where
  | plain
  /-- With lists, conditions and arithmetic as commands, and more. -/
  | extended
  deriving DecidableEq

/-- Where a text is replaced. -/
inductive Anchor where
  | first
  | everywhere
  | front
  | back
  deriving DecidableEq

/-- What happens behind an arm of a choice. -/
inductive Ending where
  | leaves
  /-- The next arm is carried out too. -/
  | fallsThrough
  /-- The arms behind are tried too. -/
  | goesOn
  deriving DecidableEq

mutual

inductive Segment where
  /-- Characters outside quotes, which may have a special meaning where the word is used. -/
  | bare (text : Text)
  /-- Characters that stand for themselves. -/
  | literal (text : Text)
  /-- Quotes, which make a word even where nothing stands between them. -/
  | mark
  /-- The value of a parameter. -/
  | value (name : Text) (isQuoted : Bool)
  /-- How long the value of a parameter is. -/
  | size (name : Text) (isQuoted : Bool)
  /-- The value of a parameter, or another word where it is unset or, where `orEmpty`, empty. -/
  | fallback (name : Text) (orEmpty : Bool) (otherwise : List Segment) (isQuoted : Bool)
  /-- A word in place of a parameter that is set and, where `orEmpty`, not empty; else nothing. -/
  | alternative (name : Text) (orEmpty : Bool) (replacement : List Segment) (isQuoted : Bool)
  /-- Like a fallback that the parameter keeps as its value. -/
  | initial (name : Text) (orEmpty : Bool) (first : List Segment) (isQuoted : Bool)
  /-- The value of a parameter, whose lack ends the script with a message. -/
  | demanded (name : Text) (orEmpty : Bool) (message : List Segment) (isQuoted : Bool)
  /-- The value of a parameter without what a pattern accepts at its beginning or end, as much or
  as little of it as can be. -/
  | trimmed (name : Text) (atEnd longest : Bool) (pattern : List Segment) (isQuoted : Bool)
  /-- The value of an arithmetic expression. -/
  | arithmetic (expression : List Segment) (isQuoted : Bool)
  /-- What commands print, without the line feeds at its end. -/
  | output (commands : Command) (isQuoted : Bool)
  /-- A form that has no meaning, which shows only when it is used. -/
  | invalid (text : Text)
  /-- A use of a parameter that only the extended language has. -/
  | parameter (target : Target) (treatment : Treatment) (isQuoted : Bool)
  /-- The words of a list that a variable gets. -/
  | list (words : List (List Segment))
  /-- What is in front of the value of an assignment: a name, an element of it where
  `hasSubscript` is set, and whether the value is added to the one that is there. -/
  | place (name : Text) (subscript : List Segment) (hasSubscript appends : Bool)
  /-- The path of a stream that commands write to or, with `isInput` off, read from. -/
  | stream (isInput : Bool) (commands : Command)

/-- What a parameter of the extended language is. -/
inductive Target where
  | named (name : Text)
  | element (name : Text) (subscript : List Segment)
  /-- All elements of a list or, without a name, all parameters. -/
  | all (name : Text) (isJoined : Bool)
  /-- The parameter that a value names. -/
  | indirect (target : Target)
  /-- The names of the variables that begin with a text. -/
  | namesWith (front : Text) (isJoined : Bool)

/-- What is done with a parameter of the extended language. -/
inductive Treatment where
  | value
  | size
  /-- The subscripts of a list. -/
  | keys
  | fallback (orEmpty : Bool) (otherwise : List Segment)
  | alternative (orEmpty : Bool) (replacement : List Segment)
  | initial (orEmpty : Bool) (first : List Segment)
  | demanded (orEmpty : Bool) (message : List Segment)
  | trimmed (atEnd longest : Bool) (pattern : List Segment)
  /-- A part from a place on, up to a length where one is given. -/
  | slice (start length : List Segment) (hasLength : Bool)
  | replaced (anchor : Anchor) (pattern replacement : List Segment)
  /-- Another case for the first letter or for all that a pattern accepts. -/
  | recased (isUpper isWhole : Bool) (pattern : List Segment)
  /-- Another form of the value that a letter names. -/
  | transformed (letter : Char)

/-- Where a stream is led to. -/
inductive Redirection where
  | file (stream : Nat) (opening : Opening) (path : List Segment)
  /-- To where another stream leads, or nowhere for a hyphen. -/
  | duplicate (stream : Nat) (target : List Segment)
  /-- From an attached text of the script, which has this place among them. -/
  | text (stream place : Nat)
  /-- From a word. -/
  | given (stream : Nat) (word : List Segment)
  /-- Both outputs to a file. -/
  | both (opening : Opening) (path : List Segment)

/-- A condition of the extended language. -/
inductive Test where
  | word (word : List Segment)
  | one (operator : Text) (operand : List Segment)
  | two (left : List Segment) (operator : Text) (right : List Segment)
  | negation (test : Test)
  | both (left right : Test)
  | either (left right : Test)

inductive Command where
  /-- Assignments are words with a name and an equals sign in front. -/
  | simple (line : Nat) (assignments words : List (List Segment))
      (redirections : List Redirection)
  | pipeline (commands : List Command)
  | negation (command : Command)
  | andThen (first second : Command)
  | orElse (first second : Command)
  | sequence (commands : List Command)
  | conditional (condition body otherwise : Command)
  /-- Repeats while the condition succeeds or, with `wanted` off, while it fails. -/
  | loop (wanted : Bool) (condition body : Command)
  /-- Repeats for each of the fields that words make. -/
  | each (line : Nat) (name : Text) (words : List (List Segment)) (body : Command)
  /-- Takes the first arm with a pattern that accepts the subject. -/
  | choice (line : Nat) (subject : List Segment)
      (arms : List (List (List Segment) × Command × Ending))
  | redirected (line : Nat) (command : Command) (redirections : List Redirection)
  /-- A process of its own. -/
  | subshell (line : Nat) (command : Command) (redirections : List Redirection)
  /-- A process of its own that is not waited for. -/
  | background (line : Nat) (command : Command)
  /-- Gives a name to a command. -/
  | function (line : Nat) (name : Text) (body : Command)
  /-- Succeeds where an expression is not zero. -/
  | compute (line : Nat) (expression : List Segment)
  /-- Repeats as expressions say: one is carried out before, one decides, one is carried out behind
  each round. -/
  | counted (line : Nat) (first condition step : List Segment) (body : Command)
  /-- Succeeds where a condition holds. -/
  | judged (line : Nat) (test : Test)
  /-- Tells how long a command takes. -/
  | timed (command : Command)
  /-- Leads a stream to or from commands and prints its path. -/
  | streamed (isInput : Bool) (commands : Command)

end

abbrev Word := List Segment

/-- A command that does nothing. -/
def Command.nothing : Command := .sequence []

instance : Inhabited Command := ⟨.nothing⟩

/-- Commands that are a part of the language: an error in one ends the script, and no function
has their name. -/
def specialCommands : List Text :=
  [".", ":", "break", "continue", "eval", "exec", "exit", "export", "local", "readonly", "return",
    "set", "shift", "times", "trap", "unset"]

/-- Whether a word begins with a name and an equals sign. -/
def isAssignment : Word → Bool
  | .bare text :: _ => (assignment? text).isSome
  | .place .. :: _ => true
  | _ => false

/-- The text of a word that is written without any quoting or expansion. -/
def bareText? : Word → Option Text
  | [.bare text] => some text
  | _ => none

/-- Joins neighbours that are of one kind. -/
def joinSegments : Word → Word
  | [] => []
  | segment :: segments =>
      match segment, joinSegments segments with
      | .bare first, .bare second :: rest => .bare (first ++ second) :: rest
      | .literal first, .literal second :: rest => .literal (first ++ second) :: rest
      | .mark, .mark :: rest => .mark :: rest
      | segment, rest => segment :: rest

end ShaderCost.Script
