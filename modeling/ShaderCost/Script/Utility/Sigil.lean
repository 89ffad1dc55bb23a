import ShaderCost.Script.Sigil.Evaluation

/-!
The course of a whole program: the state that it begins with, what it does first and last, and the
status that it ends with.
-/

namespace ShaderCost.Script.Sigil

/-- How deep terms, statements and calls go inside one another. -/
def deepest : Nat := 20000

/-- What is told to a program beside its text. -/
structure Setting where
  path : Text
  arguments : List Text
  /-- What ends lines that are read and, where it is told, what is put behind what is printed. -/
  mark : Option Text
  ending : Option Text
  rewrites : Option Text
  /-- Values of names of the program. -/
  values : List (Text × Value)

/-! The beginning. -/

def standardHandle (name : Text) (number : Nat) (mayRead : Bool) : Content :=
  let most := if number = 2 then 0 else Stream.usualMost
  .handle ⟨name, .stream (.ofNumber number most), mayRead, !mayRead, 0, none⟩

/-- What lies at the places that are known from the start. -/
def firstContents (setting : Setting) : List Content :=
  let optional (text : Option Text) : Content := .scalar ((text.map Value.text).getD .undefined)
  [.scalar (.dual 0 []), .scalar .undefined, .scalar (.text []), .scalar .undefined,
    optional setting.ending, optional setting.mark, .scalar (.text [' ']), .scalar (.whole 0),
    .scalar (.whole 0), .list #[], .list #[], .table .empty, standardHandle "STDIN" 0 true,
    standardHandle "STDOUT" 1 false, standardHandle "STDERR" 2 false, .scalar (.text ['\x1c'])]

def firstState (setting : Setting) (program : Program) : State where
  program := { program with body := [] }
  path := setting.path
  cells := ((firstContents setting).map fun content => (⟨content, none⟩ : Cell)).toArray
  names := .ofEntries (knownNames.zip (List.range knownNames.length))
  own := #[]
  met := Array.replicate program.declared.size false
  saved := []
  found := none
  positions := []
  expressions := []
  line := 1
  frames := []
  lastRead := none
  selected := placeOfOutput
  alarm := none
  walks := []
  seed := 42
  evaluations := 0
  ranges := []
  paths := []
  tested := []
  hasArguments := false
  rewrites := setting.rewrites

/-- What programs are told of the system. -/
def knownValues (shell : Shell) (path : Text) : List (Text × Value) :=
  let owner : Value := .ofNat Utility.Status.ownerNumber
  let group : Value := .text (Text.ofNat Utility.Status.ownerNumber ++ ' ' ::
    Text.ofNat Utility.Status.ownerNumber)
  [("0", .text path), ("^O", .text "linux"), ("^X", .text "/usr/bin/perl"), ("^V", .text "v5.38.2"),
    ("]", .text "5.038002"), ("^W", .whole 0), ("^T", .whole (Clock.now shell).seconds),
    ("<", owner), (">", owner), ("(", group), (")", group), ("=", .whole 60), ("-", .whole 0),
    ("%", .whole 0), (":", .text " \n-"), ("~", .text "STDOUT"), ("^", .text "STDOUT_TOP")]

/-- Puts everything in its place. -/
def prepare (setting : Setting) (program : Program) : Run Unit := do
  let shell ← getThe Shell
  for (name, value) in knownValues shell setting.path ++ setting.values do
    setScalar (← sharedPlace .scalar ("main::".toList ++ name)) value
  setList placeOfArguments (setting.arguments.map .text)
  for (name, value) in shell.environment.bindings do
    setScalar (← entryPlace placeOfEnvironment name) (.text value)
  let own ← program.declared.toList.mapM fun (shape, _) => allocate (contentOf shape)
  modify fun state => { state with own := own.toArray }
  for (name, number) in program.named.reverse do
    nameRoutine name (← allocate (.routine number own.toArray))
  match program.attached with
  | some text =>
      let place ← fresh (.text text)
      Feature.lead (← handleNamed "DATA") (.memory place 0) true false
  | none => pure ()

/-! The end. -/

/-- The status of a program that fails. -/
def failureStatus : Run Nat := do
  let number := (← scalarAt placeOfError).toInt % 256
  let status := (← scalarAt placeOfStatus).toInt / 256 % 256
  return if number != 0 then number.toNat else if status != 0 then status.toNat else 255

/-- Says why a program fails. -/
def complainOf (problem : Value) : Run Nat := do
  let _ ← putOut placeOfProblems (← textOf problem)
  failureStatus

/-- Carries out a part of a program that may fail or end. The result is the status that it ends
with. -/
def carriedOut (action : Run Unit) : Run Nat := do
  let attempt : Run Nat := do
    action
    return 0
  let outside (word label : Text) : Run Nat := do
    let problem : Text :=
      if label.isEmpty then "Can't \"".toList ++ word ++ "\" outside a loop block".toList
      else "Label not found for \"".toList ++ word ++ ' ' :: label ++ ['"']
    complainOf (.text (problem ++ (← whereabouts)))
  tryCatch attempt fun leave => match leave with
    | .ended status => return status
    | .died value => complainOf value
    | .last label => outside "last" label
    | .next label => outside "next" label
    | .redo label => outside "redo" label
    | .returned _ => do
        complainOf (.text ("Can't return outside a subroutine".toList ++ (← whereabouts)))

/-- Ends what programs leave open. -/
def closeAll (host : Host) : Run Unit := do
  let cells := (← get).cells
  for place in List.range cells.size do
    match (cells.getD place default).content with
    | .handle handle =>
        match handle.way with
        | .command _ _ =>
            let _ ← closeHandle host place
        | _ => pure ()
    | _ => pure ()
  flushAll

/-- Carries out a whole program. The result is its status. -/
def perform (evaluator : Evaluator) (setting : Setting) (program : Program) : Run Nat := do
  prepare setting program
  let status ← carriedOut do
    carryOutFirst evaluator program []
    let _ ← evaluator.block program.body .nothing
  endRewriting evaluator
  setScalar placeOfStatus (.whole status)
  let status ← carriedOut do
    for number in (← get).program.last do
      let place ← allocate (.routine number (← get).own)
      let _ ← evaluator.call place [] .nothing
  if status != 0 then setScalar placeOfStatus (.whole status)
  let status := ((← scalarAt placeOfStatus).toInt % 256).toNat
  closeAll evaluator.host
  return status

/-- Carries out a program in a process. -/
def Program.carryOut (host : Host) (setting : Setting) (program : Program) : Step Nat := do
  let limit := (← get).machine.effort + 1
  let evaluator := Evaluator.ofDepth host limit deepest
  let run : Run Nat := perform evaluator setting program
  let (result, _) ← (run.run).run (firstState setting program)
  return result.toOption.getD 255

end ShaderCost.Script.Sigil

/-!
The utility that carries out programs whose names carry marks.
-/

namespace ShaderCost.Script.Utility

namespace Marked

/-- What a call asks for. -/
structure Setup where
  /-- Pieces of the program that are arguments. -/
  pieces : List Text
  /-- What stands in front of the program. -/
  front : List Text
  isLoop : Bool
  prints : Bool
  /-- What lines are parted at, where they are. -/
  separator : Option Text
  rewrites : Option Text
  /-- What ends lines that are read. -/
  mark : Option Text
  /-- What is put behind what is printed; lines that are read lose their ends. -/
  ending : Option Text
  /-- Whether the program is only read. -/
  checks : Bool
  operands : List Text

namespace Setup

def start : Setup := ⟨[], [], false, false, none, none, some ['\n'], none, false, []⟩

/-- The use of a part of the library that an argument asks for. -/
def useOf (argument : Text) : Text :=
  let (word, argument) : Text × Text := match argument with
    | '-' :: rest => ("no ", rest)
    | _ => ("use ", argument)
  match Text.splitAt? '=' argument with
  | some (name, names) => word ++ name ++
      " split(/,/,q".toList ++ '\x7b' :: names ++ "\x7d);".toList
  | none => word ++ argument ++ [';']

/-- The mark that a number stands for: none where it is too large for a character, and void for
void lines. -/
def markOf (digits : Text) : Option Text :=
  let code := digitsIn 8 digits
  if digits = ['0'] then some []
  else if 255 < code then none
  else some [Char.ofNat code]

/-- Reads the letters of an argument. The result has the arguments that are left. -/
def takeLetters : (fuel : Nat) → Setup → (letters : Text) → (rest : List Text) →
    Except Text (Setup × List Text)
  | 0, setup, _, rest | _ + 1, setup, [], rest => .ok (setup, rest)
  | fuel + 1, setup, letter :: letters, rest =>
      let value (missing : Text) : Except Text (Text × List Text) :=
        match letters, rest with
        | [], value :: rest => .ok (value, rest)
        | [], [] => .error missing
        | letters, rest => .ok (letters, rest)
      match letter with
      | 'e' | 'E' => do
          let (piece, rest) ← value ("No code specified for -".toList ++ [letter, '.'])
          return ({ setup with pieces := setup.pieces ++ [piece] }, rest)
      | 'n' => takeLetters fuel { setup with isLoop := true } letters rest
      | 'p' => takeLetters fuel { setup with isLoop := true, prints := true } letters rest
      | 'a' =>
          takeLetters fuel { setup with
            isLoop := true, separator := some (setup.separator.getD "' '") } letters rest
      | 'F' =>
          let written : Text := match letters with
            | '/' :: _ | '"' :: _ | '\'' :: _ => letters
            | letters => '/' :: letters ++ ['/']
          .ok ({ setup with isLoop := true, separator := some written }, rest)
      | 'i' => .ok ({ setup with rewrites := some letters }, rest)
      | 'l' =>
          let digits := letters.takeWhile isOctalDigit
          let ending := if digits.isEmpty then setup.mark else some [Char.ofNat (digitsIn 8 digits)]
          takeLetters fuel { setup with ending := some (ending.getD []) }
            (letters.drop digits.length) rest
      | '0' =>
          let digits := letters.takeWhile isOctalDigit
          let mark := if digits.isEmpty then some ['\x00'] else markOf digits
          takeLetters fuel { setup with mark } (letters.drop digits.length) rest
      | 'M' | 'm' =>
          match letters with
          | [] => .error ("Missing argument to -".toList ++ [letter, '.'])
          | letters => .ok ({ setup with front := setup.front ++ [useOf letters] }, rest)
      | 'I' => do
          let (_, rest) ← value "No directory specified for -I"
          return (setup, rest)
      | 'c' => takeLetters fuel { setup with checks := true } letters rest
      | 'C' | 'd' | 'D' | 'x' => .ok (setup, rest)
      | letter =>
          if "wWXtTuUfSs-".toList.elem letter then takeLetters fuel setup letters rest
          else .error ("Unrecognized switch: -".toList ++ letter :: letters ++
            "  (-h will show valid options).".toList)

/-- Reads arguments. -/
def ofArguments : (fuel : Nat) → Setup → List Text → Except Text Setup
  | 0, setup, _ | _ + 1, setup, [] => .ok setup
  | fuel + 1, setup, argument :: rest =>
      match argument with
      | ['-', '-'] => .ok { setup with operands := rest }
      | '-' :: letter :: letters => do
          let (setup, rest) ← takeLetters (letters.length + 2) setup (letter :: letters) rest
          ofArguments fuel setup rest
      | _ => .ok { setup with operands := argument :: rest }

/-- What the first line of a program asks for. -/
def withFirstLine (setup : Setup) (text : Text) : Setup :=
  let line := text.takeWhile (· != '\n')
  if !(['#', '!'].isPrefixOf line) then setup
  else
    let words := ((line.splitOnP isBlankOctet).drop 1).filter fun word => word.head? = some '-'
    words.foldl (fun setup word =>
      match takeLetters (word.length + 1) setup (word.drop 1) [] with
      | .ok (changed, _) => changed
      | .error _ => setup) setup

/-- The text of a program with what a call puts around it. -/
def surround (setup : Setup) (text : Text) : Text :=
  let uses := setup.front.flatten
  if !setup.isLoop then uses ++ '\n' :: text
  else
    let chomp : Text := if setup.ending.isSome then "chomp;" else []
    let split : Text := match setup.separator with
      | some separator => "our @F=split(".toList ++ separator ++ ");".toList
      | none => []
    let body := uses ++ "LINE: while (<>) \x7b".toList ++ chomp ++ split ++ '\n' :: text
    let ending : Text :=
      if setup.prints then
        "\n;\x7d continue \x7b die \"-p destination: $!\\n\" unless print $_; \x7d"
      else "\n;\x7d"
    body ++ ending

end Setup

/-- The status of a call that is refused. -/
def refusal : Nat := 29

/-- Puts a message out. -/
def tell (text : Text) : Step Unit := do
  let _ ← Script.write standardError text

/-- The program that carries a text out by its first line, if it is another one. -/
def otherProgram? (text : Text) : Option (List Text) :=
  let line := text.takeWhile (· != '\n')
  match Text.after? "#!" line with
  | none => none
  | some command =>
      if Text.contains "perl" command || Text.contains "indir" command then none
      else
        let words := (command.splitOnP isBlankOctet).filter fun word => !word.isEmpty
        if words.isEmpty then none else some words

/-- Carries out the program in a text. -/
def carryOutText (host : Sigil.Host) (setup : Setup) (path text : Text) (arguments : List Text) :
    Step Nat := do
  let source := { Sigil.Source.ofText path (setup.surround text) with line := 0 }
  match Sigil.Program.ofSource source with
  | .error (problem, status) =>
      tell problem
      return status
  | .ok program =>
      if setup.checks then
        tell (path ++ " syntax OK\n".toList)
        return 0
      let setting : Sigil.Setting := {
        path, arguments, mark := setup.mark, ending := setup.ending, rewrites := setup.rewrites
        values := [] }
      program.carryOut host setting

end Marked

/-- Carries out a program whose names carry marks. -/
def perl (host : Sigil.Host) : Utility := fun _ arguments => do
  let fuel := arguments.length + 1
  match Marked.Setup.ofArguments fuel Marked.Setup.start arguments with
  | .error problem =>
      Marked.tell (problem ++ ['\n'])
      return Marked.refusal
  | .ok setup =>
      match setup.pieces, setup.operands with
      | _ :: _, operands =>
          Marked.carryOutText host setup "-e" (setup.pieces.flatMap (· ++ ['\n'])) operands
      | [], [] | [], ['-'] :: _ =>
          let text ← readInput false
          Marked.carryOutText host (setup.withFirstLine text) "-" text setup.operands.tail
      | [], path :: operands =>
          match ← content path with
          | .error error =>
              Marked.tell ("Can't open perl script \"".toList ++ path ++ "\": ".toList ++
                wording error ++ ['\n'])
              return ((error.system?.map Prod.snd).getD Marked.refusal)
          | .ok text =>
              match Marked.otherProgram? text with
              | some (program :: options) =>
                  let _ ← host.start program (options ++ path :: operands)
                  return Marked.refusal
              | _ => Marked.carryOutText host (setup.withFirstLine text) path text operands

end ShaderCost.Script.Utility
