import ShaderCost.Script.Builtin
import ShaderCost.Script.Process
import ShaderCost.Script.Extended.Commands
import ShaderCost.Script.Basic
import ShaderCost.Script.Utility.Attended
import ShaderCost.Script.Utility.Indented
import ShaderCost.Script.Records.Evaluation
import ShaderCost.Script.Utility.Sigil
import ShaderCost.Script.Utility.Table

/-!
Programs: how they are found, what a file that is to be carried out comes down to, and what the
shell and the other programs of the system make of their arguments.
-/

namespace ShaderCost.Script

/-- Why a program cannot be started. -/
inductive StartError where
  | file (cause : FileError)
  /-- The file is neither a program nor a script that names one. -/
  | noProgram
  deriving DecidableEq

/-- A program of the system with the name and the arguments that it is started with. -/
structure Launch where
  program : Text
  name : Text
  arguments : List Text
  deriving DecidableEq

namespace Launch

/-- How much of a file is looked at for the interpreter that its first line names. -/
def headLength : Nat := 256

/-- The interpreter that the first line of a script names, with its argument. What follows the head
of the file is not seen; a path that may go on there does not count, an argument is cut off. -/
def interpreter? (content : Text) : Option (Text × List Text) := do
  let isBlank (c : Char) : Bool := c = ' ' || c = '\t'
  let isEnd (c : Char) : Bool := isBlank c || c = '\x00'
  let content := content.take headLength
  let head := content ++ List.replicate (headLength - content.length) '\x00'
  let line ← Text.after? "#!" head
  let named := line.dropWhile isBlank
  let isWhole := line.any fun c => c = '\n'
  if !isWhole && !(named.any isEnd) then none
  else
    let line := if isWhole then line.takeWhile (· != '\n') else line.dropLast
    let line := ((line.reverse.dropWhile isBlank).reverse).dropWhile isBlank
    let path := line.takeWhile fun c => !isEnd c
    if line.isEmpty then none
    else match line.drop path.length with
      | [] | '\x00' :: _ => return (path, [])
      | behind => return (path, [(behind.dropWhile isBlank).takeWhile (· != '\x00')])

/-- How many scripts may be interpreted by one another. -/
def longestChain : Nat := 6

/-- What it comes down to when the file at a path is carried out under a name. -/
def ofPath (tree : FileTree) : (limit : Nat) → (name path : Text) → (arguments : List Text) →
    Except StartError Launch
  | 0, _, _, _ => .error (.file .tooManyLinks)
  | limit + 1, name, path, arguments => do
      match ← (tree.find (shownText path)).mapError StartError.file with
      | .program program => return ⟨program, name, arguments⟩
      | .file content executable =>
          if !executable then throw (.file .denied)
          match interpreter? (spread (content.extract 0 headLength)) with
          | none => throw .noProgram
          | some (interpreter, options) =>
              if interpreter.isEmpty then throw (.file .denied)
              ofPath tree limit interpreter interpreter (options ++ path :: arguments)
      | _ => throw (.file .denied)

/-- What it comes down to when a name is looked for in directories: the first place where something
can be carried out counts. Where there is none, a place whose use is denied gives the reason.
`ofScript` tells what becomes of a file that is no program and names none. -/
def search (tree : FileTree) (directories name : Text) (arguments : List Text)
    (ofScript : (path : Text) → Except StartError Launch) : Except StartError Launch :=
  if name.isEmpty then .error (.file .missing)
  else if '/' ∈ name then at' name
  else if FileTree.longestName < name.length then .error (.file .nameTooLong)
  else go (SearchPath.places directories name) .missing
where
  at' (path : Text) : Except StartError Launch :=
    match ofPath tree longestChain name path arguments with
    | .error .noProgram => ofScript path
    | result => result
  go : List Text → (reason : FileError) → Except StartError Launch
    | [], reason => .error (.file reason)
    | place :: rest, reason =>
        match at' place with
        | .error (.file .denied) => go rest .denied
        | .error (.file .missing) => go rest (if reason = .denied then .denied else .missing)
        | .error (.file .notDirectory) =>
            go rest (if reason = .denied then .denied else .notDirectory)
        | result => result

end Launch

namespace Program

/-- The path of a program that a process asks for by its name. -/
def find (shell : Shell) (name : Text) : Except FileError Text :=
  SearchPath.find shell.tree (shell.value "PATH") name

/-- The status of a process whose program could not be started. -/
def failureStatus : StartError → Nat
  | .file .missing | .file .notDirectory | .file .nameTooLong | .file .tooManyLinks => 127
  | _ => 126

/-- The status of a utility that could not carry out a program. -/
def refusalStatus : StartError → Nat
  | .file .missing => 127
  | _ => 126

/-- The names that led to the directory of a process, if a variable tells them. -/
def trailOf (shell : Shell) : Location :=
  let path := shownText (shell.value "PWD")
  let isValid := Path.isAbsolute path && match shell.tree.locate path with
    | .ok location => location = shell.directory
    | .error _ => false
  if isValid then Builtin.plainTrail [] path else shell.directory

/-- The variables of a shell that has just been started. -/
def firstBindings (shell : Shell) : List (Text × Binding) :=
  let given := shell.bindings.filter fun (name, binding) =>
    binding.isExported && binding.value.isSome && isName name
  let given := given.map fun (name, binding) => (name, { binding with isReadonly := false })
  let own : List (Text × Text) := [
    ("IFS", " \t\n"), ("OPTIND", "1"), ("PS1", "# "), ("PS2", "> "), ("PS4", "+ "),
    ("PPID", Text.ofNat (firstProcess - 1)), ("PATH", SearchPath.standard),
    ("PWD", Builtin.pathOf (trailOf shell))]
  let fixed : List Text := ["IFS", "OPTIND", "PPID", "PWD"]
  let kept := given.filter fun entry => !fixed.elem entry.1
  let added := own.filter fun entry => (List.lookup entry.1 kept).isNone
  kept ++ added.map fun (name, value) =>
    (name, .plain value (name = "PWD" || given.any fun entry => entry.1 = name))

/-- What a shell of the extended language tells of itself. -/
def extendedBindings (shell : Shell) (level : Nat) (path : Text) : List (Text × Binding) :=
  let numbered (text : String) : Binding :=
    { Binding.plain text.toList false with traits := ['i'], isReadonly := true }
  let owner := (Text.ofNat Utility.Status.ownerNumber)
  let version : Listing := .ofTexts ["5", "2", "21", "1", "release", "x86_64-pc-linux-gnu"]
  let facts : List (Text × Text) := [
    ("BASH", path), ("BASH_VERSION", "5.2.21(1)-release"), ("HOSTNAME", "localhost"),
    ("HOSTTYPE", "x86_64"), ("IFS", " \t\n"), ("MACHTYPE", "x86_64-pc-linux-gnu"),
    ("OPTERR", "1"), ("OPTIND", "1"), ("OSTYPE", "linux-gnu"), ("PS4", "+ ")]
  let lists : List (Text × Binding) := [
    ("BASH_VERSINFO", { Binding.bare with list := some version, isReadonly := true }),
    ("DIRSTACK", { Binding.bare with list := some .empty }),
    ("GROUPS", { Binding.bare with list := some (.ofTexts [owner]) })]
  let rest : List (Text × Binding) := [
    ("EUID", { numbered "0" with value := some owner }),
    ("UID", { numbered "0" with value := some owner }),
    ("PPID", numbered (toString (firstProcess - 1))),
    ("SHLVL", .plain (Text.ofNat level) true),
    ("PWD", .plain (Builtin.pathOf (trailOf shell)) true)]
  (facts.map fun (name, value) => (name, Binding.plain value false)) ++ lists ++ rest

/-- The variables of a shell of the extended language that has just been started. -/
def firstBindingsIn (shell : Shell) (path : Text) : List (Text × Binding) :=
  let given := shell.bindings.filter fun (name, binding) =>
    binding.isExported && binding.value.isSome && isName name && name != "_"
  let given := given.map fun (name, binding) =>
    (name, Binding.plain (binding.value.getD []) true)
  let level := (((shell.value? "SHLVL").bind Text.nat?).getD 0) + 1
  let own := extendedBindings shell level path
  let defaults : List (Text × Binding) := [
    ("PATH", .plain SearchPath.standard false), ("TERM", .plain "dumb" false)]
  let kept := given.filter fun entry => (List.lookup entry.1 own).isNone
  kept ++ own ++ defaults.filter fun entry => (List.lookup entry.1 kept).isNone

/-- A process that has just become a shell. -/
def freshShell (dialect : Dialect) (shell : Shell) (name : Text) (parameters : List Text)
    (options : List Char) : Shell :=
  { shell with
    dialect, origin := name, isGivenText := false, settings := [], frames := []
    pipeStatuses := [0], lastWord := name, leftDirectories := [], captures := 0, deferred := []
    own := shell.process, name, parameters, options, trail := trailOf shell
    bindings := match dialect with
      | .plain => firstBindings shell
      | .extended => firstBindingsIn shell "/bin/bash"
    functions := [], aliases := [], texts := #[], reading := 1, located := []
    traps := shell.traps.filter fun (_, action) => action.isEmpty
    pending := [], status := 0, line := 0, command := none, loops := 0, calls := 0
    hidden := [], optionIndex := 1, optionOffset := none, jobs := [], lastJob := none
    outputStatus := none, ending := none }

/-- How a shell is asked to work. -/
structure Setup where
  options : List Char
  /-- Whether the script is an argument. -/
  hasText : Bool
  /-- Whether the script comes from the input. -/
  readsInput : Bool
  operands : List Text
  dialect : Dialect
  /-- Further settings that are on. -/
  settings : List Text

namespace Setup

def setOption (setup : Setup) (isOn : Bool) (letter : Char) : Setup :=
  let others := setup.options.filter (· != letter)
  { setup with options := if isOn then letter :: others else others }

def setSetting (setup : Setup) (isOn : Bool) (name : Text) : Setup :=
  let others := setup.settings.filter (· != name)
  { setup with settings := if isOn then name :: others else others }

/-- Whether an option may be set. -/
def isKnown (setup : Setup) (letter : Char) : Bool :=
  match setup.dialect with
  | .plain => Builtin.isSettable letter
  | .extended => Extended.isLetter letter || letter = 'i' || letter = 'r' || letter = 'D'

/-- Options of the extended language that are words and change nothing here. -/
def idleWords : List Text :=
  ["--norc", "--noprofile", "--login", "--posix", "--noediting", "--restricted", "--verbose"]

mutual

/-- Reads the arguments of a shell. -/
def read (setup : Setup) : (fuel : Nat) → List Text → Except Text Setup
  | 0, _ | _ + 1, [] => .ok setup
  | fuel + 1, argument :: rest =>
      match argument with
      | ['-', '-'] => .ok { setup with operands := rest }
      | ['-'] => .ok { setup with operands := rest }
      | sign :: letter :: letters =>
          if setup.dialect = .extended && idleWords.elem argument then read setup fuel rest
          else if setup.dialect = .extended && (argument = "-O" || argument = "+O") then
            read (setup.setSetting (sign = '-') (rest.headD [])) fuel rest.tail
          else if sign = '-' || sign = '+' then
            readLetters setup fuel (sign = '-') (letter :: letters) rest
          else .ok { setup with operands := argument :: rest }
      | _ => .ok { setup with operands := argument :: rest }

def readLetters (setup : Setup) : (fuel : Nat) → (isOn : Bool) → Text → List Text →
    Except Text Setup
  | 0, _, _, _ => .ok setup
  | fuel + 1, _, [], rest => read setup fuel rest
  | fuel + 1, isOn, letter :: letters, rest =>
      if letter = 'c' && isOn then
        readLetters { setup with hasText := true } fuel isOn letters rest
      else if letter = 'o' then
        match rest, setup.dialect with
        | name :: rest, .plain =>
            match Shell.optionLetters.find? fun entry => entry.2 = name with
            | some (letter, _) => readLetters (setup.setOption isOn letter) fuel isOn letters rest
            | none => .error ("Illegal option -o " ++ name)
        | name :: rest, .extended =>
            match Extended.optionNames.lookup name with
            | some (some letter) =>
                readLetters (setup.setOption isOn letter) fuel isOn letters rest
            | some none => readLetters (setup.setSetting isOn name) fuel isOn letters rest
            | none => .error (name ++ ": invalid option name".toList)
        | [], _ => readLetters setup fuel isOn letters rest
      else if letter = 's' then
        readLetters { setup.setOption isOn letter with readsInput := isOn } fuel isOn letters rest
      else if letter = 'l' then readLetters setup fuel isOn letters rest
      else if setup.isKnown letter then
        readLetters (setup.setOption isOn letter) fuel isOn letters rest
      else match setup.dialect with
        | .plain => .error ("Illegal option " ++ [if isOn then '-' else '+', letter])
        | .extended => .error ((if isOn then '-' else '+') :: letter :: ": invalid option".toList)

end

def ofArguments (dialect : Dialect) (arguments : List Text) : Except Text Setup :=
  read ⟨[], false, false, [], dialect, []⟩
    ((arguments.map fun argument => argument.length + 2).foldl Nat.add 1) arguments

end Setup

/-- Ends a shell that cannot begin. -/
def refuseStart (plain extended : Text) (status : Nat) : Step Unit := do
  let shell ← get
  match shell.dialect with
  | .plain => complain plain
  | .extended => report (shell.name ++ ": ".toList ++ extended)
  setStatus (if shell.isExtended then status else 2)
  throw .exited

/-- Carries out a script as all that a process does. -/
def carryOut (run : Evaluator) (text : Text) : Step Unit :=
  Course.whole run do let _ ← Course.ofFile run text

/-- Carries out a shell under a name. -/
def shell (run : Evaluator) (dialect : Dialect) (name : Text) (arguments : List Text) :
    Step Unit := do
  modify fun shell => freshShell dialect shell name [] []
  match Setup.ofArguments dialect arguments with
  | .error problem => refuseStart problem problem 2
  | .ok setup =>
      let begin (name : Text) (parameters : List Text) : Step Unit := modify fun shell =>
        { shell with name, parameters, options := setup.options, settings := setup.settings }
      let comeFrom (origin : Text) (isGivenText : Bool) : Step Unit := modify fun shell =>
        { shell with origin, isGivenText }
      match setup.hasText, setup.operands with
      | true, [] =>
          refuseStart "-c requires an argument" "-c: option requires an argument" 2
      | true, text :: operands =>
          begin (operands.headD name) operands.tail
          comeFrom "environment" true
          Course.whole run do let _ ← Course.ofLines run false (.titled "-c" 1) [] text
      | false, operands =>
          if setup.readsInput || operands.isEmpty then
            begin name operands
            comeFrom "main" false
            carryOut run (← readInput false)
          else
            let path := operands.headD []
            match (← get).tree.find (shownText path) with
            | .error cause =>
                refuseStart ("cannot open " ++ path ++ ": " ++ FileError.wording .opening cause)
                  (path ++ ": ".toList ++ FileError.plainWording cause)
                  (if cause = .missing then 127 else 126)
            | .ok (.file content _) =>
                begin path operands.tail
                comeFrom path false
                carryOut run (spread content)
            | .ok (.directory _) =>
                if dialect = .extended then
                  refuseStart [] (path ++ ": Is a directory".toList) 126
                else
                  begin path operands.tail
                  carryOut run []
            | .ok _ =>
                begin path operands.tail
                carryOut run []

/-- Says of a program that it cannot be started, as another program does. -/
def complainOf (name program : Text) (error : StartError) : Step Unit := do
  let wording : Text := match error with
    | .file cause => Utility.wording cause
    | .noProgram => "Exec format error"
  Utility.complain name (Utility.nameInQuotes program ++ ": " ++ wording)

/-- The launch of a program that is named or lies at a path. A script that names no interpreter
is carried out by a shell. -/
def launch? (shell : Shell) (name : Text) (arguments : List Text) : Except StartError Launch := do
  let path ← (find shell name).mapError StartError.file
  match Launch.ofPath shell.tree Launch.longestChain name path arguments with
  | .error .noProgram =>
      let program : Text := match shell.dialect with
        | .plain => "sh"
        | .extended => "bash"
      return ⟨program, program, path :: arguments⟩
  | result => result

/-- The launch of a program that another one which is no shell asks for. -/
def launchAway? (shell : Shell) (name : Text) (arguments : List Text) :
    Except StartError Launch :=
  let directories := (shell.environment.get? "PATH").getD "/bin:/usr/bin"
  Launch.search shell.tree directories name arguments fun path =>
    .ok ⟨"sh", "/bin/sh", path :: arguments⟩

/-- Why a program cannot be started, in the words of the extended language, with the status that
this has. -/
def obstacle? (shell : Shell) (name : Text) : Option (Text × Nat) :=
  let isPath := '/' ∈ name
  let lacksPlaces := (shell.value "PATH").isEmpty
  match find shell name with
  | .error error =>
      if error = .denied then some ("Permission denied", 126)
      else if lacksPlaces then some ("No such file or directory", 127)
      else some ("command not found", 127)
  | .ok path =>
      match shell.tree.find (shownText path) with
      | .error error => some (FileError.plainWording error, if error = .missing then 127 else 126)
      | .ok (.directory _) => if isPath then some ("Is a directory", 126)
          else some ("command not found", 127)
      | .ok _ =>
          match launch? shell name [] with
          | .ok _ => none
          | .error (.file .denied) => some ("Permission denied", 126)
          | .error _ => some ("cannot execute: required file not found", 127)

/-- How much work it is to carry out another program. -/
def programEffort : Nat := 20

/-- The language of a program that is a shell. -/
def dialect? (program : Text) : Option Dialect :=
  match String.ofList program with
  | "sh" | "dash" => some .plain
  | "bash" => some .extended
  | _ => none

/-- Whether a program is the one that carries out programs on records. -/
def isRecordScanner (program : Text) : Bool := program = "awk" || program = "mawk"

/-- Splits assignments of variables off the front of arguments. -/
def splitAssignments : List Text → List (Text × Text) × List Text
  | [] => ([], [])
  | argument :: rest =>
      match Text.splitAt? '=' argument with
      | some entry =>
          let (entries, rest) := splitAssignments rest
          (entry :: entries, rest)
      | none => ([], argument :: rest)

/-- The variables that another program sees, as they are listed. -/
def listEnvironment (shell : Shell) : Text :=
  Utility.joinLines (shell.environment.bindings.reverse.map fun (name, value) =>
    name ++ '=' :: value)

/-- Carries out a program that another one asks for, the one called `name`. -/
def start (become : Launch → Step Unit) (name program : Text) (arguments : List Text) :
    Step Nat := do
  match launchAway? (← get) program arguments with
  | .ok launch =>
      become launch
      return 0
  | .error error =>
      complainOf name program error
      return refusalStatus error

/-- What carries out programs that another one asks for. -/
def starter (become : Launch → Step Unit) : Utility.Starter :=
  let wording : StartError → Text
    | .file cause => Utility.wording cause
    | .noProgram => "Exec format error"
  { obstacle? := fun program => do
      match launchAway? (← get) program [] with
      | .ok _ => return none
      | .error error => return some (wording error, refusalStatus error)
    run := fun program arguments => do
      match launchAway? (← get) program arguments with
      | .ok launch =>
          become launch
          return ([], 0)
      | .error error => return (wording error, refusalStatus error) }

/-- Carries out a program in the place of another one, or gives the reason why that cannot be. -/
def successor (become : Launch → Step Unit) (program : Text) (arguments : List Text) :
    Step FileError := do
  match launchAway? (← get) program arguments with
  | .ok launch =>
      become launch
      throw .exited
  | .error (.file cause) => return cause
  | .error .noProgram => return .denied

/-- Carries out a program with other variables, or shows them. -/
def environment (become : Launch → Step Unit) : Utility := fun name arguments => do
  let known : Utility.Options :=
    ⟨"i0v", "uC", [("ignore-environment", 'i'), ("null", '0'), ("unset", 'u'), ("chdir", 'C'),
      ("debug", 'v')], 125⟩
  let valueOf := (← get).value
  let total := (arguments.map fun argument => argument.length + 2).foldl (· + ·) 1
  match Utility.Splitting.expand known.valued valueOf total arguments with
  | .error problem =>
      Utility.complain name problem
      return known.refusal
  | .ok arguments =>
      match known.read true (arguments.length + 1) arguments with
      | .error problem => Utility.refuse name problem known.refusal
      | .ok call =>
          let (call, words) : Utility.Call × List Text := match call.operands with
            | ['-'] :: words => (call.add 'i' [], words)
            | words => (call, words)
          let (entries, words) := splitAssignments words
          modify fun shell =>
            let shell := if call.has 'i' then { shell with bindings := [] } else shell
            let removed := call.options.filter fun option => option.1 = 'u'
            let shell := removed.foldl (fun shell option => shell.setBinding option.2 none) shell
            entries.foldl (fun shell (name, value) =>
              shell.setBinding name (some (.plain value true))) shell
          match words, call.value? 'C' with
          | [], some _ => Utility.refuse name "must specify command with --chdir (-C)" known.refusal
          | [], none =>
              let text := listEnvironment (← get)
              let ended (c : Char) : Char := if c = '\n' then '\x00' else c
              print (if call.has '0' then text.map ended else text)
              return 0
          | program :: arguments, place? =>
              match place? with
              | some place =>
                  let tree := (← get).tree
                  match tree.locate (shownText place), tree.find (shownText place) with
                  | .ok location, .ok (.directory _) =>
                      modify fun shell => { shell with directory := location, trail := location }
                  | .ok _, .ok _ =>
                      return ← refusePlace name place .notDirectory
                  | .error error, _ | _, .error error => return ← refusePlace name place error
              | none => pure ()
              let status ← start become name program arguments
              if status = 127 && program.elem ' ' then
                Utility.complain name "use -[v]S to pass options in shebang lines"
              return status
where
  refusePlace (name place : Text) (error : FileError) : Step Nat := do
    Utility.complain name ("cannot change directory to ".toList ++ Utility.nameInQuotes place ++
      ": ".toList ++ Utility.wording error)
    return 125

/-- The names of the program that carries out programs whose blocks are told by indentation. -/
def indentedNames : List Text := ["python3", "python3.12"]

def isIndented (program : Text) : Bool := indentedNames.elem program

/-- Carries out a launch as all that a process does from here on. -/
def become (run : Evaluator) : (depth : Nat) → Launch → Step Unit
  | 0, _ => throw .late
  | depth + 1, launch => do
      spend programEffort
      modify fun shell => { shell with
        traps := shell.traps.filter fun (_, action) => action.isEmpty, ending := none }
      match dialect? launch.program with
      | some dialect => shell run dialect launch.name launch.arguments
      | none =>
        let utility : Utility :=
          if launch.program = "env" then environment (become run depth)
          else if isRecordScanner launch.program then
            Utility.awk fun program name arguments =>
              become run depth ⟨program, name, arguments⟩
          else if launch.program = "perl" then
            Utility.perl ⟨launch.name, successor (become run depth)⟩
          else if isIndented launch.program then
            Utility.python ⟨launch.name, successor (become run depth)⟩
          else match Utility.attended.lookup launch.program with
            | some utility => utility (starter (become run depth))
            | none => (Utility.table.lookup launch.program).getD fun _ _ => pure 0
        setStatus (← utility launch.name launch.arguments)
      throw .exited

/-- The programs that are known by their names. -/
def names : List Text :=
  ["sh".toList, "dash".toList, "bash".toList, "env".toList, "awk".toList, "mawk".toList,
    "perl".toList] ++ indentedNames ++ Utility.attended.map Prod.fst ++
    Utility.table.map Prod.fst

/-- How deep programs that start others go. -/
def depthFor (arguments : List Text) : Nat := arguments.length + 8

/-- Carries out a program in the place of what the process did so far. -/
def replace (run : Evaluator) (name : Text) (arguments : List Text) : Step Unit := do
  match launch? (← get) name arguments with
  | .ok launch => become run (depthFor launch.arguments) launch
  | .error error =>
      let cause := match error with
        | .file cause => cause
        | .noProgram => .denied
      let shell ← get
      match (if shell.isExtended then obstacle? shell name else none) with
      | some (problem, status) =>
          complain (name ++ ": ".toList ++ problem)
          setStatus status
      | none =>
          complain (name ++ ": " ++ FileError.wording .executing cause)
          setStatus (failureStatus error)
      throw .exited

end Program

end ShaderCost.Script
