import ShaderCost.Script.Indented.Tasks

/-!
The course of a whole program: the state that it begins with, what is said of a fault that nothing
deals with, and the status that it ends with.
-/

namespace ShaderCost.Script.Indented

/-- How deep terms, statements and calls go inside one another. -/
def deepest : Nat := 20000

/-- What is told to a program beside its text. -/
structure Setting where
  /-- The name under which the text is traced, and whether that is a file. -/
  path : Text
  isFile : Bool
  /-- Where modules are looked for first. -/
  directory : Text
  arguments : List Text
  holdsNothing : Bool
  /-- Whether assertions are checked. -/
  checks : Bool

/-! The beginning. -/

def standardHandle (name : Text) (number : Nat) (mayRead : Bool) (most : Nat) : Content :=
  .handle {
    name := .text name, mode := if mayRead then "rb" else "wb", isText := false
    way := .stream (.ofNumber number most), mayRead, mayWrite := !mayRead }

def standardSheet (below : Nat) (endsLines : Bool) (errors : Text) : Content :=
  .sheet {
    below, held := [], heldLength := 0, endsLines, encoding := "utf-8", errors, ending := none
    ahead := none }

/-- What lies at the places that are known from the start. -/
def firstContents (holdsNothing : Bool) : List Content :=
  let most := if holdsNothing then 0 else Stream.usualMost
  [.scope ⟨.empty, .module, [], [], [], none⟩, .scope ⟨.empty, .module, [], [], [], none⟩,
    standardHandle "<stdin>" 0 true 0, standardSheet 2 false "surrogateescape",
    standardHandle "<stdout>" 1 false most, standardSheet 4 holdsNothing "surrogateescape",
    standardHandle "<stderr>" 2 false 0, standardSheet 6 true "backslashreplace"]

def firstState (setting : Setting) : State where
  routines := #[]
  cells := (firstContents setting.holdsNothing).toArray
  modules := .empty
  sources := []
  frames := []
  depth := 0
  deepest := 1000
  handled := []
  expressions := []
  lastCalls := []
  handlers := []
  alarm := none
  checks := setting.checks
  asked := 0
  seed := 88172645463325252

/-- What the system part of the library holds that never differs. -/
def systemValues : List (Text × Value) := [
  ("stdin", .object placeOfInput), ("stdout", .object placeOfOutput),
  ("stderr", .object placeOfProblems), ("__stdin__", .object placeOfInput),
  ("__stdout__", .object placeOfOutput), ("__stderr__", .object placeOfProblems),
  ("version", .text "3.12.3 (main, Feb  4 2025, 14:48:35) [GCC 13.3.0]"),
  ("hexversion", .whole 51118064), ("platform", .text "linux"), ("byteorder", .text "little"),
  ("executable", .text "/usr/bin/python3"), ("prefix", .text "/usr"),
  ("base_prefix", .text "/usr"), ("exec_prefix", .text "/usr"),
  ("maxsize", .whole 9223372036854775807), ("maxunicode", .whole 1114111),
  ("dont_write_bytecode", .bool false), ("tracebacklimit", .whole 1000), ("ps1", .text ">>> ")]

/-- A value of the library with attributes, which counts as a tuple of them. -/
def makeRecord (name : Text) (entries : List (Text × Value)) : Run Value := do
  let type ← makeKind name name "sys" [.type "tuple"] .empty
  make (.member type (.ofEntries entries) (.tuple (entries.map Prod.snd)))

/-- Where modules are looked for that the system has. -/
def systemPaths : List Text :=
  ["/usr/lib/python312.zip", "/usr/lib/python3.12", "/usr/lib/python3.12/lib-dynload",
    "/usr/local/lib/python3.12/dist-packages", "/usr/lib/python3/dist-packages"]

def prepareSystem (setting : Setting) : Run Unit := do
  let shell ← getThe Shell
  let bind (name : Text) (value : Value) : Run Unit := bindAt placeOfSystem name value
  for (name, value) in systemValues do bind name value
  for (name, number) in ([("stdin", 0), ("stdout", 1), ("stderr", 2)] : List (Text × Nat)) do
    if (shell.channel? number).isNone then
      bind name .none
      bind ("__".toList ++ name ++ "__".toList) .none
  for name in systemFeatures do bind name (.feature ("sys.".toList ++ name))
  bind "argv" (← makeList (Value.ofTexts (setting.arguments.map shownText)))
  let more : List Text := match shell.environment.get? "PYTHONPATH" with
    | some paths => (shownText paths).splitOn ':' |>.filter (!·.isEmpty)
    | none => []
  bind "path" (← makeList (Value.ofTexts (setting.directory :: more ++ systemPaths)))
  bind "version_info" (← makeRecord "version_info" [
    ("major", .whole 3), ("minor", .whole 12), ("micro", .whole 3), ("releaselevel", .text "final"),
    ("serial", .whole 0)])
  bind "implementation" (← makeRecord "SimpleNamespace" [("name", .text "cpython")])
  bind "float_info" (← makeRecord "float_info" [
    ("max", .real (Float.ofBits 0x7fefffffffffffff)),
    ("min", .real (Float.ofBits 0x10000000000000)),
    ("epsilon", .real (Float.ofBits 0x3cb0000000000000)), ("dig", .whole 15),
    ("mant_dig", .whole 53)])
  let flag (name : Text) (isOn : Bool) : Text × Value := (name, .whole (if isOn then 1 else 0))
  bind "flags" (← makeRecord "flags" [
    flag "debug" false, flag "inspect" false, flag "interactive" false,
    flag "optimize" !setting.checks, flag "dont_write_bytecode" false, flag "no_user_site" false,
    flag "no_site" false, flag "ignore_environment" false, flag "verbose" false,
    flag "bytes_warning" false, flag "quiet" false, flag "hash_randomization" true,
    flag "isolated" false, ("dev_mode", .bool false), flag "utf8_mode" false,
    flag "warn_default_encoding" false, ("safe_path", .bool false),
    ("int_max_str_digits", .whole 4300)])
  bind "modules" (← make (.table .empty))
  bind "__name__" (.text "sys")
  keepModule "sys" (← make (.module "sys" placeOfSystem))

def prepareMain (setting : Setting) : Run Unit := do
  let bind (name : Text) (value : Value) : Run Unit := bindAt placeOfMain name value
  bind "__name__" (.text "__main__")
  bind "__doc__" .none
  bind "__package__" .none
  bind "__loader__" .none
  bind "__spec__" .none
  bind "__annotations__" (← make (.table .empty))
  if !setting.checks then bind "__debug__" (.bool false)
  bind "__builtins__" .none
  if setting.isFile then
    bind "__file__" (.text setting.path)
    bind "__cached__" .none
  keepModule "__main__" (← make (.module "__main__" placeOfMain))

/-! Faults that nothing deals with. -/

variable (evaluator : Evaluator)

/-- Puts a text out where problems are told. -/
def tell (text : Text) : Run Unit := do
  putTo evaluator (← systemValue "stderr") text

/-- The status that a program asks for when it ends itself. -/
def statusAsked (fault : Fault) : Run Nat := do
  let value : Value := match fault.arguments with
    | [] => .none
    | [value] => value
    | values => .tuple values
  let value := (fault.attributes.get? "code").getD value
  match value with
  | .none => return 0
  | value =>
      match value.whole? with
      | some number => return (number % 256).toNat
      | none =>
          tell evaluator ((← shown evaluator value) ++ ['\n'])
          return 1

/-- What becomes of a fault that nothing deals with. -/
def settle (value : Value) : Run Nat := do
  match ← faultAt? value with
  | none => return 1
  | some (_, fault) =>
      if ← isInstance value (.type "SystemExit") then statusAsked evaluator fault
      else
        match ← systemValue "excepthook" with
        | .object hook =>
            let _ ← evaluator.call (.object hook) [fault.type, value, .none] []
        | _ => tell evaluator (← report evaluator 0 value)
        if ← isInstance value (.type "KeyboardInterrupt") then return 130 else return 1

/-- Carries out a part of a program. The result is the status that it ends with, if it ends there,
and whether it ends at once. -/
def settled (action : Run Unit) : Run (Nat × Bool) := do
  let attempt : Run (Nat × Bool) := do
    action
    return (0, false)
  tryCatch attempt fun leave => match leave with
    | .ended status => return (status, true)
    | .raised value => do
        let failing : Run (Nat × Bool) := do return (← settle evaluator value, false)
        tryCatch failing fun _ => return (1, false)
    | _ => return (0, false)

/-- The text that shows where a text is no program. -/
def flawText (path text : Text) (flaw : Flaw) : Text :=
  let line := ((text.splitOn '\n')[flaw.line - 1]?).getD []
  let kept := trimmedFront line
  let column := flaw.column - (line.length - kept.length)
  let mark := List.replicate column ' ' ++ List.replicate (max 1 flaw.width) '^'
  "  File \"".toList ++ path ++ "\", line ".toList ++ Text.ofNat flaw.line ++ "\n    ".toList ++
    trimmedEnd kept ++ "\n    ".toList ++ mark ++ '\n' :: flaw.kind ++ ": ".toList ++
      flaw.message ++
    ['\n']

/-- Calls what is to be called at the end, the last one first. -/
def callLast : (fuel : Nat) → Run Unit
  | 0 => pure ()
  | fuel + 1 => do
      match (← get).lastCalls with
      | [] => pure ()
      | (code, arguments, named) :: rest =>
          modify fun state => { state with lastCalls := rest }
          let _ ← settled evaluator do
            let _ ← evaluator.call code arguments named
          callLast fuel

/-- Carries out a whole program. The result is its status. -/
def carryOutAll (setting : Setting) (text : Text) : Run Nat := do
  prepareSystem setting
  prepareMain setting
  if setting.isFile then keepSource setting.path text
  let (status, isOver) ← settled evaluator do
    match Program.ofText #[] text with
    | .error flaw =>
        tell evaluator (flawText setting.path text flaw)
        raiseWith "SystemExit" [.whole 1]
    | .ok program =>
        modify fun state => { state with routines := program.routines }
        bindAt placeOfMain "__doc__" (leadingText program.body)
        let _ ← carryOutModule evaluator placeOfMain setting.path program.body
  if isOver then return status
  callLast evaluator evaluator.limit
  let (_, _) ← settled evaluator flushAll
  if status = 130 then
    let _ ← liftM (n := Run) (Builtin.send 2 (← getThe Shell).process)
  return status

/-- Carries out a program in a process. -/
def carryOut (host : Host) (setting : Setting) (text : Text) : Step Nat := do
  let limit := (← get).machine.effort + 1
  let run : Run Nat := carryOutAll (Evaluator.ofDepth host limit deepest) setting text
  let (result, _) ← (run.run).run (firstState setting)
  return result.toOption.getD 1

end ShaderCost.Script.Indented

/-!
The utility that carries out programs whose blocks are told by indentation.
-/

namespace ShaderCost.Script.Utility

namespace Indentation

/-- What a call asks to carry out. -/
inductive Origin where
  | piece (text : Text)
  | module (name : Text)
  | file (path : Text)
  | input

structure Setup where
  holdsNothing : Bool
  /-- Whether assertions are checked. -/
  checks : Bool
  origin : Origin
  /-- The name by which the program is known to itself, and its arguments. -/
  arguments : List Text

/-- Why nothing is carried out. -/
inductive Refusal where
  /-- A text that is asked for. -/
  | answer (text : Text)
  | wrong (problem : Text)

/-- Letters that change nothing here, and those with a value. -/
def idleLetters : Text := "bBdEiIPqRsSvx".toList

def valueLetters : Text := "WXQ".toList

/-- Reads the arguments of a call. -/
def read (setup : Setup) : (fuel : Nat) → (letters : Text) → List Text → Except Refusal Setup
  | 0, _, _ => .ok setup
  | fuel + 1, letter :: letters, rest =>
      let value : Except Refusal (Text × List Text) := match letters, rest with
        | [], value :: rest => .ok (value, rest)
        | [], [] =>
            .error (.wrong ("Argument expected for the -".toList ++ letter :: " option".toList))
        | letters, rest => .ok (letters, rest)
      if letter = 'u' then read { setup with holdsNothing := true } fuel letters rest
      else if letter = 'O' then read { setup with checks := false } fuel letters rest
      else if idleLetters.elem letter then read setup fuel letters rest
      else if valueLetters.elem letter then do
        let (_, rest) ← value
        read setup fuel [] rest
      else if letter = 'c' then do
        let (text, rest) ← value
        return { setup with origin := .piece (text ++ ['\n']), arguments := "-c".toList :: rest }
      else if letter = 'm' then do
        let (name, rest) ← value
        return { setup with origin := .module name, arguments := "-m".toList :: rest }
      else if letter = 'V' then .error (.answer "Python 3.12.3\n")
      else .error (.wrong ("Unknown option: -".toList ++ [letter]))
  | _ + 1, [], [] => .ok setup
  | fuel + 1, [], argument :: rest =>
      match argument with
      | ['-'] => .ok { setup with arguments := "-".toList :: rest }
      | '-' :: '-' :: name =>
          if name = "version" then .error (.answer "Python 3.12.3\n")
          else if name.isEmpty then match rest with
            | [] => .ok setup
            | path :: rest => .ok { setup with origin := .file path, arguments := path :: rest }
          else .error (.wrong ("unknown option ".toList ++ argument))
      | '-' :: letters => read setup fuel letters rest
      | path => .ok { setup with origin := .file path, arguments := path :: rest }

def usage (name : Text) : Text :=
  "usage: ".toList ++ name ++ " [option] ... [-c cmd | -m mod | file | -] [arg] ...\n".toList ++
    "Try \x60python -h' for more information.\n".toList

/-- Puts a message out. -/
def tell (text : Text) : Step Unit := do
  let _ ← Script.write standardError text

/-- The status of a call that is refused. -/
def refusal : Nat := 2

/-- A path from the root. -/
def fullPath (path : Text) : Step Text := do
  if path.head? = some '/' then return path
  let front := Builtin.pathOf (← get).directory
  return (if front = "/" then [] else front) ++ '/' :: path

/-- The directory that a path lies in, without steps that lead nowhere. -/
def directoryOf (path : Text) : Step Text := do
  let shell ← get
  match shell.tree.follow (shownText path) with
  | .ok trail => return Builtin.pathOf trail.location.dropLast
  | .error _ => return Builtin.pathOf (Builtin.plainTrail shell.directory path).dropLast

/-- Carries out octets that come from somewhere. -/
def carryOutOctets (host : Indented.Host) (setup : Setup) (path directory octets : Text)
    (isFile : Bool) : Step Nat := do
  let path := shownText path
  let setting : Indented.Setting := {
    path, isFile, directory := shownText directory, arguments := setup.arguments
    checks := setup.checks
    holdsNothing := setup.holdsNothing || (((← get).environment.get? "PYTHONUNBUFFERED").any
      fun value => !value.isEmpty) }
  Indented.carryOut host setting (shownText octets)

/-- Carries out the file at a path. -/
def carryOutFile (host : Indented.Host) (setup : Setup) (name path : Text) : Step Nat := do
  let full ← fullPath path
  let complainOf (problem : Text) (number : Nat) : Step Nat := do
    tell (name ++ ": can't open file '".toList ++ full ++ "': [Errno ".toList ++
      Text.ofNat number ++ "] ".toList ++ problem ++ ['\n'])
    return refusal
  match ← content path with
  | .error .isDirectory =>
      tell ("/usr/bin/python3: can't find '__main__' module in '".toList ++ full ++ "'\n".toList)
      return 1
  | .error error =>
      match error.system? with
      | some (_, number) => complainOf (Indented.systemWordsFor number) number
      | none => complainOf (wording error) 22
  | .ok octets =>
      carryOutOctets host setup full (← directoryOf path) octets true

end Indentation

/-- Carries out a program whose blocks are told by indentation. -/
def python (host : Indented.Host) : Utility := fun name arguments => do
  let length := (arguments.map List.length).foldl (· + ·) (2 * arguments.length)
  match Indentation.read ⟨false, true, .input, [[]]⟩ (length + 2) [] arguments with
  | .error (.answer text) =>
      print text
      return 0
  | .error (.wrong problem) =>
      Indentation.tell (problem ++ '\n' :: Indentation.usage name)
      return Indentation.refusal
  | .ok setup =>
      match setup.origin with
      | .piece text => Indentation.carryOutOctets host setup "<string>" [] text false
      | .input =>
          let text ← readInput false
          Indentation.carryOutOctets host setup "<stdin>" [] text false
      | .file path => Indentation.carryOutFile host setup name path
      | .module module =>
          let path := (module.map fun c => if c = '.' then '/' else c) ++ ".py".toList
          match (← get).tree.find (shownText path) with
          | .ok (.file _ _) =>
              let full ← Indentation.fullPath path
              let setup := { setup with arguments := full :: setup.arguments.drop 1 }
              Indentation.carryOutFile host setup name path
          | _ =>
              match (Indented.partOf? module).map Indented.Part.text with
              | some (c :: text) =>
                  let path := Indented.libraryPath ++ path
                  let setup := { setup with arguments := path :: setup.arguments.drop 1 }
                  Indentation.carryOutOctets host setup path [] (spreadText (c :: text)) true
              | _ =>
                  Indentation.tell
                    ("/usr/bin/python3: No module named ".toList ++ module ++ ['\n'])
                  return 1

end ShaderCost.Script.Utility
