import ShaderCost.Script.Condition
import ShaderCost.Script.Format
import ShaderCost.Script.Redirection

/-!
Commands that are a part of the shell: they see and change the state of the process that carries
out the script. Each gives its status.
-/

namespace ShaderCost.Script

abbrev Builtin := List Text → Step Nat

namespace Builtin

/-- Splits options off the front of arguments. Letters in `allowed` stand alone, those in `valued`
take a value. -/
def options (allowed valued : Text) : (fuel : Nat) → List Text →
    Step (List (Char × Text) × List Text)
  | 0, arguments => return ([], arguments)
  | _ + 1, [] => return ([], [])
  | fuel + 1, argument :: rest =>
      match argument with
      | ['-', '-'] => return ([], rest)
      | '-' :: letters@(_ :: _) => letterOptions fuel letters rest
      | _ => return ([], argument :: rest)
where
  letterOptions (fuel : Nat) : Text → List Text → Step (List (Char × Text) × List Text)
    | [], rest => options allowed valued fuel rest
    | letter :: letters, rest =>
        if allowed.elem letter then do
          let (more, arguments) ← letterOptions fuel letters rest
          return ((letter, []) :: more, arguments)
        else if valued.elem letter then do
          if !letters.isEmpty then
            let (more, arguments) ← options allowed valued fuel rest
            return ((letter, letters) :: more, arguments)
          else match rest with
            | [] => fail ("No arg for -" ++ letter :: " option")
            | value :: rest =>
                let (more, arguments) ← options allowed valued fuel rest
                return ((letter, value) :: more, arguments)
        else fail ("Illegal option -" ++ [letter])

def takeOptions (allowed valued : Text) (arguments : List Text) :
    Step (List (Char × Text) × List Text) :=
  options allowed valued (arguments.length + 1) arguments

/-- A number that an argument has to be. -/
def number (text : Text) : Step Nat :=
  match Numeral.count? text with
  | some number => return number
  | none => fail ("Illegal number: " ++ text)

/-- A text as it would be written in a script: quoted as a whole. -/
def quoted : (fuel : Nat) → Text → Text
  | 0, _ => []
  | fuel + 1, text =>
      let plain := text.takeWhile (· != '\'')
      let behind := text.drop plain.length
      let quotes := behind.takeWhile (· == '\'')
      let rest := behind.drop quotes.length
      let front : Text :=
        (if plain.isEmpty && !quotes.isEmpty then [] else '\'' :: plain ++ ['\'']) ++
        (if quotes.isEmpty then [] else '"' :: quotes ++ ['"'])
      if rest.isEmpty then front else front ++ quoted fuel rest

def quotedText (text : Text) : Text := quoted (text.length + 1) text

def printLine (text : Text) : Step Unit := print (text ++ ['\n'])

/-- Prints, and complains if there is nowhere to print to. -/
def printOr (name text : Text) (status : Nat) : Step Nat := do
  if ← write standardOutput text then return status
  complain (name ++ ": I/O error")
  return 1

def echo : Builtin := fun arguments => printOr "echo" (Format.echo arguments) 0

def printf : Builtin := fun arguments => do
  let (_, arguments) ← takeOptions [] [] arguments
  match arguments with
  | [] => fail "usage: printf format [arg ...]"
  | format :: arguments =>
      let (text, warnings, failure) := Format.printf format arguments
      for warning in warnings do complain warning
      let status ← printOr "printf" text (if warnings.isEmpty then 0 else 1)
      match failure with
      | some problem => fail problem
      | none => return status

def verdict (arguments : List Text) : Step Nat := do
  match Condition.holds (← get).tree arguments with
  | .ok holds => return if holds then 0 else 1
  | .error problem => fail problem

/-- A condition up to a closing bracket. -/
def bracket : Builtin := fun arguments => do
  if (arguments.getLast?.bind List.head?) = some ']' then verdict arguments.dropLast
  else fail "missing ]"

/-! Variables. -/

/-- Checks that a text can name a variable. -/
def checkName (name : Text) : Step Unit := do
  if !isName name then fail (name ++ ": bad variable name")

/-- Marks variables, giving those their values that come with one. -/
def markAll (mark : Binding → Binding) : List Text → Step Unit
  | [] => pure ()
  | argument :: rest => do
      let name := argument.takeWhile (· != '=')
      checkName name
      if name.length < argument.length then assign name (argument.drop (name.length + 1))
      modify fun shell =>
        shell.setBinding name (some (mark ((shell.binding? name).getD .bare)))
      markAll mark rest

/-- Variables with their values, as they would be written in a script. -/
def listing (command : Text) (chosen : Binding → Bool) : Step Unit := do
  let shell ← get
  let found := shell.bindings.filter fun (_, binding) => chosen binding
  let sorted := found.mergeSort fun left right => Text.atMost left.1 right.1
  for (name, binding) in sorted do
    match binding.value with
    | some value => printLine (command ++ name ++ '=' :: quotedText value)
    | none => if !command.isEmpty then printLine (command ++ name)

def marking (command : Text) (mark : Binding → Binding) (isMarked : Binding → Bool) : Builtin :=
  fun arguments => do
    let (found, arguments) ← takeOptions "p" [] arguments
    if !found.isEmpty || arguments.isEmpty then listing (command ++ [' ']) isMarked
    else markAll mark arguments
    return 0

def exportVariables : Builtin :=
  marking "export" (fun binding => { binding with isExported := true }) Binding.isExported

def protectVariables : Builtin :=
  marking "readonly" (fun binding => { binding with isReadonly := true }) Binding.isReadonly

def hideAll : List Text → Step Unit
  | [] => pure ()
  | argument :: rest => do
      let name := argument.takeWhile (· != '=')
      checkName name
      hide name
      if name.length < argument.length then assign name (argument.drop (name.length + 1))
      hideAll rest

/-- Makes variables that only a function has. -/
def hideVariables : Builtin := fun arguments => do
  if (← get).calls = 0 then fail "not in a function"
  hideAll arguments
  return 0

def unsetVariable (name : Text) : Step Unit := do
  if ((← get).binding? name).any Binding.isReadonly then
    failIn (name ++ ": is read only") (name ++ ": cannot unset: readonly variable".toList)
  modify fun shell => shell.setBinding name none

def unset : Builtin := fun arguments => do
  let (found, names) ← takeOptions "fv" [] arguments
  for name in names do
    if found.getLast?.map Prod.fst = some 'f' then
      modify fun shell =>
        { shell with functions := shell.functions.filter fun entry => entry.1 != name }
    else
      checkName name
      unsetVariable name
  return 0

/-- Reads lines that backslashes join, as characters that may separate fields or may not. -/
def readJoined (isRaw : Bool) : (fuel : Nat) → Step (List (Char × Bool) × Bool)
  | 0 => return ([], false)
  | fuel + 1 => do
      spend 1
      let line ← readInput true
      let isComplete := line.getLast? = some '\n'
      let text := (if isComplete then line.dropLast else line).filter (· != '\x00')
      if isRaw then return (text.map fun c => (c, true), isComplete)
      else
        let (characters, isJoined) := unquote text []
        if isJoined && isComplete then
          let (more, isComplete) ← readJoined isRaw fuel
          return (characters ++ more, isComplete)
        else return (characters, isComplete)
where
  /-- Takes backslashes away, and tells whether the last one joins the line to the next one. -/
  unquote : Text → (before : List (Char × Bool)) → List (Char × Bool) × Bool
    | [], before => (before.reverse, false)
    | ['\\'], before => (before.reverse, true)
    | '\\' :: c :: rest, before => unquote rest ((c, false) :: before)
    | c :: rest, before => unquote rest ((c, true) :: before)

def assignFields : List Text → List Text → Step Unit
  | [], _ => pure ()
  | name :: names, fields => do
      checkName name
      assign name (fields.headD [])
      assignFields names fields.tail

/-- Reads a line of the input into variables, the last of which takes all that is left. -/
def read : Builtin := fun arguments => do
  let (found, names) ← takeOptions "r" "p" arguments
  if names.isEmpty then fail "arg count"
  let isRaw := found.any fun option => option.1 = 'r'
  let (characters, isComplete) ← readJoined isRaw 1000000
  let separators := (← get).separators
  assignFields names (Fields.ofLine separators names.length characters)
  return if isComplete then 0 else 1

/-! Options and parameters. -/

def setOption (isOn : Bool) (letter : Char) : Step Unit := modify fun shell =>
  let others := shell.options.filter (· != letter)
  { shell with options := if isOn then letter :: others else others }

def isSettable (letter : Char) : Bool := "efImnsxvVECabup".toList.contains letter

/-- Shows which options are on, as a table or as it would be written in a script. -/
def showOptions (asScript : Bool) : Step Unit := do
  let shell ← get
  if !asScript then printLine "Current option settings"
  for (letter, name) in Shell.optionLetters do
    let isOn := shell.hasOption letter
    if asScript then printLine ("set " ++ (if isOn then "-o " else "+o ") ++ name)
    else
      let gap := List.replicate (16 - name.length) ' '
      printLine (name ++ gap ++ if isOn then "on" else "off")

/-- Sets options by their letters or names. What is left over are parameters, if there are any
to be set. `describe` puts an option that there is not into words. -/
def setOptions : (fuel : Nat) → List Text → Step (Option (List Text))
  | 0, _ | _ + 1, [] => return none
  | fuel + 1, argument :: rest =>
      match argument with
      | ['-', '-'] => return some rest
      | ['-'] => do
          setOption false 'x'
          setOption false 'v'
          if rest.isEmpty then return none else return some rest
      | sign :: letters =>
          if (sign = '-' || sign = '+') && !letters.isEmpty then
            setLetters fuel (sign = '-') letters rest
          else return some (argument :: rest)
      | [] => return some (argument :: rest)
where
  setLetters (fuel : Nat) (isOn : Bool) : Text → List Text → Step (Option (List Text))
    | [], rest => setOptions fuel rest
    | letter :: letters, rest =>
        if letter = 'o' then do
          match rest with
          | [] =>
              showOptions (!isOn)
              return none
          | name :: rest =>
              match Shell.optionLetters.find? fun entry => entry.2 = name with
              | some (letter, _) => setOption isOn letter
              | none => fail ("Illegal option -o " ++ name)
              setLetters fuel isOn letters rest
        else if isSettable letter then do
          setOption isOn letter
          setLetters fuel isOn letters rest
        else fail ("Illegal option " ++ (if isOn then '-' else '+') :: [letter])

def setParameters (parameters : List Text) : Step Unit := modify fun shell =>
  { shell with parameters, optionIndex := 1, optionOffset := none }

def set : Builtin := fun arguments => do
  if arguments.isEmpty then listing [] fun binding => binding.value.isSome
  else
    match ← setOptions (arguments.length + 1) arguments with
    | some parameters => setParameters parameters
    | none => pure ()
  return 0

def shift : Builtin := fun arguments => do
  let count ← match arguments with
    | [] => pure 1
    | count :: _ => number count
  let parameters := (← get).parameters
  if parameters.length < count then fail "can't shift that many"
  setParameters (parameters.drop count)
  return 0

/-- Takes the next option of some arguments. -/
def getopts : Builtin := fun arguments => do
  match arguments with
  | letters :: name :: given =>
      let shell ← get
      let words := if given.isEmpty then shell.parameters else given
      let (index, offset) :=
        if words.length + 1 < shell.optionIndex then (1, none)
        else (max shell.optionIndex 1, shell.optionOffset)
      let isQuiet := letters.head? = some ':'
      let current := match offset with
        | some offset => if index ≤ 1 then [] else ((words[index - 2]?).getD []).drop offset
        | none => []
      let finish (index : Nat) (offset : Option Nat) (found : Text) (status : Nat) : Step Nat := do
        assign "OPTIND" (Text.ofNat index)
        assign name found
        modify fun shell => { shell with optionIndex := index, optionOffset := offset }
        return status
      let (index, letterAndRest) : Nat × Option (Char × Text) :=
        match current with
        | letter :: rest => (index, some (letter, rest))
        | [] =>
            match words[index - 1]? with
            | some ['-', '-'] => (index + 1, none)
            | some ('-' :: letter :: rest) => (index + 1, some (letter, rest))
            | _ => (index, none)
      match letterAndRest with
      | none => finish index none ['?'] 1
      | some (letter, rest) =>
          let here := (words[index - 2]?).getD []
          let onward : Option Nat := some (here.length - rest.length)
          let refuse (problem found : Text) : Step Nat := do
            if isQuiet then assign "OPTARG" [letter]
            else
              if shell.isExtended then
                let problem : Text := if found = "?" then ": illegal option -- "
                  else ": option requires an argument -- "
                if shell.value "OPTERR" != "0" then report (shell.name ++ problem ++ [letter])
              else report (problem ++ letter :: (if found = "?" then [] else " option".toList))
              unsetVariable "OPTARG"
            finish index (if found = "?" then onward else none)
              (if isQuiet && found = ":" then [':'] else ['?']) 0
          let place := (letters.zipIdx.find? fun (c, place) =>
            c = letter && (c != ':' || place != 0) && c != ':').map Prod.snd
          match place with
          | none => refuse "Illegal option -" "?"
          | some place =>
              if letters[place + 1]? = some ':' then
                if !rest.isEmpty then
                  assign "OPTARG" rest
                  finish index none [letter] 0
                else match words[index - 1]? with
                  | some value =>
                      assign "OPTARG" value
                      finish (index + 1) none [letter] 0
                  | none => refuse "No arg for -" ":"
              else
                assign "OPTARG" []
                finish index onward [letter] 0
  | _ => fail "Usage: getopts optstring var [arg...]"

/-! Directories. -/

def pathOf (location : Location) : Text :=
  spreadText (if location.isEmpty then ['/'] else location.flatMap fun name => '/' :: name)

/-- The names that a path leads along from others, whatever links there are. -/
def plainTrail (start : Location) (path : Text) : Location :=
  (Path.names path).foldl (fun (trail : Location) (name : Text) =>
    if name = "." then trail
    else if name = ".." then trail.dropLast
    else trail ++ [name]) (if Path.isAbsolute path then [] else start)

/-- Changes the directory that relative paths start from. -/
def cd : Builtin := fun arguments => do
  let (flags, arguments) ← takeOptions "LP" [] arguments
  let isPhysical := (flags.getLast?.map Prod.fst) = some 'P'
  let shell ← get
  let isBack := arguments.head? = some ['-']
  let path := match arguments with
    | [] => shell.value "HOME"
    | path :: _ => if isBack then shell.value "OLDPWD" else path
  let target := shownText (if path.isEmpty then ['.'] else path)
  let trail := plainTrail shell.trail target
  let tree := if isPhysical then shell.tree else shell.tree.fromRoot
  let target := if isPhysical then target else '/' :: List.intercalate ['/'] trail
  match tree.locate target, tree.isDirectory target with
  | .ok location, true =>
      let trail := if isPhysical then location else trail
      assign "OLDPWD" (shell.value "PWD")
      assign "PWD" (pathOf trail)
      modify fun shell => { shell with directory := location, trail }
      if isBack then printLine (pathOf trail)
      return 0
  | _, _ => fail ("can't cd to " ++ path)

def pwd : Builtin := fun arguments => do
  let (flags, _) ← takeOptions "LP" [] arguments
  let shell ← get
  let isPhysical := (flags.getLast?.map Prod.fst) = some 'P'
  printLine (pathOf (if isPhysical then shell.directory else shell.trail))
  return 0

/-- The mask that a change in letters makes of another one. -/
def changeMask : (fuel : Nat) → Text → (mask : Nat) → Option Nat
  | 0, _, _ => none
  | fuel + 1, text, mask =>
      let who := text.takeWhile fun c => "ugoa".toList.contains c
      match text.drop who.length with
      | sign :: behind =>
          let what := behind.takeWhile fun c => "rwx".toList.contains c
          let bits := what.foldl (fun bits c =>
            bits ||| (if c = 'r' then 4 else if c = 'w' then 2 else 1)) 0
          let groups := if who.isEmpty || 'a' ∈ who then ['u', 'g', 'o'] else who
          let spread (bits : Nat) := groups.foldl (fun all c =>
            all ||| bits * (if c = 'u' then 64 else if c = 'g' then 8 else 1)) 0
          let changed :=
            if sign = '+' then some (mask &&& (511 - spread bits))
            else if sign = '-' then some (mask ||| spread bits)
            else if sign = '=' then
              some ((mask ||| spread 7) &&& (511 - spread bits))
            else none
          match changed, behind.drop what.length with
          | some mask, [] => some mask
          | some mask, ',' :: rest => changeMask fuel rest mask
          | _, _ => none
      | [] => none

def umask : Builtin := fun arguments => do
  let (found, arguments) ← takeOptions "S" [] arguments
  let mask := (← get).mask
  match arguments with
  | [] =>
      if found.isEmpty then
        let digits := Nat.toDigits 8 mask
        printLine (List.replicate (4 - digits.length) '0' ++ digits)
      else
        let letters (bits : Nat) : Text :=
          (if bits / 4 % 2 = 0 then ['r'] else []) ++ (if bits / 2 % 2 = 0 then ['w'] else []) ++
            if bits % 2 = 0 then ['x'] else []
        printLine ("u=" ++ letters (mask / 64) ++ ",g=" ++ letters (mask / 8) ++ ",o=" ++
          letters mask)
  | change :: _ =>
      let changed ←
        if change.head?.any Char.isDigit then
          if change.all isOctalDigit then pure (digitsIn 8 change % 512)
          else fail ("Illegal number: " ++ change)
        else
          match changeMask (change.length + 1) change mask with
          | some mask => pure mask
          | none => fail ("Illegal mode: " ++ change)
      modify fun shell => { shell with mask := changed }
  return 0

/-! Signals and processes. -/

/-- Says what is to be done when signals come. -/
def trap : Builtin := fun arguments => do
  let (_, arguments) ← takeOptions [] [] arguments
  match arguments with
  | [] =>
      let sorted := (← get).traps.mergeSort fun left right => left.1 ≤ right.1
      for (signal, action) in sorted do
        printLine ("trap -- " ++ quotedText action ++ ' ' :: Signal.name signal)
      return 0
  | first :: rest =>
      let isReset := rest.isEmpty || (Numeral.count? first).any fun number => number < Signal.count
      setTraps (if isReset || first = "-" then none else some first)
        (if isReset then arguments else rest)
where
  setTraps (action : Option Text) : List Text → Step Nat
    | [] => return 0
    | signal :: rest => do
        match Signal.ofText? signal with
        | none =>
            report ("trap: " ++ signal ++ ": bad trap")
            return 1
        | some signal =>
            modify fun shell =>
              let others := shell.traps.filter fun entry => entry.1 != signal
              { shell with traps := match action with
                | some action => (signal, action) :: others
                | none => others }
            setTraps action rest

/-- Ends a background process at this time, unless it ended before. -/
def endJob (process signal : Nat) : Step Unit := modify fun shell =>
  let now := shell.now
  let machine := shell.machine
  match machine.finished.find? fun finished => finished.process = process with
  | some finished =>
      if finished.time ≤ now || Signal.effect signal != .ends then shell
      else
        let others := machine.finished.filter fun finished => finished.process != process
        { shell with machine := { machine with
          finished := ⟨process, now, 0, some signal⟩ :: others
          printed := machine.printed.filter fun chunk => chunk.job != process || chunk.time ≤ now
          holds := machine.holds.map fun hold =>
            if hold.job = process then { hold with time := min hold.time now } else hold } }
  | none => shell

/-- Sends a signal to a process. -/
def send (signal process : Nat) : Step Bool := do
  let shell ← get
  if process = shell.process then
    arrive signal
    return true
  else if process = shell.own || process = firstProcess then
    modify fun shell => { shell with machine := { shell.machine with
      signals := (process, signal) :: shell.machine.signals } }
    return true
  else if shell.machine.finished.any fun finished => finished.process = process then
    endJob process signal
    return true
  else return false

def killUsage : Text :=
  "Usage: kill [-s sigspec | -signum | -sigspec] [pid | job]... or\nkill -l [exitstatus]"

/-- Names signals by their numbers or by statuses. -/
def nameSignals (arguments : List Text) : Step Nat := do
  match arguments with
  | [] =>
      printLine ['0']
      for (name, _) in Signal.table do printLine name
      return 0
  | status :: _ =>
      let number ← number status
      let signal := if Signal.status 0 < number then number - Signal.status 0 else number
      if 0 < signal && signal < Signal.count then
        printLine (Signal.name signal)
        return 0
      else fail ("invalid signal number or exit status: " ++ status)

def sendAll (signal : Nat) : List Text → Step Nat
  | [] => return 0
  | process :: rest => do
      if process.head? = some '%' then fail ("No such job: " ++ process)
      let found ← match process with
        | '-' :: group => do
            let number ← number group
            send signal number
        | _ => do
            let number ← number process
            send signal number
      if !found then complain "No such process\n"
      let status ← sendAll signal rest
      return if found then status else 1

def kill : Builtin := fun arguments => do
  match arguments with
  | [] => fail killUsage
  | ('-' :: spec) :: rest =>
      match Signal.ofText? spec with
      | some signal => if rest.isEmpty then fail killUsage else sendAll signal rest
      | none =>
          let (found, rest) ← takeOptions "l" "s" arguments
          if found.any fun option => option.1 = 'l' then nameSignals rest
          else
            let signal ← match found.getLast? with
              | some (_, name) =>
                  match Signal.ofText? name with
                  | some signal => pure signal
                  | none => fail ("invalid signal number or name: " ++ name)
              | none => pure 15
            if rest.isEmpty then fail killUsage else sendAll signal rest
  | _ => sendAll 15 arguments

/-- Waits for background processes; for all of them without arguments. -/
def wait : Builtin := fun arguments => do
  let shell ← get
  let find (number : Nat) := shell.machine.finished.find? fun finished =>
    finished.process = number && shell.jobs.contains number
  match arguments with
  | [] =>
      for number in shell.jobs.reverse do
        match find number with
        | some finished => await finished
        | none => pure ()
      modify fun shell => { shell with jobs := [] }
      return 0
  | _ =>
      let mut status := 0
      for argument in arguments do
        let number ← number argument
        match find number with
        | some finished =>
            await finished
            status := (← get).status
        | none => status := 127
      return status

/-! The course of a script. -/

/-- Ends the process, with the status that an argument gives. -/
def leave : Builtin := fun arguments => do
  match arguments with
  | [] => throw .exited
  | status :: _ =>
      let status ← number status
      modify fun shell => { shell with status, ending := some status }
      throw .exited

/-- Ends a function, with the status that an argument gives. -/
def comeBack : Builtin := fun arguments => do
  match arguments with
  | [] => throw .returned
  | status :: _ =>
      setStatus (← number status)
      throw .returned

/-- Leaves the round of a loop, or of one further out, as far as there are loops. -/
def leaveRound (halt : Nat → Halt) : Builtin := fun arguments => do
  let levels ← match arguments with
    | [] => pure 1
    | levels :: _ => do
        let count ← number levels
        if count = 0 then fail ("Illegal number: " ++ levels)
        pure count
  let loops := (← get).loops
  setStatus 0
  if loops = 0 then return 0 else throw (halt (min levels loops - 1))

/-! Names. -/

def setAlias (name value : Text) : Step Unit := modify fun shell =>
  let others := shell.aliases.filter fun entry => entry.1 != name
  { shell with aliases := (name, value) :: others }

/-- Defines aliases or shows them. -/
def defineAliases : Builtin := fun arguments => do
  let showAlias (entry : Text × Text) : Step Unit :=
    printLine (entry.1 ++ '=' :: quotedText entry.2)
  if arguments.isEmpty then
    for entry in (← get).aliases.mergeSort fun left right => Text.atMost left.1 right.1 do
      showAlias entry
    return 0
  let mut status := 0
  for argument in arguments do
    let name := argument.take 1 ++ (argument.drop 1).takeWhile (· != '=')
    if name.length < argument.length then setAlias name (argument.drop (name.length + 1))
    else
      match (← get).aliases.lookup argument with
      | some value => showAlias (argument, value)
      | none =>
          report ("alias: " ++ argument ++ " not found")
          status := 1
  return status

def forgetAliases : Builtin := fun arguments => do
  let (found, names) ← takeOptions "a" [] arguments
  if !found.isEmpty then modify fun shell => { shell with aliases := [] }
  let mut status := 0
  for name in names do
    if ((← get).aliases.lookup name).isNone then
      report ("unalias: " ++ name ++ " not found")
      status := 1
    modify fun shell =>
      { shell with aliases := shell.aliases.filter fun entry => entry.1 != name }
  return status

def ulimit : Builtin := fun arguments => do
  let (_, arguments) ← takeOptions "HSatfdscmlpnvwr" [] arguments
  if arguments.isEmpty then printLine "unlimited"
  return 0

def noJob : Builtin := fun _ => fail "No current job"

def nothing (status : Nat) : Builtin := fun _ => return status

/-- Commands on texts and names. -/
def ofTexts : List (Text × Builtin) := [
  (":", nothing 0), ("true", nothing 0), ("false", nothing 1), ("echo", echo), ("printf", printf),
  ("test", verdict), ("[", bracket), ("alias", defineAliases), ("unalias", forgetAliases)]

/-- Commands on variables, options and directories. -/
def ofState : List (Text × Builtin) := [
  ("export", exportVariables), ("readonly", protectVariables), ("local", hideVariables),
  ("unset", unset), ("read", read), ("set", set), ("shift", shift), ("getopts", getopts),
  ("cd", cd), ("chdir", cd), ("pwd", pwd), ("umask", umask), ("ulimit", ulimit)]

/-- Commands on processes and the course that a script takes. -/
def ofCourse : List (Text × Builtin) := [
  ("trap", trap), ("kill", kill), ("wait", wait), ("exit", leave),
  ("return", comeBack), ("break", leaveRound .brokeOff),
  ("continue", leaveRound .continued), ("fg", noJob), ("bg", noJob), ("jobs", nothing 0),
  ("times", nothing 0)]

/-- The commands by their names. -/
def table : List (Text × Builtin) := ofTexts ++ ofState ++ ofCourse

end Builtin

end ShaderCost.Script
