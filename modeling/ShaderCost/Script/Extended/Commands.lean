import ShaderCost.Script.Extended.Forms
import ShaderCost.Script.Condition
import ShaderCost.Script.Extended.Reading
import ShaderCost.Script.Shell
import ShaderCost.Script.Utility.Clock

/-!
Options and settings of the extended language, and the commands that show and change them.
-/

namespace ShaderCost.Script.Extended

/-- Options by their names, each with its letter if it has one. -/
def optionNames : List (Text × Option Char) := [
  ("allexport", some 'a'), ("braceexpand", some 'B'), ("emacs", none), ("errexit", some 'e'),
  ("errtrace", some 'E'), ("functrace", some 'T'), ("hashall", some 'h'), ("histexpand", some 'H'),
  ("history", none), ("ignoreeof", none), ("interactive-comments", none), ("keyword", some 'k'),
  ("monitor", some 'm'), ("noclobber", some 'C'), ("noexec", some 'n'), ("noglob", some 'f'),
  ("nolog", none), ("notify", some 'b'), ("nounset", some 'u'), ("onecmd", some 't'),
  ("physical", some 'P'), ("pipefail", none), ("posix", none), ("privileged", some 'p'),
  ("verbose", some 'v'), ("vi", none), ("xtrace", some 'x')]

/-- Options that are on from the start. -/
def alwaysOn : List Text := ["braceexpand", "hashall", "interactive-comments"]

def isOptionOn (shell : Shell) (name : Text) (letter : Option Char) : Bool :=
  alwaysOn.elem name || shell.settings.elem name || letter.any shell.hasOption

def changeSetting (isOn : Bool) (name : Text) : Step Unit := modify fun shell =>
  let others := shell.settings.filter (· != name)
  { shell with settings := if isOn then name :: others else others }

def isLetter (letter : Char) : Bool := "abefhkmnptuvxBCEHPT".toList.elem letter

def setUsage : Text :=
  "set [-abefhkmnptuvxBCEHPT] [-o option-name] [--] [-] [arg ...]"

/-- A name with its state, in columns. -/
def stateLine (width : Nat) (name : Text) (isOn : Bool) : Text :=
  name ++ List.replicate (width - name.length) ' ' ++ '\t' :: if isOn then "on" else "off"

def showOptions (asScript : Bool) : Step Unit := do
  let shell ← get
  for (name, letter) in optionNames do
    let isOn := isOptionOn shell name letter
    if asScript then Builtin.printLine ((if isOn then "set -o " else "set +o ") ++ name)
    else Builtin.printLine (stateLine 15 name isOn)

/-- Sets options by letters and names. What is left over are parameters, if there are any to be
set; a status comes back where an option is not known. -/
def setOptions : (fuel : Nat) → List Text → Step (Except Nat (Option (List Text)))
  | 0, _ | _ + 1, [] => return .ok none
  | fuel + 1, argument :: rest =>
      match argument with
      | ['-', '-'] => return .ok (some rest)
      | ['-'] => do
          Builtin.setOption false 'x'
          Builtin.setOption false 'v'
          return .ok (if rest.isEmpty then none else some rest)
      | sign :: letter :: letters =>
          if sign = '-' || sign = '+' then go fuel (sign = '-') (letter :: letters) rest
          else return .ok (some (argument :: rest))
      | _ => return .ok (some (argument :: rest))
where
  go (fuel : Nat) (isOn : Bool) : Text → List Text → Step (Except Nat (Option (List Text)))
    | [], rest => setOptions fuel rest
    | letter :: letters, rest =>
        if letter = 'o' then do
          match rest with
          | [] =>
              showOptions (!isOn)
              return .ok none
          | name :: rest =>
              match optionNames.lookup name with
              | some (some letter) =>
                  Builtin.setOption isOn letter
                  go fuel isOn letters rest
              | some none =>
                  changeSetting isOn name
                  go fuel isOn letters rest
              | none =>
                  complain (name ++ ": invalid option name".toList)
                  return .error 2
        else if isLetter letter then do
          Builtin.setOption isOn letter
          go fuel isOn letters rest
        else do
          complain ((if isOn then '-' else '+') :: letter :: ": invalid option".toList)
          showUsage setUsage
          return .error 2

def set : Builtin := fun arguments => do
  if arguments.isEmpty then
    Declaration.listValues
    return 0
  match ← setOptions (arguments.length + 1) arguments with
  | .error status => return status
  | .ok (some parameters) => Builtin.setParameters parameters
  | .ok none => pure ()
  return 0

/-- The names of further settings, and whether they are on from the start. -/
def settingNames : List (Text × Bool) :=
  let first : List (Text × Bool) := [
    ("autocd", false), ("assoc_expand_once", false), ("cdable_vars", false), ("cdspell", false),
    ("checkhash", false), ("checkjobs", false), ("checkwinsize", true), ("cmdhist", true),
    ("compat31", false), ("compat32", false), ("compat40", false), ("compat41", false),
    ("compat42", false), ("compat43", false), ("compat44", false), ("complete_fullquote", true),
    ("direxpand", false), ("dirspell", false), ("dotglob", false), ("execfail", false),
    ("expand_aliases", false), ("extdebug", false), ("extglob", false), ("extquote", true)]
  let second : List (Text × Bool) := [
    ("failglob", false), ("force_fignore", true), ("globasciiranges", true),
    ("globskipdots", true), ("globstar", false), ("gnu_errfmt", false), ("histappend", false),
    ("histreedit", false), ("histverify", false), ("hostcomplete", true), ("huponexit", false),
    ("inherit_errexit", false), ("interactive_comments", true), ("lastpipe", false),
    ("lithist", false), ("localvar_inherit", false), ("localvar_unset", false),
    ("login_shell", false), ("mailwarn", false), ("no_empty_cmd_completion", false),
    ("nocaseglob", false), ("nocasematch", false), ("noexpand_translation", false)]
  let third : List (Text × Bool) := [
    ("nullglob", false), ("patsub_replacement", true), ("progcomp", true),
    ("progcomp_alias", false), ("promptvars", true), ("restricted_shell", false),
    ("shift_verbose", false), ("sourcepath", true), ("varredir_close", false),
    ("xpg_echo", false)]
  first ++ second ++ third

/-- Whether a setting is on; one that is on from the start is kept under a name of its own when it
is switched off. -/
def isSettingOn (shell : Shell) (name : Text) (isFirst : Bool) : Bool :=
  if isFirst then !shell.settings.elem ('-' :: name) else shell.settings.elem name

def chooseSettings : Builtin := withOptions "opqsu" [] "shopt [-pqsu] [-o] [optname ...]"
    fun found names => do
  let isSetting := has found 's' || has found 'u'
  let shown (name : Text) (isOn : Bool) : Step Unit := do
    if has found 'q' then pure ()
    else if has found 'p' then
      Builtin.printLine ((if isOn then "shopt -s " else "shopt -u ") ++ name)
    else Builtin.printLine (stateLine 15 name isOn)
  match names with
  | [] =>
      let shell ← get
      for (name, isFirst) in settingNames do
        let isOn := isSettingOn shell name isFirst
        if !isSetting || isOn = has found 's' then shown name isOn
      return 0
  | names =>
      let mut status := 0
      for name in names do
        let known : Option (Bool × Bool) :=
          if has found 'o' then (optionNames.lookup name).map fun _ => (false, true)
          else (settingNames.lookup name).map fun isFirst => (isFirst, false)
        match known with
        | none =>
            let kind : Text := if has found 'o' then ": invalid option name"
              else ": invalid shell option name"
            complain (name ++ kind)
            status := 1
        | some (isFirst, isOption) =>
            let shell ← get
            let letter := (optionNames.lookup name).getD none
            if isSetting then
              match isOption, letter, isFirst with
              | true, some letter, _ => Builtin.setOption (has found 's') letter
              | _, _, false => changeSetting (has found 's') name
              | _, _, true => changeSetting (has found 'u') ('-' :: name)
            else
              let isOn := if isOption then isOptionOn shell name letter
                else isSettingOn shell name isFirst
              shown name isOn
              if !isOn then status := 1
      return status

end ShaderCost.Script.Extended

/-!
Texts that commands of the extended language print: words with or without escapes, and formats whose
directives also quote texts and show moments.
-/

namespace ShaderCost.Script.Printing

/-- Whether a word consists of options of the command that prints words. -/
def isOption (word : Text) : Bool :=
  match word with
  | '-' :: c :: letters => (c :: letters).all fun c => "neE".toList.elem c
  | _ => false

/-- Words with blanks between them, as options in front of them say. -/
def words (arguments : List Text) : Text :=
  let given := arguments.takeWhile isOption
  let letters := given.flatten
  let rest := arguments.drop given.length
  let resolves := ((letters.reverse.find? fun c => c = 'e' || c = 'E').map (· == 'e')).getD false
  let joined := Format.joinWords rest
  let (text, stops) := if resolves then Forms.unescaped true joined else (joined, false)
  if stops || 'n' ∈ letters then text else text ++ ['\n']

/-- The text of a moment in a format of its own. -/
def shownMoment (shell : Shell) (form : Text) (seconds : Int) : Text :=
  let now := Clock.now shell
  let moment : Calendar.Moment :=
    if seconds = -1 then now
    else if seconds = -2 then Clock.start
    else { seconds }
  (Clock.faceOf shell moment).text (if form.isEmpty then "%X" else form)

/-- A format of a moment between parentheses, and what is behind it. -/
def takeMomentForm? (text : Text) : Option (Text × Text) :=
  match text with
  | '(' :: rest => do
      let (form, behind) ← Text.splitAt? ')' rest
      match behind with
      | 'T' :: rest => some (form, rest)
      | _ => none
  | _ => none

/-- Prints a directive. -/
def direct (placing : Format.Placing) (directive : Char) (written : Text) :
    Format.Printing Format.Ending := do
  let cut (text : Text) : Text := text.take (placing.precision.getD text.length)
  match directive with
  | 'q' | 'Q' =>
      let argument ← Format.takeArgument?
      Format.put (placing.pad (cut (Forms.backslashed (argument.getD []))))
      return .finished
  | 'b' =>
      let argument ← Format.takeArgument?
      let (text, stops) := octal (argument.getD [])
      Format.put (placing.pad (cut text))
      return if stops then .stopped else .finished
  | 'n' =>
      let _ ← Format.takeArgument?
      return .finished
  | _ =>
      if "scdiouxXaAeEfFgG".toList.elem directive then Format.direct placing directive written
      else return .failed ('\x60' :: directive :: "': invalid format character".toList)
where
  /-- Escapes whose octal digits may have a zero in front of three others. -/
  octal (text : Text) : Text × Bool := Forms.unescaped false (widened (text.length + 1) text)
  widened : (fuel : Nat) → Text → Text
    | 0, text => text
    | _ + 1, [] => []
    | fuel + 1, '\\' :: '0' :: a :: b :: c :: rest =>
        if isOctalDigit a && isOctalDigit b && isOctalDigit c then
          '\\' :: a :: b :: c :: widened fuel rest
        else '\\' :: '0' :: widened fuel (a :: b :: c :: rest)
    | fuel + 1, '\\' :: c :: rest => '\\' :: c :: widened fuel rest
    | fuel + 1, c :: rest => c :: widened fuel rest

/-- One pass over a format. -/
def pass (shell : Shell) : (fuel : Nat) → Text → Format.Printing Format.Ending
  | 0, _ | _ + 1, [] => return .finished
  | fuel + 1, '\\' :: behind => do
      let length := escapeLength behind
      let text : Text := match behind with
        | c :: _ => if c = '"' || c = '\'' || c = '?' then [c]
            else if c = 'c' then ['\\', c]
            else (Forms.unescaped false ('\\' :: behind.take length)).1
        | [] => ['\\']
      Format.put text
      pass shell fuel (behind.drop length)
  | fuel + 1, '%' :: '%' :: rest => do
      Format.put ['%']
      pass shell fuel rest
  | fuel + 1, '%' :: behind => do
      let flags := behind.takeWhile fun c => "#-+ 0'".toList.elem c
      let plain := flags.filter (· != '\'') ++ behind.drop flags.length
      let (placing, rest) ← Format.takePlacing plain
      let rest := rest.dropWhile fun c => "hjlLtz".toList.elem c
      match takeMomentForm? rest with
      | some (form, rest) =>
          let seconds ← do
            if (← get).arguments.isEmpty then pure (-1) else Format.takeSigned
          Format.put (placing.pad (shownMoment shell form seconds))
          pass shell fuel rest
      | none =>
          match rest with
          | [] => return .failed ("\x60".toList ++ '%' :: behind ++
              "': missing format character".toList)
          | directive :: rest =>
              let written := '%' :: behind.take (behind.length - rest.length)
              match ← direct placing directive written with
              | .finished => pass shell fuel rest
              | ending => return ending
  | fuel + 1, c :: rest => do
      Format.put [c]
      pass shell fuel rest
where
  /-- How many characters belong to the escape after a backslash. -/
  escapeLength (behind : Text) : Nat :=
    match behind with
    | [] => 0
    | c :: rest =>
        if isOctalDigit c then ((behind.take 3).takeWhile isOctalDigit).length
        else if c = 'x' then 1 + ((rest.take 2).takeWhile isHexDigit).length
        else if c = 'u' then 1 + ((rest.take 4).takeWhile isHexDigit).length
        else if c = 'U' then 1 + ((rest.take 8).takeWhile isHexDigit).length
        else 1

/-- Uses the format again while arguments are left and it takes some. -/
def passes (shell : Shell) (format : Text) : (fuel : Nat) → Format.Printing Format.Ending
  | 0 => return .finished
  | fuel + 1 => do
      let before := (← get).arguments.length
      let ending ← pass shell (format.length + 1) format
      let left := (← get).arguments.length
      if ending = .finished && left != 0 && left < before then passes shell format fuel
      else return ending

/-- The wording of what is wrong with an argument. -/
def warning (argument : Text) : Format.Flaw → Text
  | .notNumeric | .partly => argument ++ ": invalid number".toList
  | .outOfRange => "warning: ".toList ++ argument ++ ": Numerical result out of range".toList

/-- A format with arguments filled in: the text, what is wrong with arguments, and an error that
ended it. -/
def formatted (shell : Shell) (format : Text) (arguments : List Text) :
    Text × List Text × Option Text :=
  let (ending, progress) :=
    (passes shell format (arguments.length + 1)).run ⟨[], [], arguments⟩
  (progress.reversed.reverse,
    progress.warnings.reverse.map fun (argument, flaw) => warning argument flaw,
    match ending with
    | .failed problem => some problem
    | _ => none)

end ShaderCost.Script.Printing

/-!
Further commands of the extended language.
-/

namespace ShaderCost.Script.Extended

/-! Texts and conditions. -/

def echo : Builtin := fun arguments => Builtin.printOr "write error" (Printing.words arguments) 0

def printf : Builtin := fun arguments => do
  let usage : Text := "printf [-v var] format [arguments]"
  match options [] "v" (arguments.length + 1) arguments with
  | .error problem =>
      complain problem
      showUsage usage
      return 2
  | .ok (_, []) =>
      showUsage usage
      return 2
  | .ok (found, format :: arguments) =>
      let (text, warnings, failure) := Printing.formatted (← get) format arguments
      for warning in warnings do complain warning
      match valueOf? found 'v' with
      | some name =>
          if !isName (name.takeWhile fun c => c != '[') then
            Declaration.complainOfName name
            return 2
          let _ ← assignFields [name] [text.filter (· != '\x00')]
      | none => print text
      match failure with
      | some problem =>
          complain problem
          return 1
      | none => return if warnings.isEmpty then 0 else 1

def judge : Builtin := fun arguments => do
  match ← (Judging.ofArguments arguments).run with
  | .ok holds => return if holds then 0 else 1
  | .error problem =>
      complain problem
      return 2

def bracket : Builtin := fun arguments => do
  if arguments.getLast? = some [']'] then judge arguments.dropLast
  else
    complain "missing \x60]'"
    return 2

/-- Evaluates expressions; the last one decides. -/
def calculate : Builtin := fun arguments => do
  let arguments := if arguments.head? = some ['-', '-'] then arguments.tail else arguments
  if arguments.isEmpty then
    complain "expression expected"
    return 1
  let mut last : Int64 := 0
  for argument in arguments do last ← Reckoning.evaluate argument
  return if last = 0 then 1 else 0

/-! Names. -/

def isNamed (title : Text) : Bool := isName (title.takeWhile fun c => c != '[')

/-- Takes away a variable, an element of a list, or a function. -/
def forget : Builtin := withOptions "fvn" [] "unset [-f] [-v] [-n] [name ...]" fun found names => do
  let mut status := 0
  for title in names do
    let name := title.takeWhile fun c => c != '['
    let subscript := title.drop name.length
    let shell ← get
    let dropFunction : Step Unit := modify fun shell =>
      { shell with functions := shell.functions.filter fun entry => entry.1 != title }
    if has found 'f' then dropFunction
    else if !isName name then
      if has found 'v' then
        Declaration.complainOfName title
        status := 1
      else dropFunction
    else
      let target := if has found 'n' then name else shell.resolve name
      match shell.binding? target with
      | none => if !has found 'v' && (shell.functions.lookup title).isSome then dropFunction
      | some binding =>
          if binding.isReadonly then
            complain (name ++ ": cannot unset: readonly variable".toList)
            status := 1
          else if subscript.isEmpty then
            modify fun shell => shell.setBinding target none
          else
            let key := (subscript.drop 1).dropLast
            match binding.list with
            | some (.keyed elements) =>
                let list : Listing := .keyed elements
                modify fun shell => shell.setBinding target (some { binding with
                  list := some (if key = "@" || key = "*" then .keyed []
                    else list.eraseKeyed key) })
            | some list =>
                if key = "@" || key = "*" then
                  modify fun shell => shell.setBinding target none
                else
                  match list.place? (← Reckoning.evaluate key).toInt with
                  | some place =>
                      modify fun shell => shell.setBinding target
                        (some { binding with list := some (list.eraseNumbered place) })
                  | none =>
                      complain (title ++ ": bad array subscript".toList)
                      status := 1
            | none =>
                if (← Reckoning.evaluate key) = 0 then
                  modify fun shell => shell.setBinding target none
  return status

def showAlias (entry : Text × Text) : Step Unit :=
  Builtin.printLine ("alias ".toList ++ entry.1 ++ '=' :: Forms.singleQuoted entry.2)

/-- Defines aliases or shows them. -/
def defineAliases : Builtin := withOptions "p" [] "alias [-p] [name[=value] ... ]" fun _ names => do
  if names.isEmpty then
    for entry in (← get).aliases.mergeSort fun left right => Text.atMost left.1 right.1 do
      showAlias entry
    return 0
  let mut status := 0
  for argument in names do
    match Text.splitAt? '=' argument with
    | some (name, value) => Builtin.setAlias name value
    | none =>
        match (← get).aliases.lookup argument with
        | some value => showAlias (argument, value)
        | none =>
            complain (argument ++ ": not found".toList)
            status := 1
  return status

def forgetAliases : Builtin :=
  withOptions "a" [] "unalias [-a] name [name ...]" fun found names => do
  if has found 'a' then
    modify fun shell => { shell with aliases := [] }
    return 0
  if names.isEmpty then
    showUsage "unalias [-a] name [name ...]"
    return 2
  let mut status := 0
  for name in names do
    if ((← get).aliases.lookup name).isNone then
      complain (name ++ ": not found".toList)
      status := 1
    modify fun shell =>
      { shell with aliases := shell.aliases.filter fun entry => entry.1 != name }
  return status

/-! Numbers that commands take. -/

/-- The number that the first argument gives. Where it gives none, or there are more arguments, that
is complained of. -/
def numberIn (arguments : List Text) (standard : Int) : Step (Option Int) := do
  let arguments := if arguments.head? = some ['-', '-'] then arguments.tail else arguments
  match arguments with
  | [] => return some standard
  | first :: rest =>
      match Numeral.ofText? false first with
      | none =>
          complain (first ++ ": numeric argument required".toList)
          return none
      | some number =>
          if rest.isEmpty then return some number
          else
            complain "too many arguments"
            setStatus 1
            throw .abandoned

def shift : Builtin := fun arguments => do
  match ← numberIn arguments 1 with
  | none => return 1
  | some count =>
      let parameters := (← get).parameters
      if count < 0 then
        complain (Text.ofInt count ++ ": shift count out of range".toList)
        return 1
      else if parameters.length < count.toNat then return 1
      else
        modify fun shell => { shell with parameters := parameters.drop count.toNat }
        return 0

/-- The status that a number stands for. -/
def statusOf (number : Int) : Nat := (number % 256).toNat

/-- Ends the process. -/
def leave : Builtin := fun arguments => do
  match arguments with
  | [] => throw .exited
  | first :: _ =>
      match Numeral.ofText? false first, arguments.length with
      | some number, 1 =>
          let status := statusOf number
          modify fun shell => { shell with status, ending := some status }
          throw .exited
      | some _, _ =>
          complain "too many arguments"
          setStatus 1
          throw .abandoned
      | none, _ =>
          complain (first ++ ": numeric argument required".toList)
          modify fun shell => { shell with status := 2, ending := some 2 }
          throw .exited

/-- Ends a function or a file that is read in. -/
def comeBack : Builtin := fun arguments => do
  let shell ← get
  if shell.frames.isEmpty then
    complain "can only \x60return' from a function or sourced script"
    return 2
  match arguments with
  | [] => throw .returned
  | first :: _ =>
      match Numeral.ofText? false first with
      | some number =>
          setStatus (statusOf number)
          throw .returned
      | none =>
          complain (first ++ ": numeric argument required".toList)
          setStatus 2
          throw .returned

/-- Leaves the round of a loop, or of one further out, as far as there are loops. -/
def leaveRound (halt : Nat → Halt) : Builtin := fun arguments => do
  let loops := (← get).loops
  if loops = 0 then
    complain "only meaningful in a \x60for', \x60while', or \x60until' loop"
    return 0
  match ← numberIn arguments 1 with
  | none =>
      setStatus 128
      throw (.brokeOff (loops - 1))
  | some levels =>
      if levels ≤ 0 then
        complain (Text.ofInt levels ++ ": loop count out of range".toList)
        setStatus 1
        throw (.brokeOff (loops - 1))
      setStatus 0
      throw (halt (min levels.toNat loops - 1))

/-! Directories. -/

/-- Goes to a directory, or says why that cannot be. -/
def goTo (path : Text) (isPhysical : Bool) : Step Bool := do
  let shell ← get
  let target := shownText (if path.isEmpty then ['.'] else path)
  let trail := Builtin.plainTrail shell.trail target
  let tree := if isPhysical then shell.tree else shell.tree.fromRoot
  let target := if isPhysical then target else '/' :: List.intercalate ['/'] trail
  match tree.locate target, tree.find target with
  | .ok location, .ok (.directory _) =>
      let trail := if isPhysical then location else trail
      assign "OLDPWD" (shell.value "PWD")
      assign "PWD" (Builtin.pathOf trail)
      modify fun shell =>
        let exported (shell : Shell) (name : Text) : Shell :=
          shell.setBinding name ((shell.binding? name).map fun binding =>
            { binding with isExported := true })
        exported { shell with directory := location, trail } "OLDPWD"
      return true
  | .error error, _ | _, .error error =>
      complain (path ++ ": ".toList ++ FileError.plainWording error)
      return false
  | _, _ =>
      complain (path ++ ": Not a directory".toList)
      return false

def cd : Builtin := withOptions "LPe@" [] "cd [-L|[-P [-e]] [-@]] [dir]" fun found names => do
  let isPhysical := has found 'P'
  let shell ← get
  match names with
  | [] =>
      match shell.value? "HOME" with
      | none =>
          complain "HOME not set"
          return 1
      | some home => return if home.isEmpty || (← goTo home isPhysical) then 0 else 1
  | [['-']] =>
      match shell.value? "OLDPWD" with
      | none =>
          complain "OLDPWD not set"
          return 1
      | some path =>
          if ← goTo path isPhysical then
            Builtin.printLine (Builtin.pathOf (← get).trail)
            return 0
          else return 1
  | [path] => return if ← goTo path isPhysical then 0 else 1
  | _ =>
      complain "too many arguments"
      return 1

/-- The directories that are kept, the current one first. -/
def showDirectories : Step Unit := do
  let shell ← get
  let home := shell.value "HOME"
  let shown (path : Text) : Text := match Text.after? home path with
    | some behind =>
        if !home.isEmpty && (behind.isEmpty || behind.head? = some '/') then '~' :: behind else path
    | none => path
  Builtin.printLine (Format.joinWords
    ((Builtin.pathOf shell.trail :: shell.leftDirectories).map shown))

def dirs : Builtin := fun arguments => do
  if arguments = ["-c".toList] then modify fun shell => { shell with leftDirectories := [] }
  else showDirectories
  return 0

def pushDirectory : Builtin := fun arguments => do
  let shell ← get
  let current := Builtin.pathOf shell.trail
  match arguments, shell.leftDirectories with
  | [], [] =>
      complain "no other directory"
      return 1
  | [], last :: rest =>
      if ← goTo last false then
        modify fun shell => { shell with leftDirectories := current :: rest }
        showDirectories
        return 0
      else return 1
  | path :: _, left =>
      if ← goTo path false then
        modify fun shell => { shell with leftDirectories := current :: left }
        showDirectories
        return 0
      else return 1

def popDirectory : Builtin := fun _ => do
  match (← get).leftDirectories with
  | [] =>
      complain "directory stack empty"
      return 1
  | last :: rest =>
      if ← goTo last false then
        modify fun shell => { shell with leftDirectories := rest }
        showDirectories
        return 0
      else return 1

def umask : Builtin := fun arguments => do
  match arguments with
  | [['-', 'p']] =>
      let digits := Nat.toDigits 8 (← get).mask
      Builtin.printLine ("umask ".toList ++ List.replicate (4 - digits.length) '0' ++ digits)
      return 0
  | [change] =>
      if change.head?.any Char.isDigit then
        if change.all isOctalDigit then Builtin.umask arguments
        else
          complain (change ++ ": octal number out of range".toList)
          return 1
      else if change.head? = some '-' then Builtin.umask arguments
      else
        match Builtin.changeMask (change.length + 1) change (← get).mask with
        | some mask =>
            modify fun shell => { shell with mask }
            return 0
        | none =>
            let mark := (change.dropWhile fun c => "ugoa".toList.elem c).head?
            complain ('\x60' :: mark.toList ++ "': invalid symbolic mode operator".toList)
            return 1
  | _ => Builtin.umask arguments

/-! Signals and processes. -/

/-- Events that are handled like signals. -/
def events : List (Text × Nat) := [("DEBUG", 65), ("ERR", 66), ("RETURN", 67)]

def errorEvent : Nat := 66

/-- The signal or event that a text names, with or without the letters that all names of signals
begin with. -/
def signalOf? (text : Text) : Option Nat :=
  let upper := text.map Char.toUpper
  match events.lookup upper with
  | some number => some number
  | none => Signal.ofText? ((Text.after? "SIG" upper).getD upper)

/-- The whole name of a signal or an event. -/
def signalTitle (number : Nat) : Text :=
  match events.find? fun entry => entry.2 = number with
  | some (name, _) => name
  | none =>
      let name := Signal.name number
      if number = 0 then name
      else if name.all Char.isDigit then "SIG".toList ++ name
      else "SIG".toList ++ name

def showTrap (entry : Nat × Text) : Step Unit :=
  Builtin.printLine ("trap -- ".toList ++ Forms.singleQuoted entry.2 ++ ' ' :: signalTitle entry.1)

/-- All signals in columns. -/
def showSignals : Step Unit := do
  let shown := (List.range 31).map fun place =>
    let number := place + 1
    let digits := Text.ofNat number
    (if number < 10 then [' '] else []) ++ digits ++ ") ".toList ++ signalTitle number
  let rows := (List.range 7).map fun row => (shown.drop (5 * row)).take 5
  for row in rows do
    Builtin.printLine (List.intercalate ['\t'] row ++ if row.length = 5 then [] else ['\t'])

def setTraps (action : Option Text) : List Text → Step Nat
  | [] => return 0
  | text :: rest => do
      match signalOf? text with
      | none =>
          complain (text ++ ": invalid signal specification".toList)
          let _ ← setTraps action rest
          return 1
      | some signal =>
          modify fun shell =>
            let others := shell.traps.filter fun entry => entry.1 != signal
            { shell with traps := match action with
              | some action => (signal, action) :: others
              | none => others }
          setTraps action rest

def trap : Builtin := withOptions "lp" [] "trap [-lp] [[arg] signal_spec ...]" fun found names => do
  let traps := (← get).traps.mergeSort fun left right => left.1 ≤ right.1
  if has found 'l' then
    showSignals
    return 0
  else if names.isEmpty then
    for entry in traps do showTrap entry
    return 0
  else if has found 'p' then
    for name in names do
      match signalOf? name with
      | some signal =>
          for entry in traps do
            if entry.1 = signal then showTrap entry
      | none => complain (name ++ ": invalid signal specification".toList)
    return 0
  else match names with
    | first :: rest =>
        let isReset := (rest.isEmpty && (signalOf? first).isSome) ||
          (first.all Char.isDigit && (signalOf? first).isSome)
        if rest.isEmpty && !isReset then
          showUsage "trap [-lp] [[arg] signal_spec ...]"
          return 2
        setTraps (if isReset || first = "-" then none else some first)
          (if isReset then names else rest)
    | [] => return 0

def killUsage : Text :=
  "kill [-s sigspec | -n signum | -sigspec] pid | jobspec ... or kill -l [sigspec]"

def sendAll (signal : Nat) (processes : List Text) : Step Nat := do
  let mut status := 1
  for process in processes do
    let digits := if process.head? = some '-' || process.head? = some '%' then process.drop 1
      else process
    match Text.nat? digits with
    | none => complain (process ++ ": arguments must be process or job IDs".toList)
    | some number =>
        let jobs := (← get).jobs
        let number := if process.head? = some '%' then (jobs.reverse[number - 1]?).getD number
          else number
        if ← Builtin.send signal number then status := 0
        else complain ('(' :: process ++ ") - No such process".toList)
  return status

def kill : Builtin := fun arguments => do
  let refuse (name : Text) : Step Nat := do
    complain (name ++ ": invalid signal specification".toList)
    return 1
  match arguments with
  | [] =>
      showUsage killUsage
      return 2
  | ['-', 'l'] :: [] | ['-', 'L'] :: [] =>
      showSignals
      return 0
  | ['-', 'l'] :: names | ['-', 'L'] :: names =>
      let mut status := 0
      for name in names do
        match Text.nat? name, signalOf? name with
        | some number, _ =>
            let signal := if 128 < number then number - 128 else number
            if signal < Signal.count then Builtin.printLine (Signal.name signal)
            else status ← refuse name
        | none, some number => Builtin.printLine (Text.ofNat number)
        | none, none => status ← refuse name
      return status
  | ['-', 's'] :: name :: rest | ['-', 'n'] :: name :: rest =>
      match signalOf? name with
      | some signal => sendAll signal rest
      | none => refuse name
  | ['-', '-'] :: rest => sendAll 15 rest
  | ('-' :: c :: letters) :: rest =>
      match signalOf? (c :: letters) with
      | some signal =>
          if rest.isEmpty then
            showUsage killUsage
            return 2
          else sendAll signal rest
      | none => refuse (c :: letters)
  | processes => sendAll 15 processes

/-- Waits for background processes; for all of them without arguments. -/
def wait : Builtin := withOptions "fn" "p" "wait [-fn] [-p var] [id ...]" fun found names => do
  let shell ← get
  let find (number : Nat) := shell.machine.finished.find? fun finished =>
    finished.process = number && shell.jobs.elem number
  if has found 'n' then
    let ends := shell.jobs.reverse.filterMap find
    let first? := ends.foldl (fun best finished => match best with
      | some (found : Finished) => if finished.time < found.time then some finished else best
      | none => some finished) none
    match first? with
    | none => return 127
    | some finished =>
        await finished
        modify fun shell => { shell with jobs := shell.jobs.filter (· != finished.process) }
        return (← get).status
  match names with
  | [] =>
      for number in shell.jobs.reverse do
        match find number with
        | some finished => await finished
        | none => pure ()
      modify fun shell => { shell with jobs := [] }
      return 0
  | names =>
      let mut status := 0
      for name in names do
        match name with
        | '%' :: place =>
            match ((Text.nat? place).bind fun place =>
              shell.jobs.reverse[place - 1]?).bind find with
            | some finished =>
                await finished
                status := (← get).status
            | none =>
                complain (name ++ ": no such job".toList)
                status := 127
        | name =>
            match Text.nat? name with
            | none =>
                complain ('\x60' :: name ++ "': not a pid or valid job spec".toList)
                status := 1
            | some number =>
                let ends := (← get).machine.finished
                match ends.find? fun finished => finished.process = number with
                | some finished =>
                    await finished
                    modify fun shell => { shell with jobs := shell.jobs.filter (· != number) }
                    status := (← get).status
                | none =>
                    complain ("pid ".toList ++ name ++ " is not a child of this shell".toList)
                    status := 127
      return status

def noJobControl : Builtin := fun _ => do
  complain "no job control"
  return 1

/-- Shows limits, which nothing has. -/
def limits : Builtin := withOptions "SHabcdefiklmnpqrstuvxPRT" []
    "ulimit [-SHabcdefiklmnpqrstuvxPRT] [limit]" fun _ names => do
  if names.isEmpty then Builtin.printLine "unlimited"
  return 0

/-- Tells where the function that is under way was called from. -/
def caller : Builtin := fun arguments => do
  let shell ← get
  let depth := ((arguments.head?).bind Text.nat?).getD 0
  match shell.frames.drop depth with
  | frame :: outer =>
      let origin := (outer.head?).elim shell.origin Frame.origin
      let name := (outer.head?).elim "main".toList Frame.name
      if arguments.isEmpty then
        Builtin.printLine (Text.ofNat frame.line ++ ' ' :: origin)
      else Builtin.printLine (Text.ofNat frame.line ++ ' ' :: name ++ ' ' :: origin)
      return 0
  | [] => return 1

def times : Builtin := fun _ => do
  print "0m0.000s 0m0.000s\n0m0.000s 0m0.000s\n"
  return 0

/-- Takes the next option of some arguments. -/
def getopts : Builtin := fun arguments => do
  match arguments with
  | _ :: name :: _ =>
      if !isName name then
        Declaration.complainOfName name
        return 1
      Builtin.getopts arguments
  | _ =>
      showUsage "getopts optstring name [arg ...]"
      return 2

/-- Commands on texts and names. -/
def ofTexts : List (Text × Builtin) := [
  ("echo", echo), ("printf", printf), ("test", judge), ("[", bracket), ("let", calculate),
  ("unset", forget), ("alias", defineAliases), ("unalias", forgetAliases), ("read", read),
  ("mapfile", readLines), ("readarray", readLines), ("set", set), ("shopt", chooseSettings)]

/-- Commands on directories, processes and the course that a script takes. -/
def ofCourse : List (Text × Builtin) := [
  ("shift", shift), ("exit", leave), ("return", comeBack), ("break", leaveRound .brokeOff),
  ("continue", leaveRound .continued), ("cd", cd), ("dirs", dirs), ("pushd", pushDirectory),
  ("popd", popDirectory), ("ulimit", limits), ("umask", umask), ("trap", trap), ("kill", kill),
  ("wait", wait),
  ("fg", noJobControl), ("bg", noJobControl), ("caller", caller), ("times", times),
  ("getopts", getopts), ("disown", Builtin.nothing 0), ("enable", Builtin.nothing 0),
  ("history", Builtin.nothing 0), ("complete", Builtin.nothing 0), ("bind", Builtin.nothing 0)]

/-- The commands by their names. -/
def table : List (Text × Builtin) := ofTexts ++ ofCourse

end ShaderCost.Script.Extended
