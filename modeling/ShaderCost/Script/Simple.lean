import ShaderCost.Script.Extended.Declaration
import ShaderCost.Script.Process
import ShaderCost.Script.Program

/-!
What the name of a command means, and the commands that tell of it.
-/

namespace ShaderCost.Script

inductive Meaning where
  | keyword
  /-- An alias, with the text that it stands for. -/
  | shortened (value : Text)
  | function
  | builtin (isSpecial : Bool)
  /-- A program at a path. It may have been found there before. -/
  | program (path : Text) (isKnown : Bool)
  | unknown

namespace Meaning

/-- Commands of the shell that carry out other commands or tell of them. -/
def leading : List Text := [".", "eval", "exec", "command", "type", "hash"]

def isBuiltin (name : Text) : Bool :=
  leading.contains name || (Builtin.table.lookup name).isSome

/-- Whether a command is a part of the extended language. -/
def isExtendedBuiltin (name : Text) : Bool :=
  (isBuiltin name && name != "chdir") || name = "source" || name = "builtin" ||
    Declaration.names.elem name || (Extended.table.lookup name).isSome

/-- Remembers where a program was found. -/
def remember (name : Text) : Step Unit := modify fun shell =>
  if '/' ∈ name || shell.located.contains name then shell
  else { shell with located := name :: shell.located }

def ofName (shell : Shell) (name : Text) : Meaning :=
  if Token.keywords.contains name then .keyword
  else match shell.aliases.lookup name with
    | some value => .shortened value
    | none =>
        if specialCommands.contains name then .builtin true
        else if (shell.functions.lookup name).isSome then .function
        else if isBuiltin name then .builtin false
        else match Program.find shell name with
          | .error _ => .unknown
          | .ok path =>
              if '/' ∈ name && !shell.tree.exists? (shownText path) then .unknown
              else .program path (shell.located.contains name)

/-- A sentence on a name. -/
def sentence (name : Text) : Meaning → Text
  | keyword => name ++ " is a shell keyword"
  | shortened value => name ++ " is an alias for " ++ value
  | function => name ++ " is a shell function"
  | builtin true => name ++ " is a special shell builtin"
  | builtin false => name ++ " is a shell builtin"
  | program path false => name ++ " is " ++ path
  | program path true => name ++ " is a tracked alias for " ++ path
  | unknown => name ++ ": not found"

/-- What could be written in place of a name. -/
def short? (name : Text) : Meaning → Option Text
  | shortened value => some ("alias " ++ name ++ '=' :: Builtin.quotedText value)
  | program path _ => some path
  | unknown => none
  | _ => some name

/-- Tells what a name means, in a sentence or shortly. -/
def tell (isSentence : Bool) (name : Text) : Step Nat := do
  let meaning := ofName (← get) name
  match meaning with
  | .program _ _ => remember name
  | _ => pure ()
  if isSentence then Builtin.printLine (meaning.sentence name)
  else match meaning.short? name with
    | some text => Builtin.printLine text
    | none => pure ()
  return match meaning with
    | .unknown => 127
    | _ => 0

/-- Tells what each of some names means. -/
def type : Builtin := fun names => do
  let mut status := 0
  for name in names do
    let found ← tell true name
    status := status ||| found
  return status

/-- Tells what the first of some names means. -/
def command : Builtin := fun arguments => do
  let (found, names) ← Builtin.takeOptions "pvV" [] arguments
  match names with
  | [] => return 0
  | name :: _ => tell (found.any fun option => option.1 = 'V') name

/-- Looks for programs, or shows those that were found. -/
def hash : Builtin := fun arguments => do
  let (found, names) ← Builtin.takeOptions "r" [] arguments
  if !found.isEmpty then modify fun shell => { shell with located := [] }
  let shell ← get
  if found.isEmpty && names.isEmpty then
    for name in shell.located do
      match Program.find shell name with
      | .ok path => Builtin.printLine path
      | .error _ => pure ()
  let mut status := 0
  for name in names do
    match Program.find shell name with
    | .ok _ => remember name
    | .error error =>
        complain (name ++ ": " ++ FileError.wording .executing error)
        status := 1
  return status

/-! The extended language. -/

/-- Reserved words of the extended language. -/
def extendedKeywords : List Text :=
  Token.keywordsOf .extended ++ ["]]".toList, "select".toList, "coproc".toList]

/-- All that a name means, what is preferred first. -/
def allOf (shell : Shell) (name : Text) (seesFunctions : Bool) : List Meaning :=
  let aliases := if shell.settings.elem "expand_aliases".toList then shell.aliases else []
  let shortened : List Meaning := (aliases.lookup name).toList.map Meaning.shortened
  let keyword : List Meaning := if extendedKeywords.elem name then [.keyword] else []
  let function : List Meaning :=
    if seesFunctions && (shell.functions.lookup name).isSome then [.function] else []
  let builtin : List Meaning := if isExtendedBuiltin name then [.builtin false] else []
  let program : List Meaning := match Program.find shell name with
    | .ok path =>
        if SearchPath.isExecutable shell.tree path then
          [.program path (shell.located.elem name && '/' ∉ name)] else []
    | .error _ => []
  shortened ++ keyword ++ function ++ builtin ++ program

/-- A sentence of the extended language on a name. -/
def extendedSentence (name : Text) : Meaning → Text
  | shortened value => name ++ " is aliased to \x60".toList ++ value ++ ['\'']
  | function => name ++ " is a function".toList
  | program path true => name ++ " is hashed (".toList ++ path ++ [')']
  | meaning => meaning.sentence name

/-- What kind of thing a name means. -/
def kind : Meaning → Text
  | keyword => "keyword"
  | shortened _ => "alias"
  | function => "function"
  | builtin _ => "builtin"
  | program _ _ => "file"
  | unknown => []

def path? : Meaning → Option Text
  | program path _ => some path
  | _ => none

/-- Tells what each of some names means. -/
def typeIn : Builtin := Extended.withOptions "aftpP" [] "type [-afptP] name [name ...]"
    fun found names => do
  let mut status := 0
  for name in names do
    let shell ← get
    let all := allOf shell name (!Extended.has found 'f')
    let all := if Extended.has found 'P' then all.filter fun meaning => (path? meaning).isSome
      else all
    let chosen := if Extended.has found 'a' then all else all.take 1
    if chosen.isEmpty then
      if !(Extended.has found 't' || Extended.has found 'p' || Extended.has found 'P') then
        complain (name ++ ": not found".toList)
      status := 1
    for meaning in chosen do
      if Extended.has found 't' then Builtin.printLine meaning.kind
      else if Extended.has found 'p' || Extended.has found 'P' then
        match path? meaning with
        | some path => Builtin.printLine path
        | none => pure ()
      else Builtin.printLine (extendedSentence name meaning)
  return status

/-- Tells what names mean, in a sentence or shortly. -/
def commandIn : Builtin := Extended.withOptions "pvV" [] "command [-pVv] command [arg ...]"
    fun found names => do
  let mut status := 0
  for name in names do
    match (allOf (← get) name true).head? with
    | none =>
        if Extended.has found 'V' then complain (name ++ ": not found".toList)
        status := 1
    | some meaning =>
        if Extended.has found 'V' then Builtin.printLine (extendedSentence name meaning)
        else match meaning with
          | .shortened value => Extended.showAlias (name, value)
          | .program path _ => Builtin.printLine path
          | _ => Builtin.printLine name
  return status

/-- Looks for programs, or shows those that were found. -/
def hashIn : Builtin := Extended.withOptions "rdlt" "p" "hash [-lr] [-p pathname] [-dt] [name ...]"
    fun found names => do
  if Extended.has found 'r' then modify fun shell => { shell with located := [] }
  let shell ← get
  if found.isEmpty && names.isEmpty then
    if shell.located.isEmpty then Builtin.printLine "hash: hash table empty"
    else
      Builtin.printLine "hits\tcommand"
      for name in shell.located do
        match Program.find shell name with
        | .ok path => Builtin.printLine ("   1\t".toList ++ path)
        | .error _ => pure ()
  let mut status := 0
  for name in names do
    match Program.find shell name with
    | .ok _ => remember name
    | .error _ =>
        complain (name ++ ": not found".toList)
        status := 1
  return status

end Meaning

end ShaderCost.Script

/-!
Simple commands: a name with arguments, in front of which variables are set and around which
streams are led elsewhere.
-/

namespace ShaderCost.Script.Simple

/-! The words of a command. -/

/-- Commands whose arguments may be assignments. -/
def assigning : List Text := ["alias", "export", "local", "readonly"]

/-- What the next word of a command is. -/
inductive Place where
  | name
  /-- A name, or an option of the word that guards it. -/
  | guarded
  | argument (mayAssign : Bool)

def Place.after (shell : Shell) (place : Place) (word : Text) : Place :=
  let named : Place :=
    if word = "command" then .guarded else .argument (assigning.contains word)
  match place with
  | argument mayAssign => .argument mayAssign
  | name =>
      if shell.isExtended || (shell.functions.lookup word).isSome then .argument false else named
  | guarded => if word.head? = some '-' then .guarded else named

/-- The words of a command as fields. -/
def fieldsOf (capture : Command → Step Text) : Place → List Word → Step (List Text)
  | _, [] => return []
  | place, word :: words => do
      let fields ← match place, isAssignment word with
        | .argument true, true => List.singleton <$> Expansion.assignment capture word
        | _, _ => Expansion.fields capture word
      let shell ← get
      return fields ++ (← fieldsOf capture (fields.foldl (Place.after shell) place) words)

/-! What a command comes down to. -/

inductive Action where
  | nothing
  /-- A command of the shell. An error in a special one ends the script. -/
  | builtin (isSpecial : Bool) (action : Builtin)
  | function (function : Function)
  /-- A declaration with what it is about. -/
  | declaration (arguments : List Declaration.Argument)
  | program

structure Call where
  action : Action
  name : Text
  arguments : List Text

/-- The text that arguments make when they are carried out. -/
def eval (run : Evaluator) (isTested : Bool) : Builtin := fun arguments => do
  modify fun shell => if shell.isExtended then { shell with command := none } else shell
  if ← Course.ofText run isTested "eval" (Format.joinWords arguments) then return (← get).status
  else return 0

/-- The path of a file that is read in. -/
def sourcePath (name : Text) : Step Text := do
  if '/' ∈ name then return name
  let shell ← get
  let places := SearchPath.places (shell.value "PATH") name
  match places.find? fun path => shell.tree.isFile (shownText path) with
  | some path => return path
  | none => fail (name ++ ": not found")

/-- Carries out the text of a file. -/
def readIn (run : Evaluator) : Builtin := fun arguments => do
  let (_, arguments) ← Builtin.takeOptions [] [] arguments
  match arguments with
  | [] => return 0
  | name :: _ =>
      let path ← sourcePath name
      let text ← match (← get).tree.find (shownText path) with
        | .error error =>
            fail ("cannot open " ++ path ++ ": " ++ FileError.wording .opening error)
        | .ok (.file content _) => pure (spread content)
        | .ok _ => pure []
      modify fun shell => { shell with command := some path }
      let before ← get
      let halt ← Step.attempt do
        if !(← Course.ofFile run text) then setStatus 0
      modify fun shell => { shell with loops := before.loops }
      match halt with
      | some .returned => pure ()
      | halt => Step.resume halt
      return (← get).status

/-- Carries out the text of a file in the extended language; arguments behind its name are its
parameters. -/
def readInExtended (run : Evaluator) : Builtin := fun arguments => do
  let arguments := if arguments.head? = some ['-', '-'] then arguments.tail else arguments
  match arguments with
  | [] =>
      complain "filename argument required"
      Extended.showUsage (((← get).command).getD [] ++ " filename [arguments]".toList)
      return 2
  | name :: parameters =>
      let shell ← get
      let found : Option Text :=
        if '/' ∈ name then some name
        else
          let places := SearchPath.places (shell.value "PATH") name
          (places.find? fun path => shell.tree.isFile (shownText path)).orElse fun _ => some name
      let path := found.getD name
      let refuse (problem : Text) : Step Nat := do
        modify fun shell => { shell with command := none }
        complain (name ++ ": ".toList ++ problem)
        return 1
      match shell.tree.find (shownText path) with
      | .error error => refuse (FileError.plainWording error)
      | .ok (.directory _) =>
          complain (name ++ ": is a directory".toList)
          return 1
      | .ok node =>
          let text := match node with
            | .file content _ => spread content
            | _ => []
          let frame : Frame := ⟨"source", path, shell.line⟩
          modify fun shell => { shell with
            command := none, frames := frame :: shell.frames
            parameters := if parameters.isEmpty then shell.parameters else parameters }
          let halt ← Step.attempt do
            if !(← Course.ofFile run text) then setStatus 0
          modify fun after => { after with
            frames := shell.frames
            parameters := if parameters.isEmpty then after.parameters else shell.parameters }
          match halt with
          | some .returned => pure ()
          | halt => Step.resume halt
          return (← get).status

/-- Goes on as another program, in the extended language. -/
def execExtended (run : Evaluator) : Builtin := Extended.withOptions "cl" "a"
    "exec [-cl] [-a name] [command [argument ...]] [redirection ...]" fun _ arguments => do
  match arguments with
  | [] => return 0
  | name :: arguments =>
      let shell ← get
      let refuse (title problem : Text) (status : Nat) : Step Nat := do
        complain (title ++ ": ".toList ++ problem)
        modify fun shell => { shell with status, ending := some status }
        throw .exited
      match Program.obstacle? shell name with
      | none =>
          modify fun shell => { shell with command := none }
          Program.replace run name arguments
          return 0
      | some (problem, status) =>
          if '/' ∉ name then refuse name "not found" 127
          else if problem = "Is a directory" then
            modify fun shell => { shell with command := none }
            complain (name ++ ": ".toList ++ problem)
            modify fun shell => { shell with command := some "exec".toList }
            refuse name "cannot execute: Is a directory" status
          else
            modify fun shell => { shell with command := none }
            let plain := if Path.isAbsolute name then name
              else Builtin.pathOf (Builtin.plainTrail shell.trail name)
            refuse plain problem status

/-- Goes on as another program. -/
def exec (run : Evaluator) : Builtin := fun arguments => do
  match arguments with
  | [] => return 0
  | name :: arguments =>
      Program.replace run name arguments
      return 0

/-- Commands of the shell that carry out others or tell of them. -/
def leading (run : Evaluator) (isTested : Bool) : List (Text × Builtin) := [
  (".", readIn run), ("eval", eval run isTested), ("exec", exec run),
  ("command", Meaning.command), ("type", Meaning.type), ("hash", Meaning.hash)]

/-- Commands of the extended language that carry out others or tell of them. -/
def leadingExtended (run : Evaluator) (isTested : Bool) : List (Text × Builtin) := [
  (".", readInExtended run), ("source", readInExtended run), ("eval", eval run isTested),
  ("exec", execExtended run), ("command", Meaning.commandIn), ("type", Meaning.typeIn),
  ("hash", Meaning.hashIn), ("builtin", Builtin.nothing 0)]

/-- The commands of a language by their names. -/
def builtin? (run : Evaluator) (isTested : Bool) (dialect : Dialect) (name : Text) :
    Option Builtin :=
  match dialect with
  | .plain => ((leading run isTested).lookup name).or (Builtin.table.lookup name)
  | .extended =>
      let others := if name = "chdir" then none else Builtin.table.lookup name
      ((leadingExtended run isTested).lookup name).or ((Extended.table.lookup name).or others)

/-- The words behind options that only guard a command. -/
def guardedWords? : List Text → Option (List Text)
  | ['-', '-'] :: words => if words.isEmpty then none else some words
  | ['-', 'p'] :: words => guardedWords? words
  | [] => none
  | word :: words =>
      if word.head? = some '-' && word != ['-'] then none else some (word :: words)

/-- What words come down to. Behind a guard no function is meant and no error ends the script. -/
def Call.ofWords (run : Evaluator) (isTested : Bool) (shell : Shell) :
    (limit : Nat) → (isGuarded : Bool) → List Text → Call
  | 0, _, _ | _ + 1, _, [] => ⟨.nothing, [], []⟩
  | limit + 1, isGuarded, name :: arguments =>
      let special := !isGuarded && specialCommands.contains name && !shell.isExtended
      let function := if isGuarded || special then none else shell.functions.lookup name
      let isGuard := name = "command" || (name = "builtin" && shell.isExtended)
      match function with
      | some function => ⟨.function function, name, arguments⟩
      | none =>
          match if isGuard then guardedWords? arguments else none with
          | some words => ofWords run isTested shell limit true words
          | none =>
              match builtin? run isTested shell.dialect name with
              | some builtin => ⟨.builtin special builtin, name, arguments⟩
              | none => ⟨.program, name, arguments⟩

/-! Carrying out a command. -/

/-- Carries out a command of the shell. -/
def invoke (name : Text) (isSpecial : Bool) (builtin : Builtin) (arguments : List Text) :
    Step Unit := do
  let outer := (← get).command
  modify fun shell => { shell with command := some name }
  let halt ← Step.attempt do setStatus (← builtin arguments)
  modify fun shell => { shell with command := outer }
  match halt with
  | some .failed => if isSpecial && !(← get).isExtended then throw .failed
  | halt => Step.resume halt

/-- How many functions may be under way inside one another. -/
def mostCalls : Nat := 1000

/-- Carries out a function. -/
def callFunction (run : Evaluator) (isTested : Bool) (name : Text) (function : Function)
    (parameters : List Text) : Step Unit :=
  Step.restoring (do
    let shell ← get
    let calls := shell.calls + 1
    if mostCalls < calls && !shell.isExtended then
      fail ("Maximum function recursion depth (" ++ Text.ofNat mostCalls ++ ") reached")
    match shell.dialect with
    | .plain => modify fun shell => { shell with
        parameters, loops := 0, calls, optionIndex := 1, optionOffset := none }
    | .extended => modify fun shell => { shell with
        parameters, loops := 0, calls
        frames := ⟨name, function.origin, shell.line⟩ :: shell.frames }
    match ← Step.attempt (run isTested function.body) with
    | some .returned => pure ()
    | halt => Step.resume halt)
    fun before after =>
      let after := { after with
        parameters := before.parameters, loops := before.loops, calls := before.calls
        frames := before.frames }
      match before.dialect with
      | .plain => { after with
          optionIndex := before.optionIndex, optionOffset := before.optionOffset }
      | .extended => { after with line := before.line }

/-- Carries out a program in a process of its own. -/
def callProgram (run : Evaluator) (name : Text) (arguments : List Text) : Step Unit := do
  let shell ← get
  let obstacle := if shell.isExtended then Program.obstacle? shell name else none
  match obstacle, Program.find shell name with
  | some (problem, status), _ =>
      complain (name ++ ": ".toList ++ problem)
      setStatus status
  | none, .error error =>
      complain (name ++ ": " ++ FileError.wording .executing error)
      setStatus 127
  | none, .ok path =>
      Meaning.remember name
      inProcess do
        if shell.isExtended then
          modify fun shell => shell.setBinding "_" (some (.plain path true))
        Program.replace run name arguments

def act (run : Evaluator) (isTested : Bool) (call : Call) : Step Unit := do
  match call.action with
  | .nothing => setStatus ((← get).outputStatus.getD 0)
  | .builtin isSpecial builtin => invoke call.name isSpecial builtin call.arguments
  | .function function => callFunction run isTested call.name function call.arguments
  | .declaration arguments =>
      invoke call.name false (fun _ => Declaration.perform call.name arguments) []
  | .program => callProgram run call.name call.arguments

/-- How long variables keep the values that are given in front of a command. -/
inductive Keeping where
  | forGood
  /-- For good, and other programs see them. -/
  | exported
  /-- As long as the command is carried out, and other programs see them. -/
  | forCommand
  deriving DecidableEq

def Call.keeping (call : Call) : Keeping :=
  match call.action with
  | .nothing => .forGood
  | .builtin true _ =>
      if call.name = "exec" && !call.arguments.isEmpty then .exported else .forGood
  | _ => .forCommand

/-- Carries out assignments and gives their texts. -/
def assignAll (capture : Command → Step Text) (keeping : Keeping) :
    List Word → Step (List Text)
  | [] => return []
  | word :: words => do
      let text ← Expansion.assignment capture word
      match assignment? text with
      | none => assignAll capture keeping words
      | some (name, value) =>
          if keeping = .forCommand then hide name
          assign name value
          if keeping != .forGood then
            modify fun shell => shell.setBinding name ((shell.binding? name).map fun binding =>
              { binding with isExported := true })
          return text :: (← assignAll capture keeping words)

/-- Carries out assignments of the extended language. In front of a command an error in one is
complained of and no more. -/
def giveAll (capture : Command → Step Text) (keeping : Keeping)
    (trace : Text → Step Unit) : List Word → Step Unit
  | [] => pure ()
  | word :: words => do
      match ← Expansion.given? capture word with
      | none => pure ()
      | some given =>
          let name := Declaration.nameOf given
          if keeping = .forCommand then
            hide name
            let halt ← Step.attempt (Declaration.give given)
            match halt with
            | some .failed => pure ()
            | halt => Step.resume halt
            modify fun shell => shell.setBinding name ((shell.binding? name).map fun binding =>
              { binding with isExported := true })
          else Declaration.give given
          trace (Declaration.written given)
      giveAll capture keeping trace words

/-- What stands in front of a command that is shown. In the extended language its first character
tells how deep inside one another processes are that take output. -/
def traceFront (capture : Command → Step Text) : Step Text := do
  let shell ← get
  match Reader.wordOf? shell.dialect (shell.value "PS4") with
  | some word => Expansion.lines capture word
  | none => return []

/-- Shows a command before it is carried out, where that is wanted. -/
def trace (capture : Command → Step Text) (channel : Option Channel) (words : List Text) :
    Step Unit := do
  let shell ← get
  if shell.hasOption 'x' then
    modify fun shell => { shell with options := shell.options.filter (· != 'x') }
    let front ← traceFront capture
    modify fun after => { after with options := shell.options, status := shell.status }
    let front := match shell.dialect with
      | .plain => front
      | .extended => List.replicate shell.captures (front.headD '+') ++ front
    withChannels do
      setChannel standardError channel
      report (front ++ Format.joinWords words)

/-- A word as it is shown before a command is carried out. -/
def tracedWord (word : Text) : Text :=
  if word.isEmpty then "''"
  else if Forms.needsEscapes word then Forms.escaped word
  else if word.any fun c => Forms.isSpecial c then Forms.singleQuoted word
  else word

/-- An assignment as it is shown before a command is carried out. -/
def tracedAssignment (text : Text) : Text :=
  match Text.splitAt? '=' text with
  | some (name, value) =>
      if value.head? = some '(' || value.isEmpty then text else name ++ '=' :: tracedWord value
  | none => text

/-- Ends the script where a failure that is not tested does so. In the extended language a failure
may be an event to which there is an answer. -/
def checkExit (run : Evaluator) (isTested : Bool) : Step Unit := do
  let shell ← get
  if !isTested && shell.status != 0 then
    if shell.isExtended && (shell.calls = 0 || shell.hasOption 'E') then
      match shell.traps.lookup Extended.errorEvent with
      | some action =>
          modify fun shell => { shell with
            traps := shell.traps.filter fun entry => entry.1 != Extended.errorEvent }
          let _ ← Course.ofLines run true (.titled "error trap" shell.line) [] action
          modify fun after => { after with
            status := shell.status
            traps := (Extended.errorEvent, action) :: after.traps }
      | none => pure ()
    if shell.hasOption 'e' then
      modify fun shell => { shell with ending := some shell.status }
      throw .exited

/-- Whether streams stay where a command led them. -/
def Call.keepsChannels (call : Call) : Bool := call.name = "exec" && call.arguments.isEmpty

/-- The words of a command of the extended language as fields, and what it is about if it is a
declaration. -/
def expandAll (capture : Command → Step Text) (words : List Word) :
    Step (List Text × Option (List Declaration.Argument)) := do
  match words with
  | [] => return ([], none)
  | first :: rest =>
      let front ← Expansion.fields capture first
      let shell ← get
      match front with
      | [name] =>
          if Declaration.names.elem name && (shell.functions.lookup name).isNone then
            return ([name], some (← Declaration.argumentsOf capture rest))
          else return (name :: (← rest.flatMapM (Expansion.fields capture)), none)
      | front => return (front ++ (← rest.flatMapM (Expansion.fields capture)), none)

/-- Takes away the streams that stood in place of files. -/
def closeStreams (before : Shell) : Step Unit := modify fun after =>
  let kept := after.channels.filter fun (stream, _) =>
    stream < 24 || (before.channel? stream).isSome
  { after with channels := kept }

/-- Carries out a simple command of the extended language. -/
def performExtended (run : Evaluator) (isTested : Bool) (line : Nat)
    (assignments words : List Word) (redirections : List Redirection) : Step Unit := do
  spend 1
  modify fun shell => { shell with line, outputStatus := none }
  let before ← get
  let capture := Process.capture run
  let (words, declared) ← expandAll capture words
  let outer ← get
  let call : Call := match declared, words with
    | some arguments, name :: _ => ⟨.declaration arguments, name, []⟩
    | _, words => Call.ofWords run isTested outer (words.length + 1) false words
  let body : Step Unit := do
    if ← redirect capture redirections then
      let keeping := match call.action with
        | .nothing => Keeping.forGood
        | _ => .forCommand
      let channel := outer.channel? standardError
      let work : Step Unit := do
        giveAll capture keeping (fun text => trace capture channel [tracedAssignment text])
          assignments
        if !words.isEmpty then
          trace capture channel (words.map tracedWord ++ match declared with
            | some arguments => arguments.map fun argument => match argument with
                | .name text => tracedWord text
                | .given given => tracedAssignment (Declaration.written given)
            | none => [])
        act run isTested call
      if keeping = .forCommand && !assignments.isEmpty then withHidden work
      else match call.action with
        | .function _ => withHidden work
        | _ => work
  if redirections.isEmpty || call.keepsChannels then body else withChannels body
  closeStreams before
  Process.answerStreams run
  modify fun shell => { shell with
    lastWord := words.getLast?.getD [], pipeStatuses := [shell.status] }
  checkExit run isTested

/-- Carries out a simple command of the plain language. -/
def performPlain (run : Evaluator) (isTested : Bool) (line : Nat) (assignments words : List Word)
    (redirections : List Redirection) : Step Unit := do
  spend 1
  modify fun shell => { shell with line, outputStatus := none }
  let capture := Process.capture run
  let words ← fieldsOf capture .name words
  let outer ← get
  let call := Call.ofWords run isTested outer (words.length + 1) false words
  let body : Step Unit := do
    if ← redirect capture redirections then
      let keeping := call.keeping
      let work : Step Unit := do
        let assigned ← assignAll capture keeping assignments
        trace capture (outer.channel? standardError) (assigned ++ words)
        act run isTested call
      if keeping = .forCommand && !assignments.isEmpty then withHidden work
      else match call.action with
        | .function _ => withHidden work
        | _ => work
    else match call.action with
      | .builtin true _ => throw .failed
      | _ => pure ()
  if redirections.isEmpty || call.keepsChannels then body else withChannels body
  checkExit run isTested

/-- Carries out a simple command. -/
def perform (run : Evaluator) (isTested : Bool) (line : Nat) (assignments words : List Word)
    (redirections : List Redirection) : Step Unit := do
  match (← get).dialect with
  | .plain => performPlain run isTested line assignments words redirections
  | .extended => performExtended run isTested line assignments words redirections

end ShaderCost.Script.Simple
