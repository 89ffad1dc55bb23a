import ShaderCost.Gpu
import ShaderCost.Dump.Source
import ShaderCost.Text.Basic

/-!
What a command line asks for. Its words are read level by level, each up to the name of a command
below it. An option starts with two hyphens and takes its value from behind an equals sign or from
the next word. Behind two hyphens alone all words are operands. Options that hold for all commands
may stand on any level; the deepest level decides.
-/

namespace ShaderCost.CommandLine

/-- Why a command line is not carried out. -/
inductive Refusal where
  /-- The words make no sense. -/
  | usage
  | helpWanted
  | versionWanted
  deriving DecidableEq

/-- An option with a value, and which values it can have. -/
structure ValueOption where
  name : Text
  accepts : Text → Bool

/-- What a level allows. -/
structure Grammar where
  valueOptions : List ValueOption
  flags : List Text
  /-- How many operands there may be. -/
  operands : Nat
  /-- The commands of which one has to follow, if any. -/
  commands : List Text
  /-- Whether the version can be asked for. -/
  hasVersion : Bool
  /-- What help there is: for the level itself and for the commands below it, each named by the
  words that lead to it. -/
  topics : List (List Text)

def Grammar.option? (grammar : Grammar) (name : Text) : Option ValueOption :=
  grammar.valueOptions.find? fun option => option.name = name

/-- The words of a level, taken apart. -/
structure Level where
  values : List (Text × Text)
  flags : List Text
  operands : List Text
  /-- The command that follows, with the words behind it. -/
  command : Option (Text × List Text)
  deriving DecidableEq

namespace Level

def empty : Level := ⟨[], [], [], none⟩

/-- Adds the value of an option, which has one place on a level. -/
def addValue (level : Level) (option : ValueOption) (value : Text) : Except Refusal Level :=
  if (level.values.lookup option.name).isSome || !option.accepts value then .error .usage
  else .ok { level with values := (option.name, value) :: level.values }

def addFlag (level : Level) (name : Text) : Except Refusal Level :=
  if level.flags.contains name then .error .usage
  else .ok { level with flags := name :: level.flags }

def addOperand (grammar : Grammar) (level : Level) (operand : Text) : Except Refusal Level :=
  if level.operands.length < grammar.operands then
    .ok { level with operands := level.operands ++ [operand] }
  else .error .usage

/-- Whether a word is no option, and so may be a value or an operand. -/
def isPlain (word : Text) : Bool :=
  match word with
  | '-' :: _ :: _ => false
  | _ => true

/-- What asks for something else instead. -/
def request? (grammar : Grammar) (name : Text) : Option Refusal :=
  if name = "help" || name = "h" then some .helpWanted
  else if grammar.hasVersion && (name = "version" || name = "V") then some .versionWanted
  else none

/-- Reads the words of a level, and stops at the first that makes no sense or asks for something
else. -/
def take (grammar : Grammar) (level : Level) : List Text → Except Refusal Level
  | [] => .ok level
  | word :: rest =>
      match word with
      | ['-', '-'] => rest.foldlM (addOperand grammar) level
      | '-' :: '-' :: name =>
          match Text.splitAt? '=' name with
          | some (name, value) =>
              match grammar.option? name with
              | some option => do take grammar (← level.addValue option value) rest
              | none => .error .usage
          | none =>
              if grammar.flags.contains name then do take grammar (← level.addFlag name) rest
              else match grammar.option? name with
                | some option =>
                    match rest with
                    | value :: rest =>
                        if isPlain value then do take grammar (← level.addValue option value) rest
                        else .error .usage
                    | [] => .error .usage
                | none =>
                    if 1 < name.length then .error ((request? grammar name).getD .usage)
                    else .error .usage
      | '-' :: letter :: _ => .error ((request? grammar [letter]).getD .usage)
      | word =>
          if grammar.commands.isEmpty then do take grammar (← level.addOperand grammar word) rest
          else if grammar.commands.contains word then
            .ok { level with command := some (word, rest) }
          else if word = "help" && grammar.topics.contains rest then .error .helpWanted
          else .error .usage

end Level

end ShaderCost.CommandLine

namespace ShaderCost.CommandLine

/-- How results are shown. -/
inductive Format where
  | json
  | markdown
  | text
  deriving DecidableEq

namespace Format

def all : List Format := [json, markdown, text]

def word : Format → Text
  | json => "json"
  | markdown => "markdown"
  | text => "text"

def ofWord? (name : Text) : Option Format := all.find? fun format => format.word = name

end Format

inductive Command where
  /-- Writes the stage sources of all variants of a dump to a directory. -/
  | extract (dump directory : Text)
  /-- Runs the compiler on two stage files. -/
  | analyze (vertex fragment : Text) (gpu : Option Text) (saves : Bool)
  /-- Runs the compiler on the variants of a shader's dump. -/
  | shader (name dumpDirectory : Text) (platform : Platform) (allVariants : Bool)
      (gpu workDirectory : Option Text) (saves : Bool)
  /-- Analyses two saved reports. -/
  | inspect (vertexReport fragmentReport : Text)
  | gpus (architecture : Option Gpu.Architecture)
  /-- Asks the compiler for its version. -/
  | check
  | showSettings
  | changeSetting (key value : Text)
  /-- Asks for the completions of a shell. -/
  | completions (shell : Text)
  deriving DecidableEq

structure Invocation where
  format : Format
  /-- Whether nothing but trouble is shown. -/
  quiet : Bool
  /-- Whether the compiler is asked for plain output too. -/
  isPlain : Bool
  settingsPath : Option Text
  command : Command
  deriving DecidableEq

/-- An option whose value is a path, and so not empty. -/
def pathOption (name : Text) : ValueOption := ⟨name, fun value => !value.isEmpty⟩

/-- An option whose value may be any text. -/
def textOption (name : Text) : ValueOption := ⟨name, fun _ => true⟩

/-- An option whose value has to be readable. -/
def readOption {α : Type} (name : Text) (read? : Text → Option α) : ValueOption :=
  ⟨name, fun value => (read? value).isSome⟩

/-- Options that hold for all commands. -/
def commonOptions : List ValueOption := [readOption "format" Format.ofWord?, pathOption "settings"]

def commonFlags : List Text := ["no-color", "quiet", "no-progress"]

/-- A level below the first, with what it adds to the common options. -/
def grammarOf (valueOptions : List ValueOption) (flags : List Text) (operands : Nat)
    (commands : List Text) : Grammar where
  valueOptions := commonOptions ++ valueOptions
  flags := commonFlags ++ flags
  operands := operands
  commands := commands
  hasVersion := false
  topics := [] :: ["help".toList] :: commands.map fun command => [command]

/-- The commands and the words that each of them takes. -/
def commandGrammars : List (Text × Grammar) := [
  ("extract", grammarOf [pathOption "out"] [] 1 []),
  ("analyze",
    grammarOf [pathOption "vertex", pathOption "fragment", textOption "gpu"] ["save"] 0 []),
  ("shader",
    grammarOf [pathOption "dump-dir", readOption "platform" Platform.ofName?, textOption "gpu",
      pathOption "work-dir"] ["all-variants", "save"] 1 []),
  ("inspect", grammarOf [pathOption "vertex-report", pathOption "fragment-report"] [] 0 []),
  ("gpus", grammarOf [readOption "architecture" Gpu.Architecture.ofName?] [] 0 []),
  ("check", grammarOf [] [] 0 []),
  ("settings", grammarOf [] [] 0 ["show", "set"]),
  ("completions", grammarOf [] [] 1 [])]

def settingsGrammars : List (Text × Grammar) := [
  ("show", grammarOf [] [] 0 []),
  ("set", grammarOf [] [] 2 [])]

def topGrammar : Grammar :=
  let grammar := grammarOf [] [] 0 (commandGrammars.map Prod.fst)
  let below := commandGrammars.flatMap fun (name, grammar) =>
    if grammar.commands.isEmpty then [] else (grammar.topics.map fun topic => name :: topic)
  { grammar with hasVersion := true, topics := grammar.topics ++ below }

def shells : List Text := ["bash", "elvish", "fish", "powershell", "zsh"]

/-- A value that has to be there. -/
def needed {α : Type} : Option α → Except Refusal α
  | some value => .ok value
  | none => .error .usage

/-- A path is not empty. -/
def path (text : Text) : Except Refusal Text := if text.isEmpty then .error .usage else .ok text

namespace Level

def value? (level : Level) (name : Text) : Option Text := level.values.lookup name

def path? (level : Level) (name : Text) : Except Refusal (Option Text) :=
  (level.value? name).mapM path

def neededPath (level : Level) (name : Text) : Except Refusal Text := do
  path (← needed (level.value? name))

def has (level : Level) (flag : Text) : Bool := level.flags.contains flag

/-- The command below a level and what is said on its own level. -/
def below (level : Level) (grammars : List (Text × Grammar)) : Except Refusal (Text × Level) := do
  let (name, words) ← needed level.command
  let grammar ← needed (grammars.lookup name)
  return (name, ← Level.take grammar .empty words)

end Level

/-- What the levels, the deepest first, say for all commands. -/
def withCommon (levels : List Level) (command : Command) : Except Refusal Invocation := do
  let formats ← (levels.filterMap fun level => level.value? "format").mapM fun word =>
    needed (Format.ofWord? word)
  let paths ← (levels.filterMap fun level => level.value? "settings").mapM path
  return {
    format := formats.headD .markdown
    quiet := levels.any fun level => level.has "quiet"
    isPlain := levels.any fun level => level.has "no-color"
    settingsPath := paths.head?
    command := command }

/-- The command that a level is about. -/
def commandOf (name : Text) (level : Level) : Except Refusal Command := do
  match String.ofList name with
  | "extract" =>
      return .extract (← path (← needed level.operands.head?)) (← level.neededPath "out")
  | "analyze" =>
      return .analyze (← level.neededPath "vertex") (← level.neededPath "fragment")
        (level.value? "gpu") (level.has "save")
  | "shader" =>
      let platform ← match level.value? "platform" with
        | some word => needed (Platform.ofName? word)
        | none => pure .gles3
      return .shader (← needed level.operands.head?) ((← level.path? "dump-dir").getD ".")
        platform (level.has "all-variants") (level.value? "gpu") (← level.path? "work-dir")
        (level.has "save")
  | "inspect" =>
      return .inspect (← level.neededPath "vertex-report") (← level.neededPath "fragment-report")
  | "gpus" =>
      return .gpus (← (level.value? "architecture").mapM fun word =>
        needed (Gpu.Architecture.ofName? word))
  | "check" => return .check
  | "show" => return .showSettings
  | "set" =>
      match level.operands with
      | [key, value] => return .changeSetting key value
      | _ => throw .usage
  | "completions" =>
      let shell ← needed level.operands.head?
      if shells.contains shell then return .completions shell else throw .usage
  | _ => throw .usage

namespace Invocation

/-- What the words after the program's name ask for. -/
def ofWords (words : List Text) : Except Refusal Invocation := do
  let top ← Level.take topGrammar .empty words
  let (name, level) ← top.below commandGrammars
  if name = "settings" then
    let (action, deepest) ← level.below settingsGrammars
    withCommon [deepest, level, top] (← commandOf action deepest)
  else withCommon [level, top] (← commandOf name level)

end Invocation

end ShaderCost.CommandLine
