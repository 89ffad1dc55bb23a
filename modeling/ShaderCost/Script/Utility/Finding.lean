import ShaderCost.Script.Expression.Reader
import ShaderCost.Script.Utility.Entries
import ShaderCost.Script.Utility.Paths

/-!
The utility that walks through directories and puts each entry to a query. A query has tests and
actions as its parts; the entries of a directory come in the order of their names.
-/

namespace ShaderCost.Script.Utility

/-- What carries out other programs. -/
structure Starter where
  /-- Why a program cannot be started: the wording of the cause and the status. -/
  obstacle? : (program : Text) → Step (Option (Text × Nat))
  /-- Carries out a program as all that a process does from here on. It comes back only where the
  program cannot be started, with the wording of the cause and the status. -/
  run : (program : Text) → (arguments : List Text) → Step (Text × Nat)

instance : CoeFun Starter fun _ => Text → List Text → Step (Text × Nat) := ⟨Starter.run⟩

namespace Finding

/-- What is put to a query. -/
structure Entry where
  /-- The path that the walk began at. -/
  start : Text
  path : Text
  depth : Nat
  node : Node

namespace Entry

def name (entry : Entry) : Text := lastName [] entry.path

/-- The path from where the walk began. -/
def pathBelow (entry : Entry) : Text :=
  let rest := entry.path.drop entry.start.length
  if rest.head? = some '/' then rest.drop 1 else rest

/-- The directory that an entry is in. -/
def above (entry : Entry) : Text :=
  if '/' ∈ entry.path then directoryOf entry.path else "."

end Entry

/-- A number that others are compared with. -/
inductive Bound where
  | exactly (count : Nat)
  | above (count : Nat)
  | below (count : Nat)

namespace Bound

def admits : Bound → Nat → Bool
  | exactly count, value => value = count
  | above count, value => count < value
  | below count, value => value < count

def ofText? : Text → Option Bound
  | '+' :: digits => (Text.nat? digits).map above
  | '-' :: digits => (Text.nat? digits).map below
  | digits => (Text.nat? digits).map exactly

end Bound

inductive Action where
  | print (ending : Char)
  | format (format : Text)
  | delete
  | prune
  | quit
  /-- Carries out a program for each entry. -/
  | run (words : List Text) (inDirectory : Bool)
  /-- Keeps an entry for a program that is carried out once for all of them. -/
  | gather (number : Nat)

inductive Query where
  | test (passes : FileTree → Entry → Bool)
  | act (action : Action)
  | neither (part : Query)
  | both (left right : Query)
  | either (left right : Query)
  /-- The one and then the other, which decides. -/
  | inTurn (left right : Query)

namespace Query

def always : Query := .test fun _ _ => true

end Query

/-- How a walk is done. -/
structure Setup where
  /-- Whether links are followed, where the walk begins or everywhere. -/
  followsStarts : Bool
  followsAll : Bool
  least : Nat
  most : Option Nat
  /-- Whether what is in a directory comes before it. -/
  isDeep : Bool
  isExtended : Bool
  /-- Whether the query has an action beside leaving out directories. -/
  hasAction : Bool
  /-- The programs that are carried out for all entries together. -/
  programs : List (List Text)
  /-- Files that tests compare entries with. -/
  references : List Text
  warnings : List Text

/-! Formats. -/

/-- A text at least as wide as is asked for. -/
def placed (placing : Text) (text : Text) : Text :=
  let isLeft := '-' ∈ placing
  let width := digitsIn 10 (placing.filter Char.isDigit)
  let gap := List.replicate (width - text.length) ' '
  if isLeft then text ++ gap else gap ++ text

/-- What a letter of a format stands for. -/
def shownFor? (entry : Entry) (letter : Char) : Option Text :=
  let facts := Particulars.ofNode entry.node
  let link : Text := match entry.node with
    | .link path => spreadText path
    | _ => []
  let slash : Text := if 1 < entry.path.length && Text.endsWith "/" entry.path then "/" else ""
  List.lookup letter [('p', entry.path), ('f', entry.name ++ slash), ('h', entry.above),
    ('P', entry.pathBelow), ('H', entry.start), ('s', Text.ofNat facts.size),
    ('d', Text.ofNat entry.depth), ('y', [facts.kind]), ('Y', [facts.kind]),
    ('m', facts.octalMode), ('M', facts.modeLetters), ('l', link), ('n', Text.ofNat facts.names),
    ('k', Text.ofNat ((facts.blocks + 1) / 2)), ('b', Text.ofNat facts.blocks), ('u', "root"),
    ('g', "root"), ('U', ['0']), ('G', ['0'])]

/-- The letters of directives that are known. -/
def directiveLetters : Text := "pfhPHsdyYmMlnkbuUgG%".toList

def isPlacing (c : Char) : Bool := c.isDigit || c = '-'

/-- The directives of a format that are unknown. -/
def unknownDirectives : (fuel : Nat) → Text → List Text
  | fuel + 1, '\\' :: _ :: rest => unknownDirectives fuel rest
  | fuel + 1, '%' :: rest =>
      let placing := rest.takeWhile isPlacing
      match rest.drop placing.length with
      | [] => []
      | letter :: rest =>
          let others := unknownDirectives fuel rest
          if directiveLetters.elem letter then others
          else ('%' :: placing ++ [letter]) :: others
  | fuel + 1, _ :: rest => unknownDirectives fuel rest
  | _, _ => []

/-- A format filled in for an entry. -/
def filled (entry : Entry) : (fuel : Nat) → Text → Text
  | fuel + 1, '\\' :: c :: rest =>
      if c = 'c' then []
      else
        let (shown, rest) := Format.takeEscape (c :: rest)
        shown :: filled entry fuel rest
  | fuel + 1, '%' :: rest =>
      let placing := rest.takeWhile isPlacing
      match rest.drop placing.length with
      | [] => ['%']
      | letter :: rest =>
          let shown : Text := match letter, shownFor? entry letter with
            | '%', _ => ['%']
            | _, some shown => placed placing shown
            | _, none => '%' :: placing ++ [letter]
          shown ++ filled entry fuel rest
  | fuel + 1, c :: rest => c :: filled entry fuel rest
  | _, _ => []

/-! Reading the arguments. -/

/-- A part of a written query. -/
inductive Token where
  | item (query : Query)
  | opening
  | closing
  | negation (word : Text)
  | conjunction (word : Text)
  | disjunction (word : Text)
  | comma

abbrev Reader := StateT Setup (Except Text)

def inMarks (text : Text) : Text := '\x60' :: text ++ ['\'']

/-- What stands for the path of an entry. -/
def braces : Text := ['{', '}']

/-- The words of a program up to the mark that ends them, the last one first, whether it is carried
out once for all entries, and the words behind. -/
def programWords? : (words before : List Text) → Option (List Text × Bool × List Text)
  | [], _ => none
  | word :: rest, before =>
      if word = ";" then some (before, false, rest)
      else if word = "+" && before.head?.any (Text.contains braces) then some (before, true, rest)
      else programWords? rest (word :: before)

/-- A regular expression in which backslashes give parentheses and bars their meaning, as one in
which they take it away. -/
def turned : Text → Text
  | '\\' :: c :: rest => if c ∈ "()|".toList then c :: turned rest else '\\' :: c :: turned rest
  | c :: rest => if c ∈ "()|\x7b\x7d".toList then '\\' :: c :: turned rest else c :: turned rest
  | [] => []

def expressionTest (foldsCase : Bool) (text : Text) : Reader Query := do
  let isExtended := (← get).isExtended
  let style : Expression.Style := {
    isExtended := true, foldsCase, sparesBraces := true, sparesParentheses := true }
  match Expression.ofText style (if isExtended then text else turned text) with
  | .ok expression => return .test fun _ entry => expression.accepts entry.path
  | .error problem =>
      throw ("failed to compile regular expression ".toList ++ nameInQuotes text ++
        ": ".toList ++ problem)

def globTest (foldsCase : Bool) (choose : Entry → Text) (glob : Text) : Query :=
  let fold (text : Text) : Text := if foldsCase then text.map Char.toLower else text
  let pattern := Pattern.bare (fold glob)
  .test fun _ entry => pattern.accepts (fold (choose entry))

/-- How many octets the letter of a unit stands for. -/
def unitOf? (letter : Char) : Option Nat :=
  List.lookup letter [('c', 1), ('w', 2), ('b', 512), ('k', 1024), ('M', 1048576),
    ('G', 1073741824)]

def sizeTest (text : Text) : Except Text Query := do
  let last := text.getLast?.getD '0'
  let (digits, unit?) := if last.isDigit then (text, some 512) else (text.dropLast, unitOf? last)
  match unit? with
  | none => throw ("invalid -size type ".toList ++ inMarks [last])
  | some unit =>
      match Bound.ofText? digits with
      | some bound => return .test fun _ entry =>
          bound.admits (((Particulars.ofNode entry.node).size + unit - 1) / unit)
      | none => throw ("Invalid argument ".toList ++ inMarks text ++ " to -size".toList)

def kindTest (text : Text) : Except Text Query := do
  if text.isEmpty then throw ("Arguments to -type should contain at least one letter" : Text)
  let kinds := text.splitOn ','
  for kind in kinds do
    match kind with
    | [] => throw ("Last file type in list argument to -type is missing, i.e., list is " ++
        "ending on: ','" : Text)
    | [letter] =>
        if letter ∉ "bcdflpsD".toList then
          throw ("Unknown argument to -type: ".toList ++ kind)
    | _ => throw ("Must separate multiple arguments to -type using: ','" : Text)
  let letters := kinds.flatten
  return .test fun _ entry => letters.elem (Particulars.ofNode entry.node).kind

def modeTest (text : Text) : Except Text Query := do
  let mode (entry : Entry) : Nat := (Particulars.ofNode entry.node).mode
  let asked (text : Text) : Except Text Nat := match Particulars.bits? text with
    | some bits => .ok bits
    | none => .error ("invalid mode ".toList ++ nameInQuotes text)
  match text with
  | '-' :: rest =>
      let bits ← asked rest
      return .test fun _ entry => mode entry &&& bits = bits
  | '/' :: rest =>
      let bits ← asked rest
      return .test fun _ entry => bits = 0 || mode entry &&& bits != 0
  | _ =>
      let bits ← asked text
      return .test fun _ entry => mode entry = bits

def isEmptyNode : Node → Bool
  | .directory entries => entries.isEmpty
  | .file content _ => content.size = 0
  | _ => false

/-- Whether a test of a shell passes for the path of an entry. -/
def fileTest (operator : Text) : Query :=
  .test fun tree entry => Condition.ofFile tree operator entry.path

/-- Tests and actions that are written as one word. -/
def plain : List (Text × Query) := [
  ("-true", .always), ("-false", .test fun _ _ => false),
  ("-empty", .test fun _ entry => isEmptyNode entry.node),
  ("-readable", fileTest "-r"), ("-writable", fileTest "-w"), ("-executable", fileTest "-x"),
  ("-nouser", .test fun _ _ => false), ("-nogroup", .test fun _ _ => false),
  ("-print", .act (.print '\n')), ("-print0", .act (.print '\x00')),
  ("-delete", .act .delete), ("-prune", .act .prune), ("-quit", .act .quit)]

/-- Words that change how the walk is done. -/
def switches : List (Text × (Setup → Setup)) := [
  ("-depth", fun setup => { setup with isDeep := true }),
  ("-d", fun setup => { setup with isDeep := true }),
  ("-follow", fun setup => { setup with followsAll := true }),
  ("-xdev", id), ("-mount", id), ("-noleaf", id), ("-daystart", id), ("-warn", id),
  ("-nowarn", id), ("-ignore_readdir_race", id), ("-noignore_readdir_race", id)]

def operators : List (Text × Token) := [
  ("(", .opening), (")", .closing), ("!", .negation "!"), ("-not", .negation "-not"),
  ("-a", .conjunction "-a"), ("-and", .conjunction "-and"), ("-o", .disjunction "-o"),
  ("-or", .disjunction "-or"), (",", .comma)]

/-- Tests of times. Nothing is older than the walk. -/
def ageTests : List Text :=
  ["-mtime", "-atime", "-ctime", "-mmin", "-amin", "-cmin", "-used"].map String.toList

/-- Notations of regular expressions in which parentheses need no backslash. -/
def extendedNotations : List Text := ["posix-extended", "posix-egrep", "egrep", "posix-awk", "awk",
  "gnu-awk"].map String.toList

def otherNotations : List Text := ["findutils-default", "ed", "emacs", "grep", "posix-basic",
  "posix-minimal-basic", "sed"].map String.toList

/-- A count that a word needs behind it. -/
def depthOf (word value : Text) : Except Text Nat :=
  match Text.nat? value with
  | some depth => .ok depth
  | none => .error ("Expected a positive decimal integer argument to ".toList ++ word ++
      ", but got ".toList ++ nameInQuotes value)

/-- Notes that a query has an action. -/
def noteAction : Reader Unit := modify fun setup => { setup with hasAction := true }

/-- The part of a query that a word and the value behind it write, if it is a word that takes
one. -/
def valued? (word value : Text) : Reader (Option Query) := do
  if ageTests.elem word then
    match Bound.ofText? value with
    | some bound => return some (.test fun _ _ => bound.admits 0)
    | none =>
        throw ("invalid argument ".toList ++ inMarks value ++ " to ".toList ++ inMarks word)
  match String.ofList word with
  | "-name" => return some (globTest false Entry.name value)
  | "-iname" => return some (globTest true Entry.name value)
  | "-path" | "-wholename" => return some (globTest false Entry.path value)
  | "-ipath" | "-iwholename" => return some (globTest true Entry.path value)
  | "-lname" =>
      return some <| .test fun _ entry => match entry.node with
        | .link path => (Pattern.bare value).accepts (spreadText path)
        | _ => false
  | "-regex" => return some (← expressionTest false value)
  | "-iregex" => return some (← expressionTest true value)
  | "-type" | "-xtype" => return some (← kindTest value)
  | "-size" => return some (← sizeTest value)
  | "-perm" => return some (← modeTest value)
  | "-links" =>
      match Bound.ofText? value with
      | some bound => return some <| .test fun _ entry =>
          bound.admits (Particulars.ofNode entry.node).names
      | none =>
          throw ("invalid argument ".toList ++ inMarks value ++ " to ".toList ++ inMarks word)
  | "-printf" =>
      noteAction
      let warnings := (unknownDirectives (value.length + 1) value).map fun directive =>
        "warning: unrecognized format directive ".toList ++ inMarks directive
      modify fun setup => { setup with warnings := setup.warnings ++ warnings }
      return some (.act (.format value))
  | "-user" | "-group" | "-uid" | "-gid" => return some .always
  | "-newer" | "-anewer" | "-cnewer" =>
      modify fun setup => { setup with references := setup.references ++ [value] }
      return some (.test fun _ _ => false)
  | "-samefile" =>
      modify fun setup => { setup with references := setup.references ++ [value] }
      return some <| .test fun tree entry =>
        Condition.isSameFile tree (shownText entry.path) (shownText value)
  | "-maxdepth" =>
      let depth ← depthOf word value
      modify fun setup => { setup with most := some depth }
      return some .always
  | "-mindepth" =>
      let depth ← depthOf word value
      modify fun setup => { setup with least := depth }
      return some .always
  | "-regextype" =>
      let isExtended := extendedNotations.elem value
      if !isExtended && !otherNotations.elem value then
        throw ("Unknown regular expression type ".toList ++ nameInQuotes value ++
          "; valid types are 'findutils-default', 'ed', 'emacs', 'gnu-awk', 'grep', ".toList ++
          "'posix-awk', 'awk', 'posix-basic', 'posix-egrep', 'egrep', 'posix-extended', ".toList ++
          "'posix-minimal-basic', 'sed'.".toList)
      modify fun setup => { setup with isExtended }
      return some .always
  | _ => return none

/-- Words that take a value. -/
def valuedWords : List Text := ["-name", "-iname", "-path", "-wholename", "-ipath", "-iwholename",
  "-lname", "-regex", "-iregex", "-type", "-xtype", "-size", "-perm", "-links", "-printf", "-user",
  "-group", "-uid", "-gid", "-newer", "-anewer", "-cnewer"].map String.toList ++
  ["-samefile", "-maxdepth", "-mindepth", "-regextype"].map String.toList ++ ageTests

/-- The part of a query that carries out a program, and the words behind it. -/
def program (word : Text) (words : List Text) : Reader (Token × List Text) := do
  noteAction
  match programWords? words [] with
  | none => throw ("missing argument to ".toList ++ inMarks word)
  | some ([], _, _) =>
      throw ("invalid argument ".toList ++ inMarks ";" ++ " to ".toList ++ inMarks word)
  | some (last :: words, true, rest) =>
      if last != braces then
        throw ("In '".toList ++ word ++ " ... \x7b\x7d +' the '\x7b\x7d' must appear by ".toList ++
          "itself, but you specified ".toList ++ nameInQuotes last)
      if words.any (Text.contains braces) then
        throw ("Only one instance of \x7b\x7d is supported with ".toList ++ word ++ " ... +".toList)
      let number := (← get).programs.length
      modify fun setup => { setup with programs := setup.programs ++ [words.reverse] }
      return (.item (.act (.gather number)), rest)
  | some (words, false, rest) =>
      return (.item (.act (.run words.reverse (word = "-execdir"))), rest)

/-- Reads words as parts of a query. -/
def tokens : (fuel : Nat) → List Text → Reader (List Token)
  | 0, _ | _ + 1, [] => return []
  | fuel + 1, word :: rest => do
      match operators.lookup word, plain.lookup word, switches.lookup word with
      | some token, _, _ => return token :: (← tokens fuel rest)
      | none, some query, _ =>
          if word = "-delete" then modify fun setup => { setup with isDeep := true }
          if ["-print".toList, "-print0".toList, "-delete".toList, "-quit".toList].elem word then
            if word != "-quit" then noteAction
          return .item query :: (← tokens fuel rest)
      | none, none, some switch =>
          modify switch
          return .item .always :: (← tokens fuel rest)
      | none, none, none =>
          if word = "-exec" || word = "-execdir" then
            let (token, rest) ← program word rest
            return token :: (← tokens fuel rest)
          else if !valuedWords.elem word then
            if word.head? = some '-' then throw ("unknown predicate ".toList ++ inMarks word)
            else throw ("paths must precede expression: ".toList ++ inMarks word)
          else match rest with
            | [] => throw ("missing argument to ".toList ++ inMarks word)
            | value :: rest =>
                let query := (← valued? word value).getD .always
                return .item query :: (← tokens fuel rest)

/-! Putting the parts together. Where no operator stands between two parts, both have to hold. -/

abbrev Reading := Except Text (Query × List Token)

/-- The complaint about what stands where an operand has to be. -/
def missingOperand (operator : Text) : List Token → Text
  | [] => "expected an expression after ".toList ++ nameInQuotes operator
  | _ => "expected an expression between ".toList ++ nameInQuotes operator ++ " and ')'".toList

def nothingBefore (operator : Text) : Text :=
  "invalid expression; you have used a binary operator '".toList ++ operator ++
    "' with nothing before it.".toList

mutual

def sequence : (fuel : Nat) → (operator : Text) → List Token → Reading
  | 0, _, _ => .error []
  | fuel + 1, operator, tokens => do
      let (query, rest) ← alternatives fuel operator tokens
      moreInSequence fuel query rest

def moreInSequence : (fuel : Nat) → Query → List Token → Reading
  | fuel + 1, query, .comma :: rest => do
      let (next, rest) ← alternatives fuel "," rest
      moreInSequence fuel (.inTurn query next) rest
  | _, query, rest => .ok (query, rest)

def alternatives : (fuel : Nat) → (operator : Text) → List Token → Reading
  | 0, _, _ => .error []
  | fuel + 1, operator, tokens => do
      let (query, rest) ← conjunction fuel operator tokens
      moreAlternatives fuel query rest

def moreAlternatives : (fuel : Nat) → Query → List Token → Reading
  | fuel + 1, query, .disjunction word :: rest => do
      let (next, rest) ← conjunction fuel word rest
      moreAlternatives fuel (.either query next) rest
  | _, query, rest => .ok (query, rest)

def conjunction : (fuel : Nat) → (operator : Text) → List Token → Reading
  | 0, _, _ => .error []
  | fuel + 1, operator, tokens => do
      let (query, rest) ← single fuel operator tokens
      moreConjuncts fuel query rest

def moreConjuncts : (fuel : Nat) → Query → List Token → Reading
  | fuel + 1, query, token :: rest =>
      match token with
      | .conjunction word => do
          let (next, rest) ← single fuel word rest
          moreConjuncts fuel (.both query next) rest
      | .item _ | .opening | .negation _ => do
          let (next, rest) ← single fuel [] (token :: rest)
          moreConjuncts fuel (.both query next) rest
      | _ => .ok (query, token :: rest)
  | _, query, rest => .ok (query, rest)

def single : (fuel : Nat) → (operator : Text) → List Token → Reading
  | 0, _, _ => .error []
  | fuel + 1, operator, tokens =>
      match tokens with
      | .item query :: rest => .ok (query, rest)
      | .negation word :: rest => do
          let (query, rest) ← single fuel word rest
          return (.neither query, rest)
      | .opening :: .closing :: _ =>
          .error "invalid expression; empty parentheses are not allowed."
      | .opening :: rest => do
          let (query, rest) ← sequence fuel "(" rest
          match rest with
          | .closing :: rest => return (query, rest)
          | _ =>
              throw ("invalid expression; I was expecting to find a ')' somewhere but did not " ++
                "see one." : Text)
      | .conjunction word :: _ | .disjunction word :: _ => .error (nothingBefore word)
      | .comma :: _ => .error (nothingBefore ",")
      | rest => .error (missingOperand operator rest)

end

def queryOf (tokens : List Token) : Except Text Query := do
  if tokens.isEmpty then return .always
  let (query, rest) ← sequence (8 * tokens.length + 8) [] tokens
  match rest with
  | [] => return query
  | _ => throw ("you have too many ')'" : Text)

/-! The walk. -/

/-- How far a walk has come. -/
structure Progress where
  /-- Whether the directory that was just put to the query is left out. -/
  isPruned : Bool
  /-- Whether the walk ends. -/
  isOver : Bool
  /-- What was kept for programs, the last one first. -/
  kept : List (Nat × Text)
  status : Nat

abbrev Walk := StateT Progress Step

/-- What a walk works with. -/
structure Host where
  name : Text
  start : Starter
  setup : Setup

/-- Carries out a program with its own streams and gives its status. -/
def carryOut (host : Host) (words : List Text) (directory : Option Text) : Step Nat := do
  let before := (← get).status
  inProcess do
    match directory with
    | some path =>
        match (← get).tree.locate (shownText path) with
        | .ok location => modify fun shell => { shell with directory := location }
        | .error _ => pure ()
    | none => pure ()
    match words with
    | program :: arguments =>
        let (cause, _) ← host.start program arguments
        complain host.name (nameInQuotes program ++ ": ".toList ++ cause)
        setStatus 1
        throw .exited
    | [] => pure ()
  let status := (← get).status
  setStatus before
  return status

/-- A word in which braces stand for a path. -/
def withPath (path : Text) : (fuel : Nat) → Text → Text
  | 0, word => word
  | _ + 1, [] => []
  | fuel + 1, c :: rest =>
      match Text.after? braces (c :: rest) with
      | some behind => path ++ withPath path fuel behind
      | none => c :: withPath path fuel rest

def fail : Walk Unit := modify fun progress => { progress with status := 1 }

def isDirectory : Node → Bool
  | .directory _ => true
  | _ => false

def perform (host : Host) (entry : Entry) : Action → Walk Bool
  | .print ending => do
      print (entry.path ++ [ending])
      return true
  | .format format => do
      print (filled entry (format.length + 1) format)
      return true
  | .delete => do
      if entry.path = "." then return true
      let tree := (← getThe Shell).tree
      let problem? : Option FileError := match tree.findEntry (shownText entry.path) with
        | .error error => some error
        | .ok (.directory (_ :: _)) => some .alreadyExists
        | .ok _ => none
      match problem? with
      | none =>
          removeAt entry.path
          return true
      | some error =>
          let cause : Text :=
            if error = .alreadyExists then "Directory not empty" else wording error
          complain host.name ("cannot delete ".toList ++ nameInQuotes entry.path ++ ": ".toList ++
            cause)
          fail
          return false
  | .prune => do
      modify fun progress => { progress with isPruned := true }
      return true
  | .quit => do
      modify fun progress => { progress with isOver := true }
      return false
  | .run words inDirectory => do
      let path := if inDirectory then "./".toList ++ entry.name else entry.path
      let words := words.map fun word => withPath path (word.length + 1) word
      let status ← carryOut host words (if inDirectory then some entry.above else none)
      return status = 0
  | .gather number => do
      modify fun progress => { progress with kept := (number, entry.path) :: progress.kept }
      return true

/-- Puts an entry to a query. -/
def holds (host : Host) (entry : Entry) : Query → Walk Bool
  | .test passes => do return passes (← getThe Shell).tree entry
  | .act action => perform host entry action
  | .neither part => do return !(← holds host entry part)
  | .both left right => do
      if ← holds host entry left then holds host entry right else return false
  | .either left right => do
      if ← holds host entry left then return true
      else if (← get).isOver then return false
      else holds host entry right
  | .inTurn left right => do
      let _ ← holds host entry left
      if (← get).isOver then return false else holds host entry right

/-- What is at a path, as the walk sees it. -/
def nodeAt (setup : Setup) (tree : FileTree) (depth : Nat) (path : Text) : Except FileError Node :=
  if setup.followsAll || (depth = 0 && setup.followsStarts) then
    (tree.find (shownText path)).orElseLazy fun _ => tree.findEntry (shownText path)
  else tree.findEntry (shownText path)

/-- Goes through what is at a path and below. -/
def visit (host : Host) (query : Query) (start : Text) : (fuel depth : Nat) → Text → Walk Unit
  | 0, _, _ => pure ()
  | fuel + 1, depth, path => do
      if (← get).isOver then return
      spend 1
      match nodeAt host.setup (← getThe Shell).tree depth path with
      | .error error =>
          complain host.name (nameInQuotes path ++ ": ".toList ++ wording error)
          fail
      | .ok node =>
          let entry : Entry := ⟨start, path, depth, node⟩
          let ask : Walk Unit := do
            modify fun progress => { progress with isPruned := false }
            if host.setup.least ≤ depth then
              let _ ← holds host entry query
          if !host.setup.isDeep then ask
          let isPruned := (← get).isPruned && !host.setup.isDeep
          modify fun progress => { progress with isPruned := false }
          let isDeepest := host.setup.most.any fun most => decide (most ≤ depth)
          match node with
          | .directory entries =>
              if !isPruned && !isDeepest then
                let names := (entries.map fun entry => spreadText entry.1).mergeSort Text.atMost
                let above := if path.getLast? = some '/' then path else path ++ ['/']
                for name in names do visit host query start fuel (depth + 1) (above ++ name)
          | _ => pure ()
          if host.setup.isDeep && !(← get).isOver then ask

/-- How deep a walk goes at most. -/
def deepest : Nat := 2048

/-- Carries out the programs that are carried out once for what was kept for them. -/
def finish (host : Host) : Walk Unit := do
  for (words, number) in host.setup.programs.zipIdx do
    let paths := (← get).kept.reverse.filterMap fun entry =>
      if entry.1 = number then some entry.2 else none
    if !paths.isEmpty then
      let status ← carryOut host (words ++ paths) none
      if status != 0 then fail

/-- Whether a word begins the query. -/
def beginsQuery (word : Text) : Bool :=
  (word.head? = some '-' && 1 < word.length) || word = "(" || word = "!"

/-- Splits off the options that stand before all paths. -/
def leadingOptions (setup : Setup) : List Text → Setup × List Text
  | word :: rest =>
      if word = "-L" then
        leadingOptions { setup with followsAll := true, followsStarts := true } rest
      else if word = "-H" then
        leadingOptions { setup with followsAll := false, followsStarts := true } rest
      else if word = "-P" then
        leadingOptions { setup with followsAll := false, followsStarts := false } rest
      else if "-O".toList.isPrefixOf word then leadingOptions setup rest
      else if word = "--" then (setup, rest)
      else (setup, word :: rest)
  | [] => (setup, [])

end Finding

/-- Walks through directories. -/
def find (start : Starter) : Utility := fun name arguments => do
  let (setup, arguments) :=
    Finding.leadingOptions ⟨false, false, 0, none, false, false, false, [], [], []⟩ arguments
  let paths := arguments.takeWhile fun word => !Finding.beginsQuery word
  let words := arguments.drop paths.length
  let read : Except Text (Finding.Query × Finding.Setup) := do
    let (tokens, setup) ← (Finding.tokens (words.length + 1) words).run setup
    let query ← Finding.queryOf tokens
    return (if setup.hasAction then query else .both query (.act (.print '\n')), setup)
  match read with
  | .error problem =>
      complain name problem
      return 1
  | .ok (query, setup) =>
      for warning in setup.warnings do complain name warning
      for path in setup.references do
        match (← get).tree.find (shownText path) with
        | .ok _ => pure ()
        | .error error =>
            complain name (nameInQuotes path ++ ": ".toList ++ wording error)
            return 1
      let host : Finding.Host := ⟨name, start, setup⟩
      let walk : Finding.Walk Unit := do
        for path in if paths.isEmpty then [".".toList] else paths do
          Finding.visit host query path Finding.deepest 0 path
        Finding.finish host
      let (_, progress) ← walk.run ⟨false, false, [], 0⟩
      return progress.status

end ShaderCost.Script.Utility
