import ShaderCost.Script.Indented.Library
import ShaderCost.Script.Indented.Library.Written.Arguments
import ShaderCost.Script.Indented.Library.Written.Containers
import ShaderCost.Script.Indented.Library.Written.Files
import ShaderCost.Script.Indented.Library.Written.Programs
import ShaderCost.Script.Indented.Library.Written.Reports
import ShaderCost.Script.Indented.Library.Written.Texts
import ShaderCost.Script.Indented.Library.Written.Types
import ShaderCost.Script.Indented.Reader.Statements

/-!
Which parts the library has, and the values that every program has without asking for a part.
-/

namespace ShaderCost.Script.Indented

/-- The names of types of faults that do without that of a part. -/
def plainFaultTypes : List Text :=
  let names : List Text := (faultTypes ++ furtherFaultTypes ++ warningTypes).map Prod.fst
  "BaseException".toList :: names.filter fun name => !name.elem '.'

/-- The values that go by a name everywhere. -/
def commonValues : Roster Value :=
  let features := (commonFeatures ++ furtherCommonFeatures).map fun name =>
    (name, Value.feature name)
  let types := (plainTypes ++ plainFaultTypes).map fun name => (name, Value.type name)
  let others : List (Text × Value) := [
    ("NotImplemented", .unsupported), ("Ellipsis", .ellipsis), ("IOError", .type "OSError"),
    ("EnvironmentError", .type "OSError"), ("__debug__", .bool true)]
  .ofEntries (features ++ types ++ others)

/-- A text of lines. -/
def textOfLines (lines : List String) : Text := lines.flatMap fun line => line.toList ++ ['\n']

namespace Part

/-- A part that has values alone. -/
def ofValues (values : List (Text × Value)) : Part := ⟨[], values, []⟩

/-- A part that has routines alone. -/
def ofFeatures (features : List Text) : Part := ⟨features, [], []⟩

/-- A part that is told in the language alone. -/
def ofLines (lines : List String) : Part := ⟨[], [], textOfLines lines⟩

/-- The parts of files and programs. -/
def ofSystem? (name : Text) : Option Part :=
  match String.ofList name with
  | "os" => some ⟨fileFeatures ++ processFeatures, [], textOfLines Written.system⟩
  | "posixpath" => some (ofLines Written.paths)
  | "fnmatch" => some (ofLines Written.matching)
  | "glob" => some (ofLines Written.globbing)
  | "stat" => some (ofLines Written.facts)
  | "shutil" => some (ofLines Written.copying)
  | "tempfile" => some (ofLines Written.temporary)
  | "pathlib" => some (ofLines Written.pathObjects)
  | "io" => some ⟨["open", "StringIO", "BytesIO", "TextIOWrapper"],
      [("UnsupportedOperation", .type "io.UnsupportedOperation")], textOfLines Written.streams⟩
  | "subprocess" => some (ofLines Written.programs)
  | "shlex" => some (ofLines Written.words)
  | "threading" => some (ofLines Written.threads)
  | "asyncio" => some (ofLines Written.alternation)
  | "errno" => some (ofLines Written.errors)
  | "platform" => some (ofLines Written.platform)
  | "signal" => some ⟨signalFeatures, signalValues, textOfLines Written.signals⟩
  | "time" => some ⟨timeFeatures, [("timezone", .whole 0), ("daylight", .whole 0),
      ("tzname", .tuple [.text "UTC", .text "UTC"])], textOfLines Written.clock⟩
  | "atexit" => some (ofFeatures ["register", "unregister"])
  | "gc" => some (ofFeatures ["collect", "disable", "enable", "isenabled", "freeze"])
  | _ => none

/-- The parts of texts, octets and numbers. -/
def ofTexts? (name : Text) : Option Part :=
  match String.ofList name with
  | "re" => some ⟨patternFeatures, patternValues, []⟩
  | "string" => some (ofLines Written.templates)
  | "textwrap" => some (ofLines Written.wrapping)
  | "argparse" => some (ofLines Written.arguments)
  | "getopt" => some (ofLines Written.options)
  | "json" => some ⟨notationFeatures, [("JSONDecodeError", .type "json.decoder.JSONDecodeError")],
      textOfLines Written.notation_⟩
  | "json.tool" => some (ofLines Written.notationTool)
  | "csv" => some (ofLines Written.rows)
  | "pprint" => some (ofLines Written.layingOut)
  | "json.decoder" =>
      some (ofValues [("JSONDecodeError", .type "json.decoder.JSONDecodeError")])
  | "math" => some ⟨mathFeatures ++ furtherMathFeatures, mathValues, []⟩
  | "random" => some ⟨chanceFeatures, [], textOfLines Written.chances⟩
  | "struct" => some ⟨["_real_octets", "_octets_real"], [("error", .type "struct.error")],
      textOfLines Written.layouts⟩
  | "hashlib" => some ⟨["_digest"], [], textOfLines Written.digests⟩
  | "base64" => some ⟨["_encode", "_decode"], [], textOfLines Written.alphabets⟩
  | "binascii" => some ⟨["crc32", "hexlify", "unhexlify", "b2a_hex", "a2b_hex"],
      [("Error", .type "binascii.Error")], []⟩
  | "zlib" => some (ofFeatures ["crc32", "adler32"])
  | "datetime" => some (ofLines Written.moments)
  | _ => none

/-- The parts of containers, routines and types. -/
def ofValues? (name : Text) : Option Part :=
  match String.ofList name with
  | "collections" => some (ofLines Written.containers)
  | "collections.abc" => some ⟨[], [], textOfLines ["from typing import *"]⟩
  | "itertools" => some (ofLines Written.iterations)
  | "functools" => some (ofLines Written.routines)
  | "operator" => some (ofLines Written.operations)
  | "copy" => some (ofLines Written.copies)
  | "heapq" => some (ofLines Written.heaps)
  | "bisect" => some (ofLines Written.searches)
  | "statistics" => some (ofLines Written.measures)
  | "enum" => some (ofLines Written.enumerations)
  | "dataclasses" => some (ofLines Written.records)
  | "typing" => some (ofLines Written.hints)
  | "abc" => some (ofLines Written.abstractions)
  | "types" => some (ofLines Written.kinds)
  | "contextlib" => some (ofLines Written.managers)
  | "logging" => some (ofLines Written.reports)
  | "traceback" => some ⟨["_report", "_stack"], [], textOfLines Written.traces⟩
  | "warnings" => some ⟨["_place"], [], textOfLines Written.warnings⟩
  | "builtins" => some (ofValues commonValues.entries)
  | "importlib" => some (ofFeatures ["import_module", "reload"])
  | "__future__" => some (ofFeatures ["annotations", "division", "print_function"])
  | _ => none

end Part

def partOf? (name : Text) : Option Part :=
  Part.ofSystem? name <|> Part.ofTexts? name <|> Part.ofValues? name

end ShaderCost.Script.Indented

/-!
Further programs that one takes in: modules of the library and of files, and texts that are carried
out where the program is.
-/

namespace ShaderCost.Script.Indented

variable (evaluator : Evaluator)

/-! Texts of programs. -/

/-- Reads a program, whose routines come behind those that are known. -/
def readProgram (path text : Text) : Run Program := do
  match Program.ofText (← get).routines text with
  | .ok program =>
      modify fun state => { state with routines := program.routines }
      return program
  | .error flaw =>
      let place ← makeFault (.type flaw.kind)
        [.text (flaw.message ++ " (".toList ++ lastPathPart path ++ ", line ".toList ++
          Text.ofNat flaw.line ++ [')'])]
      plainlySet (.object place) "lineno" (.ofNat flaw.line)
      plainlySet (.object place) "filename" (.text path)
      plainlySet (.object place) "msg" (.text flaw.message)
      raiseFault place
where
  lastPathPart (path : Text) : Text := (path.reverse.takeWhile (· != '/')).reverse

/-- Carries out statements as those of a module. -/
def carryOutModule (scope : Nat) (path : Text) (statements : List Statement) : Run Value :=
  withFrame ⟨"<module>", path, 1, scope, none, none⟩ (evaluator.perform [.block statements])

/-! Modules. -/

def keepModule (name : Text) (module : Value) : Run Unit := modify fun state =>
  { state with modules := state.modules.insert name module }

/-- The text that a program begins with, if it begins with one. -/
def leadingText (statements : List Statement) : Value :=
  match statements with
  | .evaluate _ (.literal (.text text)) :: _ => .text text
  | _ => .none

def loadPart (name : Text) (part : Part) : Run Value := do
  let scope ← newScope .module [] none
  let module ← make (.module name scope)
  keepModule name module
  bindAt scope "__name__" (.text name)
  for feature in part.features do
    bindAt scope feature (.feature (name ++ '.' :: feature))
  for (title, value) in part.values do bindAt scope title value
  if !part.text.isEmpty then
    let path := libraryPath ++ name ++ ".py".toList
    let program ← readProgram path part.text
    let _ ← carryOutModule evaluator scope path program.body
  return module

/-- Where files of modules are looked for. -/
def modulePaths : Run (List Text) := do
  match ← systemValue "path" with
  | .object place =>
      match ← contentAt place with
      | .list items => return items.toList.filterMap Value.text?
      | _ => return []
  | _ => return []

/-- The file that a module is read from, and whether there are modules below it. -/
def moduleFile? (name : Text) : Run (Option (Text × Bool)) := do
  let tree := (← getThe Shell).tree
  let relative := name.map fun c => if c = '.' then '/' else c
  let candidates := (← modulePaths).flatMap fun directory =>
    let front := if directory.isEmpty then relative else directory ++ '/' :: relative
    [(front ++ "/__init__.py".toList, true), (front ++ ".py".toList, false)]
  return candidates.find? fun (path, _) => match tree.find path with
    | .ok (.file _ _) => true
    | _ => false

def loadFile (name path : Text) (isAbove : Bool) : Run Value := do
  match (← getThe Shell).tree.readOctets path with
  | .error error => failFile error path
  | .ok octets =>
      let text ← decodeOctets "utf-8" "strict" (spread octets)
      let program ← readProgram path text
      keepSource path text
      let scope ← newScope .module [] none
      let module ← make (.module name scope)
      let parent := (name.reverse.dropWhile (· != '.')).drop 1 |>.reverse
      bindAt scope "__name__" (.text name)
      bindAt scope "__file__" (.text path)
      bindAt scope "__package__" (.text (if isAbove then name else parent))
      bindAt scope "__doc__" (leadingText program.body)
      if isAbove then
        let directory := path.take (path.length - "/__init__.py".length)
        bindAt scope "__path__" (← makeList [.text directory])
      keepModule name module
      let _ ← tryCatch (carryOutModule evaluator scope path program.body) fun leave => do
        modify fun state => { state with modules := state.modules.erase name }
        throw leave
      return module

def missingModule {α : Type} (name : Text) (above : Text) : Run α := do
  let note : Text := if above.isEmpty then [] else "; '".toList ++ above ++
    "' is not a package".toList
  let place ← makeFault (.type "ModuleNotFoundError")
    [.text ("No module named '".toList ++ name ++ '\'' :: note)]
  plainlySet (.object place) "name" (.text name)
  raiseFault place

/-- The name of a part of the library that goes by another one, too. -/
def properName (name : Text) : Text :=
  match String.ofList name with
  | "os.path" | "ntpath" => "posixpath"
  | "_io" => "io"
  | "xml.etree.cElementTree" => "xml.etree.ElementTree"
  | _ => name

def loadOne (name above : Text) : Run Value := do
  let name := properName name
  match (← get).modules.get? name with
  | some module => return module
  | none =>
      match partOf? name with
      | some part => loadPart evaluator name part
      | none =>
          match ← moduleFile? name with
          | some (path, isAbove) => loadFile evaluator name path isAbove
          | none => missingModule name above

/-- A name with dots and those in front of it. -/
def dottedNames (name : Text) : List Text :=
  (name.splitOn '.').foldl (fun names part =>
    match names.getLast? with
    | none => [part]
    | some last => names ++ [last ++ '.' :: part]) []

/-- Whether there may be modules below one. -/
def isAboveOthers (module : Value) : Run Bool := do
  match module with
  | .object place =>
      match ← contentAt place with
      | .module name scope =>
          return (partOf? name).isSome || (← scopeAt scope).names.has "__path__"
      | _ => return false
  | _ => return false

/-- A module, before which those above it are taken in. -/
def loadModule (name : Text) : Run Value := do
  let mut last : Value := .none
  let mut above : Text := []
  for title in dottedNames name do
    let blocked := if !above.isEmpty && !(← isAboveOthers last) then above else []
    let module ← loadOne evaluator title blocked
    match last with
    | .object place =>
        match ← contentAt place with
        | .module _ scope => bindAt scope (lastPart title) module
        | _ => pure ()
    | _ => pure ()
    last := module
    above := title
  return last

/-- The full name of a module that is told from where the program is. -/
def absoluteName (name : Text) : Run Text := do
  let dots := name.takeWhile (· = '.')
  if dots.isEmpty then return name
  let scope ← scopeAt (← presentModule)
  match scope.names.get? "__package__" with
  | some (.text package) =>
      if package.isEmpty then
        fail "ImportError" "attempted relative import with no known parent package"
      let parts := package.splitOn '.'
      let kept := parts.take (parts.length + 1 - dots.length)
      let rest := name.drop dots.length
      return List.intercalate ['.'] (kept ++ (if rest.isEmpty then [] else [rest]))
  | _ => fail "ImportError" "attempted relative import with no known parent package"

def scopeOfModule? (module : Value) : Run (Option (Text × Nat)) := do
  match module with
  | .object place =>
      match ← contentAt place with
      | .module name scope => return some (name, scope)
      | _ => return none
  | _ => return none

/-- What a module has under a name, which may be another module. -/
def takeFrom (module : Value) (title name : Text) : Run Value := do
  match ← attribute? evaluator module name with
  | some value => return value
  | none =>
      let full := title ++ '.' :: name
      let isThere := (partOf? (properName full)).isSome || (← moduleFile? full).isSome
      if isThere then loadModule evaluator full
      else
        let file ← match ← scopeOfModule? module with
          | some (_, scope) => pure ((← scopeAt scope).names.get? "__file__")
          | none => pure none
        let place : Text := match file with
          | some (.text path) => path
          | _ => "unknown location"
        fail "ImportError" ("cannot import name '".toList ++ name ++ "' from '".toList ++ title ++
          "' (".toList ++ place ++ [')'])

/-- Takes all names of a module that are meant for others. -/
def takeAll (module : Value) : Run Unit := do
  match ← scopeOfModule? module with
  | none => pure ()
  | some (_, scope) =>
      let names := (← scopeAt scope).names
      let chosen ← match names.get? "__all__" with
        | some list => do pure ((← valuesOf evaluator list).filterMap Value.text?)
        | none => pure (names.keys.filter fun name => name.head? != some '_')
      for name in chosen do
        match names.get? name with
        | some value => assignName name value
        | none => pure ()

def takeModules (modules : List (Text × Option Text)) : Run Unit := do
  for (name, title?) in modules do
    let module ← loadModule evaluator name
    match title? with
    | some title => assignName title module
    | none =>
        let front := name.takeWhile (· != '.')
        assignName front (← loadModule evaluator front)

def takeNames (name : Text) (names : List (Text × Option Text)) : Run Unit := do
  let name ← absoluteName name
  let module ← loadModule evaluator name
  for (part, title?) in names do
    if part = "*" then takeAll evaluator module
    else assignName (title?.getD part) (← takeFrom evaluator module name part)

/-! Texts that are carried out where the program is. -/

/-- Does something with a table of names as those of the present module. -/
def withNames {α : Type} (table : Option Value) (action : Run α) : Run α := do
  match table with
  | some (.object place) =>
      match ← contentAt place with
      | .table _ | .names _ =>
          let scope ← newScope .module [] none
          for (name, value) in (← membersOf (.object place)).entries do bindAt scope name value
          let result ← withScope scope action
          for (name, value) in (← scopeAt scope).names.entries do
            putEntry evaluator place (.text name) value
          return result
      | .scope _ => withScope place action
      | _ => action
  | _ => action

/-- Carries out a text in the present scope. -/
def carryOutText (given : Given) (wantsValue : Bool) : Run Value := do
  let source ← given.first "exec"
  let text ← match ← coreOf source with
    | .octets octets => decodeOctets "utf-8" "strict" octets
    | source => textIn false source
  let text := if wantsValue then trimmed text else text
  let table := (given.some? 2 "locals").or (given.some? 1 "globals")
  withNames evaluator table do
    let program ← readProgram "<string>" text
    let scope ← presentScope
    withFrame ⟨"<module>", "<string>", 1, scope, none, none⟩ do
      match wantsValue, program.body with
      | true, [.evaluate _ term] => evaluator.value term
      | true, _ => fail "SyntaxError" "invalid syntax (<string>, line 1)"
      | false, statements =>
          let _ ← evaluator.perform [.block statements]
          return .none

/-- Calls a routine of the library, those that take further programs in among them. -/
def callFeature (name : Text) (given : Given) : Run Value := do
  match String.ofList name with
  | "eval" => carryOutText evaluator given true
  | "exec" => carryOutText evaluator given false
  | "compile" =>
      let source ← given.first name
      let text ← match ← coreOf source with
        | .octets octets => decodeOctets "utf-8" "strict" octets
        | source => textIn false source
      let path ← textIn false (given.get 1 "filename" (.text "<string>"))
      let _ ← readProgram path text
      return source
  | "__import__" =>
      let name ← textIn false (← given.first name)
      let module ← loadModule evaluator name
      if given.values.length < 4 then loadModule evaluator (name.takeWhile (· != '.'))
      else return module
  | "importlib.import_module" =>
      loadModule evaluator (← textIn false (← given.first name))
  | _ => callLibrary evaluator name given

end ShaderCost.Script.Indented
