import ShaderCost.Script.Builtin

/-!
Declarations of the extended language: commands that give variables values, lists and traits, that
make variables of a function, and that list what there is.
-/

namespace ShaderCost.Script.Declaration

/-- Complains of a name that names no variable. -/
def complainOfName (title : Text) : Step Unit :=
  complain ('\x60' :: title ++ "': not a valid identifier".toList)

/-- A text that an expansion made, as what it gives to a variable. -/
def givenOf? (text : Text) : Option Expansion.Given := do
  let (front, value) ← Text.splitAt? '=' text
  let (front, appends) : Text × Bool :=
    if front.getLast? = some '+' then (front.dropLast, true) else (front, false)
  let name := front.takeWhile fun c => c != '['
  let subscript := front.drop name.length
  if subscript.isEmpty then some (.value name none appends value)
  else if subscript.getLast? = some ']' then
    some (.value name (some (subscript.drop 1).dropLast) appends value)
  else none

/-- Gives a list to a variable, element by element. -/
def giveList (name : Text) (appends : Bool) (elements : List Expansion.Element) : Step Unit := do
  let shell ← get
  let binding := (shell.binding? (shell.resolve name)).getD .bare
  let isKeyed := binding.list.any Listing.isKeyed
  let start : Listing := match appends, binding.list, binding.value with
    | true, some list, _ => list
    | true, none, some value => .ofTexts [value]
    | _, _, _ => if isKeyed then .keyed [] else .empty
  let shape (text : Text) : Step Text := Reckoning.shaped Reckoning.evaluate binding text
  if isKeyed then
    if elements.all fun element => element.subscript.isNone then
      let rec pairs : List Expansion.Element → Listing → Listing
        | key :: value :: rest, list => pairs rest (list.setKeyed key.text value.text)
        | [key], list => list.setKeyed key.text []
        | [], list => list
      assignList name (pairs elements start)
    else
      let mut list := start
      for element in elements do
        match element.subscript with
        | some key =>
            let before := if element.appends then (list.keyedAt? key).getD [] else []
            list := list.setKeyed key (before ++ (← shape element.text))
        | none =>
            complain (name ++ ": ".toList ++ element.text ++
              ": must use subscript when assigning associative array".toList)
      assignList name list
  else if !appends && elements.all fun element => element.subscript.isNone then
    let texts ← elements.mapM fun element => shape element.text
    assignList name (.ofTexts texts)
  else
    let mut list := start
    let mut place := list.next
    for element in elements do
      match element.subscript with
      | some subscript =>
          match list.place? (← Reckoning.evaluate subscript).toInt with
          | some found => place := found
          | none => fail (name ++ '[' :: subscript ++ "]: bad array subscript".toList)
      | none => pure ()
      let before := if element.appends then (list.numberedAt? place).getD [] else []
      list := list.setNumbered place (before ++ (← shape element.text))
      place := place + 1
    assignList name list

/-- Carries out an assignment. -/
def give : Expansion.Given → Step Unit
  | .value name none appends text => Reckoning.setValue Reckoning.evaluate name text appends
  | .value name (some subscript) appends text =>
      Reckoning.setElement Reckoning.evaluate name subscript text appends
  | .list name appends elements => giveList name appends elements

def nameOf : Expansion.Given → Text
  | .value name _ _ _ => name
  | .list name _ _ => name

/-- How an assignment is written. -/
def written : Expansion.Given → Text
  | .value name subscript appends text =>
      let place : Text := match subscript with
        | some subscript => '[' :: subscript ++ [']']
        | none => []
      name ++ place ++ (if appends then "+=" else "=") ++ text
  | .list name appends elements =>
      let shown := elements.map fun element => element.text
      name ++ (if appends then "+=(" else "=(") ++ Format.joinWords shown ++ [')']

/-- What a declaration is about. -/
inductive Argument where
  | name (text : Text)
  | given (given : Expansion.Given)

/-- The arguments of a declaration. -/
def argumentsOf (capture : Command → Step Text) : List Word → Step (List Argument)
  | [] => return []
  | word :: words => do
      let found : List Argument ← do
        if isAssignment word then
          match ← Expansion.given? capture word with
          | some given => pure [.given given]
          | none => pure []
        else
          let fields ← Expansion.fields capture word
          pure (fields.map fun field => match givenOf? field with
            | some given => .given given
            | none => .name field)
      return found ++ (← argumentsOf capture words)

/-- The letters that the options at the front switch on and off, and what is left. -/
def splitOptions : List Argument → Text × Text × List Argument
  | .name ['-', '-'] :: rest => ([], [], rest)
  | .name ('-' :: letter :: letters) :: rest =>
      let (on, off, rest) := splitOptions rest
      (letter :: letters ++ on, off, rest)
  | .name ('+' :: letter :: letters) :: rest =>
      let (on, off, rest) := splitOptions rest
      (on, letter :: letters ++ off, rest)
  | arguments => ([], [], arguments)

/-- A variable as a declaration that makes it. -/
def shownBinding (name : Text) (binding : Binding) : Text :=
  let letters := Expansion.traitLetters binding
  let value : Text := match binding.list, binding.value with
    | some list, _ => '=' :: Expansion.shownList list
    | none, some value => '=' :: Forms.doubleQuoted value
    | none, none => []
  "declare -".toList ++ (if letters.isEmpty then ['-'] else letters) ++ ' ' :: name ++ value

/-- Shows variables with some traits, in the order of their names; where `isLocal` is set, only
those of the function that is under way. -/
def listAll (letters : Text) (isLocal : Bool) : Step Unit := do
  let shell ← get
  let found := shell.bindings.filter fun (name, binding) =>
    (!isLocal || (shell.hidden.any fun entry => entry.1 = name)) &&
      letters.all fun letter => (Expansion.traitLetters binding).elem letter
  for (name, binding) in found.mergeSort fun left right => Text.atMost left.1 right.1 do
    Builtin.printLine (shownBinding name binding)

/-- Shows variables and their values, as assignments. -/
def listValues : Step Unit := do
  let shell ← get
  for (name, binding) in shell.bindings.mergeSort fun left right => Text.atMost left.1 right.1 do
    match binding.list, binding.value with
    | some list, _ => Builtin.printLine (name ++ '=' :: Expansion.shownList list)
    | none, some value => Builtin.printLine (name ++ '=' :: Forms.listed value)
    | none, none => pure ()

/-- A variable with traits switched on and off. -/
def marked (on off : Text) (binding : Binding) : Binding :=
  let list : Option Listing :=
    if on.elem 'A' then some (binding.list.getD (.keyed []))
    else if on.elem 'a' then
      some (binding.list.getD (match binding.value with
        | some value => .ofTexts [value]
        | none => .empty))
    else binding.list
  let kept := binding.traits.filter fun letter =>
    !off.elem letter && !(on.elem 'l' && letter = 'u') && !(on.elem 'u' && letter = 'l')
  let added := on.filter fun letter => "ilun".toList.elem letter && !kept.elem letter
  { binding with
    list, traits := added ++ kept
    isExported := (binding.isExported || on.elem 'x') && !off.elem 'x' }

/-- Makes a variable one of the function that is under way, unless it is one already. -/
def makeLocal (name : Text) : Step Unit := do
  let shell ← get
  if !shell.hidden.any fun entry => entry.1 = name then
    hide name
    modify fun shell => shell.setBinding name (some .bare)

/-- Declares one variable. -/
def declare (on off : Text) (isLocal : Bool) (argument : Argument) : Step Nat := do
  let name := match argument with
    | .name text => text.takeWhile fun c => c != '['
    | .given given => nameOf given
  if !isName name then
    complainOfName (match argument with
      | .name text => text
      | .given given => written given)
    return 1
  if isLocal then makeLocal name
  let shell ← get
  let target := if on.elem 'n' then name else shell.resolve name
  let before := shell.binding? target
  if before.any Binding.isReadonly && (match argument with
      | .given _ => true
      | .name _ => off.elem 'r') then
    let command := (← get).command
    if !isLocal && (on.elem 'x' || on.elem 'r') then
      modify fun shell => { shell with command := none }
      if on.elem 'x' then
        modify fun shell => shell.setBinding target (before.map (marked on off))
    complain (name ++ ": readonly variable".toList)
    modify fun shell => { shell with command }
    return 1
  modify fun shell => shell.setBinding target (some (marked on off (before.getD .bare)))
  match argument, on.elem 'n' with
  | .given (.value _ _ _ text), true =>
      modify fun shell => shell.setBinding name
        (((shell.binding? name)).map fun binding => { binding with value := some text })
  | .given given, _ => give given
  | .name _, _ => pure ()
  if on.elem 'r' then
    modify fun shell => shell.setBinding target
      ((shell.binding? target).map fun binding => { binding with isReadonly := true })
  return 0

/-- Shows the variables that are named. -/
def showNamed (arguments : List Argument) : Step Nat := do
  let mut status := 0
  for argument in arguments do
    let name := match argument with
      | .name text => text
      | .given given => nameOf given
    match (← get).binding? name with
    | some binding => Builtin.printLine (shownBinding name binding)
    | none =>
        complain (name ++ ": not found".toList)
        status := 1
  return status

/-- Shows which functions there are. -/
def showFunctions (arguments : List Argument) (isNameOnly : Bool) : Step Nat := do
  let functions := (← get).functions
  match arguments with
  | [] =>
      for (name, _) in functions.mergeSort fun left right => Text.atMost left.1 right.1 do
        if isNameOnly then Builtin.printLine ("declare -f ".toList ++ name)
      return 0
  | arguments =>
      let mut status := 0
      for argument in arguments do
        match argument with
        | .name name =>
            if (functions.lookup name).isNone then status := 1
            else if isNameOnly then Builtin.printLine name
        | .given _ => status := 1
      return status

/-- How the commands that declare are used. -/
def usages : List (Text × Text) := [
  ("declare", "[-aAfFgiIlnrtux] [name[=value] ...] or declare -p [-aAfFilnrtux] [name ...]"),
  ("typeset", "[-aAfFgiIlnrtux] name[=value] ... or typeset -p [-aAfFilnrtux] [name ...]"),
  ("local", "[option] name[=value] ..."),
  ("export", "[-fn] [name[=value] ...] or export -p"),
  ("readonly", "[-aAf] [name[=value] ...] or readonly -p")]

/-- Commands that declare variables. -/
def names : List Text := usages.map Prod.fst

def known (command : Text) : Text :=
  if command = "export" then "fnp" else if command = "readonly" then "aAfp"
  else "aAfFgiIlnprtux"

/-- Carries out a declaration. -/
def perform (command : Text) (arguments : List Argument) : Step Nat := do
  let (on, off, rest) := splitOptions arguments
  match (on ++ off).find? fun letter => !(known command).elem letter with
  | some letter =>
      complain ("-".toList ++ letter :: ": invalid option".toList)
      report (command ++ ": usage: ".toList ++ command ++ ' ' ::
        ((usages.lookup command).getD []))
      return 2
  | none =>
      let shell ← get
      if command = "local" && shell.calls = 0 then
        complain "can only be used in a function"
        return 1
      if on.elem 'f' || on.elem 'F' then
        if command = "export" || command = "readonly" then return 0
        else showFunctions rest (on.elem 'F')
      else if command = "export" then
        if rest.isEmpty then
          listAll "x" false
          return 0
        else if on.elem 'n' then declareAll [] ['x'] false rest
        else declareAll ['x'] [] false rest
      else if command = "readonly" then
        if rest.isEmpty then
          listAll "r" false
          return 0
        else declareAll ('r' :: on.filter fun letter => letter != 'p') [] false rest
      else if on.elem 'p' then
        if rest.isEmpty then
          listAll (on.filter fun letter => letter != 'p') (command = "local")
          return 0
        else showNamed rest
      else if rest.isEmpty then
        if on.isEmpty && off.isEmpty && command != "local" then listValues
        else listAll (on.filter fun letter => letter != 'g') (command = "local")
        return 0
      else
        let isLocal := command = "local" || (shell.calls != 0 && !on.elem 'g')
        declareAll on off isLocal rest
where
  declareAll (on off : Text) (isLocal : Bool) : List Argument → Step Nat
    | [] => return 0
    | argument :: rest => do
        let status ← declare on off isLocal argument
        let later ← declareAll on off isLocal rest
        return max status later

end ShaderCost.Script.Declaration
