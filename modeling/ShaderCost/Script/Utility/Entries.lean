import ShaderCost.Script.Utility.Values

/-!
Utilities on files and directories: making, removing, copying, moving and listing them.
-/

namespace ShaderCost.Script.Utility

/-- Changes the files by a step that may fail. -/
def change (action : FileTree → Except FileError FileTree) : Step (Option FileError) := do
  let shell ← get
  match action shell.tree with
  | .ok tree =>
      set (shell.setTree tree)
      return none
  | .error error => return some error

/-- Carries out work for each operand. The status is one if any of them fails. -/
def forOperands (call : Call) (work : (operand : Text) → Step Bool) : Step Nat := do
  let mut status := 0
  for operand in call.operands do
    if !(← work operand) then status := 1
  return status

/-- Complains that something cannot be done to a path, and gives `false`. -/
def complainOf (name action path : Text) (error : FileError) : Step Bool := do
  complain name (action ++ ' ' :: nameInQuotes path ++ ": ".toList ++ wording error)
  return false

def mkdir : Utility := withOperands ⟨"pv", "m", [("parents", 'p'), ("verbose", 'v')], 1⟩
    fun name call => forOperands call fun path => do
  let shown := shownText path
  let failure ←
    if call.has 'p' then do
      let shell ← get
      let (result, tree) := shell.tree.makeDirectories shown
      set (shell.setTree tree)
      pure (match result with
        | .ok _ => none
        | .error error => some error)
    else change fun tree => tree.makeDirectory shown
  match failure with
  | some error => complainOf name "cannot create directory" path error
  | none =>
      if call.has 'v' then print (name ++ ": created directory " ++ nameInQuotes path ++ ['\n'])
      return true

/-- Takes away what there is at a path. -/
def removeAt (path : Text) : Step Unit := do
  let _ ← change fun tree => do
    return tree.remove (← tree.followEntry (shownText path)).location

def rmdir : Utility := withOperands ⟨"pv", [], [("parents", 'p')], 1⟩ fun name call =>
  forOperands call fun path => do
    match (← get).tree.find (shownText path) with
    | .error error => complainOf name "failed to remove" path error
    | .ok (.directory []) =>
        removeAt path
        return true
    | .ok (.directory _) =>
        complain name ("failed to remove " ++ nameInQuotes path ++ ": Directory not empty")
        return false
    | .ok _ => complainOf name "failed to remove" path .notDirectory

def rm : Utility := withCall ⟨"rRfdiv", [], [("recursive", 'r'), ("force", 'f'),
    ("verbose", 'v'), ("dir", 'd')], 1⟩
    fun name call => do
  if call.operands.isEmpty && !call.has 'f' then refuse name "missing operand" 1
  else forOperands call fun path => do
    let entry := lastName [] path
    match (← get).tree.findEntry (shownText path) with
    | .error error =>
        if call.has 'f' && (error = .missing || error = .notDirectory) then return true
        else complainOf name "cannot remove" path error
    | .ok (.directory entries) =>
        if entry = "." || entry = ".." then
          complain name ("refusing to remove '.' or '..' directory: skipping " ++
            nameInQuotes path)
          return false
        else if call.has 'r' || call.has 'R' || (call.has 'd' && entries.isEmpty) then
          if call.has 'v' then
            print (below path entries ++ "removed directory ".toList ++ nameInQuotes path ++ ['\n'])
          removeAt path
          return true
        else if call.has 'd' then
          complain name ("cannot remove ".toList ++ nameInQuotes path ++
            ": Directory not empty".toList)
          return false
        else complainOf name "cannot remove" path .isDirectory
    | .ok _ =>
        if call.has 'v' then print ("removed ".toList ++ nameInQuotes path ++ ['\n'])
        removeAt path
        return true
where
  /-- What is said of all that is taken away below a directory. -/
  below (path : Text) : Entries → Text
    | [] => []
    | (name, .directory entries) :: rest =>
        let path' := path ++ '/' :: spreadText name
        below path' entries ++ "removed directory ".toList ++ nameInQuotes path' ++
          '\n' :: below path rest
    | (name, _) :: rest =>
        "removed ".toList ++ nameInQuotes (path ++ '/' :: spreadText name) ++
          '\n' :: below path rest

def touch : Utility := withCall ⟨"camh", "drt", [("no-create", 'c')], 1⟩ fun name call => do
  if call.operands.isEmpty then refuse name "missing file operand" 1
  else forOperands call fun path => do
    let tree := (← get).tree
    match tree.follow (shownText path) with
    | .error error => complainOf name "cannot touch" path error
    | .ok trail =>
        if (trail.node? tree.root).isSome || call.has 'c' then return true
        else match ← change fun tree => tree.writeOctets (shownText path) ⟨#[]⟩ with
          | none => return true
          | some error => complainOf name "cannot touch" path error

/-- Makes a file or a directory with a new name. -/
def mktemp : Utility := withCall ⟨"dqu", "pt", [("directory", 'd')], 1⟩ fun name call => do
  let number := (← get).machine.next
  modify fun shell => { shell with machine := { shell.machine with next := number + 1 } }
  let digits := Text.ofNat number
  let mark : Text := List.replicate (10 - digits.length) 'x' ++ digits
  let path : Text := match call.operands with
    | template :: _ => (template.reverse.dropWhile (· == 'X')).reverse ++ mark
    | [] => "/tmp/tmp.".toList ++ mark
  let shown := shownText path
  let failure ← change fun tree =>
    if call.has 'd' then tree.makeDirectory shown else tree.writeOctets shown ⟨#[]⟩
  match failure with
  | none =>
      print (path ++ ['\n'])
      return 0
  | some error =>
      let what : Text := if call.has 'd' then "directory" else "file"
      return if ← complainOf name ("failed to create " ++ what ++ " via template") path error
        then 0 else 1

/-! Copying and moving. -/

/-- Where something goes: into a directory under its own name, or to the path itself. -/
def targetOf (tree : FileTree) (source target : Text) : Text :=
  if tree.isDirectory (shownText target) then
    (if target.getLast? = some '/' then target else target ++ ['/']) ++ lastName [] source
  else target

/-- Puts what is at one path at another one. A file that is there keeps its mode. -/
def putAt (isMove : Bool) (target : Text) (node : Node) : Step (Option FileError) :=
  change fun tree => do
    let trail ← if isMove then tree.followEntry (shownText target)
      else tree.follow (shownText target)
    match node, trail.node? tree.root with
    | .file content _, some (.file _ executable) =>
        return tree.insert trail.location (if isMove then node else .file content executable)
    | .file _ _, none =>
        if Text.endsWith "/" target then throw .notDirectory
        else return tree.insert trail.location node
    | .program _, some (.file _ executable) =>
        return tree.insert trail.location (.file ⟨#[]⟩ executable)
    | .link path, _ =>
        return tree.insert (← tree.followEntry (shownText target)).location (.link path)
    | _, none => return tree.insert trail.location node
    | _, some .null => return tree
    | _, some (.link _) => return tree.insert trail.location node
    | _, some (.directory []) => return tree.insert trail.location node
    | _, some _ => throw .alreadyExists

/-- Copies or moves one source to a target. -/
def transfer (isMove : Bool) (name : Text) (call : Call) (source target : Text) : Step Bool := do
  let tree := (← get).tree
  let target := targetOf tree source target
  let isSame : Bool := match tree.locate (shownText source), tree.locate (shownText target) with
    | .ok left, .ok right => left == right
    | _, _ => false
  let keepsLinks := isMove || ['R', 'r', 'a', 'd', 'P'].any call.has
  match if keepsLinks then tree.findEntry (shownText source) else tree.find (shownText source) with
  | .error error => complainOf name "cannot stat" source error
  | .ok node =>
      let isDirectory := match node with
        | .directory _ => true
        | _ => false
      let copiesTrees := call.has 'r' || call.has 'R' || call.has 'a'
      if isDirectory && !isMove && !copiesTrees then
        complain name ("-r not specified; omitting directory " ++ nameInQuotes source)
        return false
      else if isSame then
        complain name (nameInQuotes source ++ " and ".toList ++ nameInQuotes target ++
          " are the same file".toList)
        return false
      else if isDirectory && tree.isFile (shownText target) then
        complain name ("cannot overwrite non-directory " ++ nameInQuotes target ++
          " with directory " ++ nameInQuotes source)
        return false
      else if call.has 'n' && tree.exists? (shownText target) then return true
      else match ← putAt isMove target node with
        | none =>
            if isMove then removeAt source
            if call.has 'v' then
              let verb : Text := if isMove then "renamed " else []
              print (verb ++ nameInQuotes source ++ " -> ".toList ++ nameInQuotes target ++ ['\n'])
            return true
        | some error =>
            if isMove then
              complain name ("cannot move " ++ nameInQuotes source ++ " to " ++
                nameInQuotes target ++ ": ".toList ++ wording error)
              return false
            else
              let what : Text := if isDirectory then "directory" else "regular file"
              complainOf name ("cannot create " ++ what) target error

/-- Copies or moves sources to the last operand, or into a directory. -/
def transferAll (isMove : Bool) (name : Text) (call : Call) : Step Nat := do
  let (sources, target) : List Text × Option Text := match call.value? 't' with
    | some directory => (call.operands, some directory)
    | none => (call.operands.dropLast, call.operands.getLast?)
  match sources, target with
  | [], some source =>
      refuse name ("missing destination file operand after " ++ nameInQuotes source) 1
  | _, none => refuse name "missing file operand" 1
  | [source], some target => return if ← transfer isMove name call source target then 0 else 1
  | sources, some target =>
      let tree := (← get).tree
      if !tree.isDirectory (shownText target) then
        let isThere := tree.exists? (shownText target)
        let problem : FileError := if isThere then .notDirectory else .missing
        complain name ("target " ++ nameInQuotes target ++ ": ".toList ++ wording problem)
        return 1
      else
        let mut status := 0
        for source in sources do
          if !(← transfer isMove name call source target) then status := 1
        return status

def transferOptions : Options :=
  ⟨"rRafinpvuTLPdH", "tS", [("recursive", 'r'), ("force", 'f'), ("archive", 'a'),
    ("verbose", 'v'), ("no-clobber", 'n'), ("target-directory", 't'),
    ("no-target-directory", 'T'), ("preserve", 'p'), ("update", 'u')], 1⟩

def cp : Utility := withCall transferOptions (transferAll false)

def mv : Utility := withCall transferOptions (transferAll true)

/-- Gives a file another name, by a link or, without one, for what it is now: such names do not
stay in step. -/
def addName (isSymbolic : Bool) (name : Text) (call : Call) (source target : Text) :
    Step Bool := do
  let tree := (← get).tree
  let target := if call.has 'n' || call.has 'T' then target else targetOf tree source target
  let kind : Text := if isSymbolic then "symbolic" else "hard"
  let node := if isSymbolic then .ok (.link (shownText source))
    else tree.findEntry (shownText source)
  match node with
  | .error error => complainOf name "failed to access" source error
  | .ok (.directory _) =>
      complain name (source ++ ": hard link not allowed for directory")
      return false
  | .ok node =>
      match tree.followEntry (shownText target) with
      | .error error => complainOf name ("failed to create " ++ kind ++ " link") target error
      | .ok trail =>
          if (trail.node? tree.root).isSome && !call.has 'f' then
            complainOf name ("failed to create " ++ kind ++ " link") target .alreadyExists
          else
            let _ ← change fun tree => return tree.insert trail.location node
            if call.has 'v' then
              let arrow : Text := if isSymbolic then " -> " else " => "
              print (nameInQuotes target ++ arrow ++ nameInQuotes source ++ ['\n'])
            return true

def ln : Utility := withCall
    ⟨"sfnvrLPT", "tS", [("symbolic", 's'), ("force", 'f'), ("no-dereference", 'n'),
      ("verbose", 'v')], 1⟩ fun name call => do
  let add := addName (call.has 's') name call
  match call.operands with
  | [] => refuse name "missing file operand" 1
  | [source] => return if ← add source "." then 0 else 1
  | [source, target] => return if ← add source target then 0 else 1
  | operands =>
      let target := operands.getLast?.getD []
      if !(← get).tree.isDirectory (shownText target) then
        complain name ("target " ++ nameInQuotes target ++ ": Not a directory".toList)
        return 1
      else forOperands { call with operands := operands.dropLast } fun source =>
        add source target

/-! Listing. -/

/-- The names in a directory in order. -/
def shownNames (call : Call) (entries : Entries) : List Text :=
  let names := entries.map fun entry => spreadText entry.1
  let names := if call.has 'a' then ".".toList :: "..".toList :: names
    else if call.has 'A' then names
    else names.filter fun name => name.head? != some '.'
  let sorted := names.mergeSort Text.atMost
  if call.has 'r' then sorted.reverse else sorted

/-- A name with a mark for its kind, where that is wanted. -/
def marked (call : Call) (tree : FileTree) (path name : Text) : Text :=
  if !(call.has 'F' || call.has 'p') then name
  else if Condition.isLink tree path then if call.has 'F' then name ++ ['@'] else name
  else if tree.isDirectory (shownText path) then name ++ ['/']
  else if call.has 'F' && SearchPath.isExecutable tree path then name ++ ['*']
  else name

/-- A directory and all that are in it, each with its path. -/
def directoriesBelow (tree : FileTree) (call : Call) : (fuel : Nat) → (path : Text) →
    List (Text × Entries)
  | 0, _ => []
  | fuel + 1, path =>
      match tree.find (shownText path) with
      | .ok (.directory entries) =>
          let inner := (shownNames call entries).filter fun (name : Text) =>
            name != "." && name != ".." && match List.lookup (shownText name) entries with
              | some (.directory _) => true
              | _ => false
          (path, entries) :: inner.flatMap fun name => directoriesBelow tree call fuel
            (if path.getLast? = some '/' then path ++ name else path ++ '/' :: name)
      | _ => []

/-- Lists names, one on a line. -/
def ls : Utility := withCall ⟨"aAlh1drRFpiqstSuUxC", [], [("all", 'a'), ("almost-all", 'A'),
    ("recursive", 'R'), ("directory", 'd'), ("reverse", 'r'), ("classify", 'F')], 2⟩
    fun name call => do
  let tree := (← get).tree
  let mut status := 0
  let mut others : List Text := []
  let mut directories : List (Text × Entries) := []
  for path in if call.operands.isEmpty then [".".toList] else call.operands do
    let node := (tree.find (shownText path)).orElseLazy fun _ => tree.findEntry (shownText path)
    match node with
    | .error error =>
        complain name ("cannot access " ++ nameInQuotes path ++ ": ".toList ++ wording error)
        status := 2
    | .ok (.directory entries) =>
        if call.has 'd' then others := path :: others
        else directories := (path, entries) :: directories
    | .ok _ => others := path :: others
  let inOrder (left right : Text) := if call.has 'r' then Text.atMost right left
    else Text.atMost left right
  let files := others.mergeSort inOrder
  let sorted := directories.mergeSort fun left right => inOrder left.1 right.1
  let isDeep := call.has 'R'
  let sorted := if isDeep then sorted.flatMap fun (path, _) =>
    directoriesBelow tree call 2048 path else sorted
  let parts := sorted.map fun (path, entries) =>
    let title : Text := if isDeep || 1 < call.operands.length then path ++ ":\n".toList else []
    title ++ joinLines ((shownNames call entries).map fun entry =>
      marked call tree (path ++ '/' :: entry) entry)
  let front := joinLines (files.map fun path => marked call tree path path)
  let parts := if files.isEmpty then parts else front :: parts
  print (List.intercalate ['\n'] parts)
  return status

/-- Whether a file may be executed once its mode was changed. -/
def changedMode? (mode : Text) (executable : Bool) : Option Bool :=
  if !mode.isEmpty && mode.all isOctalDigit then
    some (((digitsIn 8 mode) &&& 73) != 0)
  else
    (mode.splitOn ',').foldlM (fun executable clause =>
      let who := clause.takeWhile fun c => "ugoa".toList.elem c
      let touchesOwner := who.isEmpty || 'u' ∈ who || 'a' ∈ who
      match clause.drop who.length with
      | sign :: letters =>
          if !letters.all fun c => "rwxXst".toList.elem c then none
          else if sign = '+' then some (executable || 'x' ∈ letters)
          else if sign = '-' then some (executable && !('x' ∈ letters && touchesOwner))
          else if sign = '=' then
            some (if 'x' ∈ letters then true else executable && !touchesOwner)
          else none
      | [] => none) executable

def chmod : Utility := fun name arguments => do
  let isOption (argument : Text) : Bool :=
    ["-R".toList, "-v".toList, "-f".toList, "-c".toList, "--".toList].elem argument
  match arguments.dropWhile isOption with
  | [] => refuse name "missing operand" 1
  | [mode] => refuse name ("missing operand after " ++ nameInQuotes mode) 1
  | mode :: paths =>
      if (changedMode? mode false).isNone then
        refuse name ("invalid mode: " ++ nameInQuotes mode) 1
      else
        let mut status := 0
        for path in paths do
          let tree := (← get).tree
          match tree.follow (shownText path), tree.find (shownText path) with
          | .ok trail, .ok (.file content executable) =>
              let executable := (changedMode? mode executable).getD executable
              let _ ← change fun tree =>
                return tree.insert trail.location (.file content executable)
          | _, .ok _ => pure ()
          | _, .error error =>
              complain name ("cannot access " ++ nameInQuotes path ++ ": ".toList ++
                wording error)
              status := 1
        return status

end ShaderCost.Script.Utility
