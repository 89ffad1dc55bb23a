import ShaderCost.Files.Path
import ShaderCost.Text.Octets

/-!
A tree of files and directories, as far as the program can tell: what a path leads to, and why
it leads nowhere. A location is the list of names from the root. The root always exists.
-/

namespace ShaderCost

inductive FileError where
  | missing
  | denied
  | alreadyExists
  | notDirectory
  | isDirectory
  | nameTooLong
  | tooManyLinks
  | zeroInName
  | notText
  deriving DecidableEq

namespace FileError

/-- The wording and the number that the system has for an error. -/
def system? : FileError → Option (Text × Nat)
  | missing => some ("No such file or directory", 2)
  | denied => some ("Permission denied", 13)
  | alreadyExists => some ("File exists", 17)
  | notDirectory => some ("Not a directory", 20)
  | isDirectory => some ("Is a directory", 21)
  | nameTooLong => some ("File name too long", 36)
  | tooManyLinks => some ("Too many levels of symbolic links", 40)
  | zeroInName => none
  | notText => none

def message (error : FileError) : Text :=
  match error.system?, error with
  | some (wording, number), _ => wording ++ " (os error " ++ Nat.toDigits 10 number ++ ")"
  | none, zeroInName => "file name contained an unexpected NUL byte"
  | none, _ => "stream did not contain valid UTF-8"

end FileError

abbrev Location := List Text

/-- What there is at a location. -/
inductive Node where
  | file (content : Octets) (executable : Bool)
  | directory (entries : List (Text × Node))
  /-- A name for what another path leads to, if it leads anywhere. -/
  | link (path : Text)
  /-- A place that is always empty and forgets what is written to it. -/
  | null
  /-- The place where a process finds one of its own streams. -/
  | stream (number : Nat)
  /-- A program of the system. -/
  | program (name : Text)

abbrev Entries := List (Text × Node)

namespace Entries

/-- Puts a node under a name, or takes away what is there. -/
def put (entries : Entries) (name : Text) (node : Option Node) : Entries :=
  let others := entries.filter fun entry => entry.1 != name
  match node with
  | some node => (name, node) :: others
  | none => others

def at? (entries : Entries) : Location → Option Node
  | [] => some (.directory entries)
  | name :: rest =>
      match List.lookup name entries with
      | some (.directory inner) => at? inner rest
      | some node => if rest.isEmpty then some node else none
      | none => none

/-- Puts a node at a location, or takes away what is there. The directories on the way have to
exist. -/
def putAt (entries : Entries) (location : Location) (node : Option Node) : Entries :=
  match location with
  | [] => entries
  | [name] => entries.put name node
  | name :: rest =>
      match List.lookup name entries with
      | some (.directory inner) => entries.put name (some (.directory (putAt inner rest node)))
      | _ => entries

end Entries

structure FileTree where
  root : Entries
  /-- Where relative paths start. -/
  workingDirectory : Location

namespace FileTree

def node? (tree : FileTree) (location : Location) : Option Node := tree.root.at? location

def insert (tree : FileTree) (location : Location) (node : Node) : FileTree :=
  { tree with root := tree.root.putAt location (some node) }

def remove (tree : FileTree) (location : Location) : FileTree :=
  { tree with root := tree.root.putAt location none }

/-- The same tree with relative paths that start elsewhere. -/
def seenFrom (tree : FileTree) (location : Location) : FileTree :=
  { tree with workingDirectory := location }

def longestName : Nat := 255

def longestPath : Nat := 4095

/-- The names that a walk has gone down, the last one first, each with what is there. -/
abbrev Trail := List (Text × Option Node)

namespace Trail

def location (trail : Trail) : Location := (trail.map Prod.fst).reverse

/-- What there is at the end of a walk from a root. -/
def node? (root : Entries) : Trail → Option Node
  | [] => some (.directory root)
  | (_, node) :: _ => node

/-- One step of a walk: from a directory to one of its names. -/
def step (root : Entries) (trail : Trail) (name : Text) : Except FileError Trail :=
  match trail.node? root with
  | none => .error .missing
  | some (.directory entries) =>
      if name = "." then .ok trail
      else if name = ".." then .ok trail.tail
      else if longestName < (Text.toOctets name).size then .error .nameTooLong
      else .ok ((name, entries.lookup name) :: trail)
  | some _ => .error .notDirectory

/-- The path of the link that a walk ends at. -/
def link? (root : Entries) (trail : Trail) : Option Text :=
  match trail.node? root with
  | some (.link path) => some path
  | _ => none

/-- One step of a walk that goes on where links lead. -/
def enter (root : Entries) : (limit : Nat) → Trail → Text → Except FileError Trail
  | 0, _, _ => .error .tooManyLinks
  | limit + 1, trail, name => do
      let found ← step root trail name
      match found.link? root with
      | none => return found
      | some path =>
          (Path.names path).foldlM (enter root limit) (if Path.isAbsolute path then [] else trail)

end Trail

/-- How many links may lead to one another. -/
def longestChain : Nat := 40

/-- Goes along names from the end of a walk. -/
def walk (tree : FileTree) (trail : Trail) (names : List Text) : Except FileError Trail :=
  names.foldlM (Trail.enter tree.root longestChain) trail

/-- Where the walk along a path starts. -/
def startOf (tree : FileTree) (path : Text) : Except FileError Trail :=
  if path.isEmpty then .error .missing
  else if '\x00' ∈ path then .error .zeroInName
  else if longestPath < (Text.toOctets path).size then .error .nameTooLong
  else if Path.isAbsolute path then .ok []
  else tree.walk [] tree.workingDirectory

/-- The walk that a path describes. Everything on the way exists; its end may not. -/
def follow (tree : FileTree) (path : Text) : Except FileError Trail := do
  tree.walk (← tree.startOf path) (Path.names path)

/-- The walk that a path describes, up to a link at its end. -/
def followEntry (tree : FileTree) (path : Text) : Except FileError Trail := do
  let start ← tree.startOf path
  match (Path.names path).getLast? with
  | none => return start
  | some name =>
      if Text.endsWith "/" path then tree.walk start (Path.names path)
      else Trail.step tree.root (← tree.walk start (Path.names path).dropLast) name

/-- The location that a path leads to. -/
def locate (tree : FileTree) (path : Text) : Except FileError Location :=
  (tree.follow path).map Trail.location

/-- What a path leads to. A slash at the end asks for a directory. -/
def find (tree : FileTree) (path : Text) : Except FileError Node := do
  match (← tree.follow path).node? tree.root with
  | none => throw .missing
  | some (.directory entries) => return .directory entries
  | some node => if Text.endsWith "/" path then throw .notDirectory else return node

/-- What there is at a path itself, which may be a link. -/
def findEntry (tree : FileTree) (path : Text) : Except FileError Node := do
  match (← tree.followEntry path).node? tree.root with
  | some (.link target) => return .link target
  | _ => tree.find path

def isDirectory (tree : FileTree) (path : Text) : Bool :=
  match tree.find path with
  | .ok (.directory _) => true
  | _ => false

/-- Whether a path leads to a regular file. -/
def isFile (tree : FileTree) (path : Text) : Bool :=
  match tree.find path with
  | .ok (.file _ _) => true
  | .ok (.program _) => true
  | _ => false

def exists? (tree : FileTree) (path : Text) : Bool := (tree.find path).isOk

def readOctets (tree : FileTree) (path : Text) : Except FileError Octets := do
  match ← tree.find path with
  | .file content _ => return content
  | .directory _ => throw .isDirectory
  | .link _ | .null | .stream _ | .program _ => return ⟨#[]⟩

def readText (tree : FileTree) (path : Text) : Except FileError Text := do
  match Text.ofOctets? (← tree.readOctets path) with
  | some text => return text
  | none => throw .notText

/-- The content of a file, if the path leads to one. -/
def content? (tree : FileTree) (path : Text) : Option Octets := (tree.readOctets path).toOption

/-- Gives a file new content, creating it where it is missing; what may be executed stays so. -/
def writeOctets (tree : FileTree) (path : Text) (content : Octets) : Except FileError FileTree := do
  let trail ← tree.follow path
  if Text.endsWith "/" path then throw .isDirectory
  match trail.node? tree.root with
  | some (.directory _) => throw .isDirectory
  | some (.file _ executable) => return tree.insert trail.location (.file content executable)
  | some (.program _) => throw .denied
  | some .null | some (.stream _) | some (.link _) => return tree
  | none => return tree.insert trail.location (.file content false)

def writeText (tree : FileTree) (path text : Text) : Except FileError FileTree :=
  tree.writeOctets path (Text.toOctets text)

def makeDirectory (tree : FileTree) (path : Text) : Except FileError FileTree := do
  let trail ← tree.followEntry path
  match trail.node? tree.root with
  | some _ => throw .alreadyExists
  | none => return tree.insert trail.location (.directory [])

/-- Creates the first of the given directories, and those above it where they are missing. What
was created before an error stays. -/
def makeChain (tree : FileTree) : List Text → Except FileError Unit × FileTree
  | [] => (.error .missing, tree)
  | path :: above =>
      if path.isEmpty then (.ok (), tree)
      else
        match tree.makeDirectory path with
        | .ok made => (.ok (), made)
        | .error .missing =>
            match tree.makeChain above with
            | (.error error, made) => (.error error, made)
            | (.ok (), made) =>
                match made.makeDirectory path with
                | .ok deeper => (.ok (), deeper)
                | .error error => (if made.isDirectory path then .ok () else .error error, made)
        | .error error => (if tree.isDirectory path then .ok () else .error error, tree)

/-- Makes sure that a directory exists. -/
def makeDirectories (tree : FileTree) (path : Text) : Except FileError Unit × FileTree :=
  tree.makeChain (Path.withAncestors path.length path)

/-- Puts a file in place, with the directories above it; a path ending in a slash is an empty
directory. What cannot be put in place is left out. -/
def plant (tree : FileTree) (path : Text) (content : Octets) : FileTree :=
  if Text.endsWith "/" path then (tree.makeDirectories path).2
  else
    let made := match Path.parent? path with
      | some parent => (tree.makeDirectories parent).2
      | none => tree
    (made.writeOctets path content).toOption.getD made

/-- Lets a file be executed. -/
def allowExecution (tree : FileTree) (path : Text) : FileTree :=
  match tree.follow path with
  | .error _ => tree
  | .ok trail =>
      match trail.node? tree.root with
      | some (.file content _) => tree.insert trail.location (.file content true)
      | _ => tree

/-- The regular files below a directory, by their paths from there; `above` is what stands before
the names of its entries. -/
def filesBelow (above : Text) : Entries → List (Text × Octets)
  | [] => []
  | (name, .file content _) :: rest => (above ++ name, content) :: filesBelow above rest
  | (name, .directory entries) :: rest =>
      filesBelow (above ++ name ++ "/") entries ++ filesBelow above rest
  | (_, .link _) :: rest | (_, .null) :: rest | (_, .stream _) :: rest
  | (_, .program _) :: rest => filesBelow above rest

/-- The regular files below the working directory, by their relative paths. -/
def files (tree : FileTree) : List (Text × Octets) :=
  match tree.node? tree.workingDirectory with
  | some (.directory entries) => filesBelow [] entries
  | _ => []

/-- The tree as seen from the root. -/
def fromRoot (tree : FileTree) : FileTree := tree.seenFrom []

/-- The regular files that an earlier state of the tree does not have with this content. -/
def filesSince (tree earlier : FileTree) : List (Text × Octets) :=
  let before := earlier.files
  tree.files.filter fun (path, content) => before.lookup path != some content

end FileTree

/-- Work on a file tree that may fail. What was done before the failure stays done. -/
abbrev Filing (ε : Type) := ExceptT ε (StateM FileTree)

namespace Filing

/-- A change of the tree that names its own failure. -/
def change {ε : Type} (explain : FileError → ε)
    (action : FileTree → Except FileError FileTree) : Filing ε Unit := fun tree =>
  match action tree with
  | .ok changed => (.ok (), changed)
  | .error error => (.error (explain error), tree)

def makeDirectories {ε : Type} (explain : FileError → ε) (path : Text) : Filing ε Unit :=
  fun tree =>
    let (result, made) := tree.makeDirectories path
    (result.mapError explain, made)

def writeText {ε : Type} (explain : FileError → ε) (path text : Text) : Filing ε Unit :=
  change explain fun tree => tree.writeText path text

/-- A reading of the tree that names its own failure. -/
def look {ε α : Type} (explain : FileError → ε) (action : FileTree → Except FileError α) :
    Filing ε α := fun tree => ((action tree).mapError explain, tree)

end Filing

end ShaderCost
