import ShaderCost.Text.Basic
import ShaderCost.Text.Character

/-!
Paths and file stems as texts. A path is names divided by slashes, absolute when a slash comes
first. Joining and taking apart looks at the text alone and never at what a path leads to. Stems
that are safe on every file system are made from arbitrary names.
-/

namespace ShaderCost.Path

def isAbsolute (path : Text) : Bool := path.head? == some '/'

/-- A path below a directory; an absolute path stands for itself. -/
def join (directory path : Text) : Text :=
  if isAbsolute path || directory.isEmpty then path
  else if Text.endsWith "/" directory then directory ++ path
  else directory ++ "/" ++ path

/-- The names that a path goes through, empty ones left out. -/
def names (path : Text) : List Text := (path.splitOn '/').filter fun name => !name.isEmpty

/-- A reversed path without the slashes and single dots at its end. -/
def dropEnd : Text → Text
  | [] => []
  | ['/'] => ['/']
  | '/' :: rest => dropEnd rest
  | '.' :: '/' :: rest => dropEnd ('/' :: rest)
  | path => path

/-- The path without its last name, when it has one. -/
def parent? (path : Text) : Option Text :=
  let trimmed := dropEnd path.reverse
  if trimmed.isEmpty || trimmed == ['/'] then none
  else some (dropEnd (trimmed.dropWhile (· != '/'))).reverse

/-- A path and the directories above it, the nearest first. -/
def withAncestors : (limit : Nat) → Text → List Text
  | 0, path => [path]
  | limit + 1, path =>
      match parent? path with
      | none => [path]
      | some above => path :: withAncestors limit above

/-- The last name of a path, unless the path ends in `..`. -/
def fileName? (path : Text) : Option Text :=
  let name := ((dropEnd path.reverse).takeWhile (· != '/')).reverse
  if name.isEmpty || name = "." || name = ".." then none else some name

/-- A path with an extension added to its last name, when it has one. -/
def withExtension? (extension path : Text) : Option Text :=
  (fileName? path).map fun _ => (dropEnd path.reverse).reverse ++ '.' :: extension

/-- The last name without its extension; a dot in front starts no extension. -/
def fileStem? (path : Text) : Option Text :=
  (fileName? path).map fun name =>
    match Text.splitAt? '.' name.reverse with
    | some (_, []) => name
    | some (_, stem) => stem.reverse
    | none => name

end ShaderCost.Path

namespace ShaderCost

/-- Characters that a stem keeps as they are. -/
def isStemChar (c : Char) : Bool := c.isAlphanum || c == '-' || c == '.'

def isStemEdge (c : Char) : Bool := c == '_' || c == '.'

/-- Replaces every run of other characters by one underscore; `afterUnderscore` tells whether the
character before the text became one. -/
def joinUnsafe : (afterUnderscore : Bool) → Text → Text
  | _, [] => []
  | afterUnderscore, c :: rest =>
      if isStemChar c then c :: joinUnsafe false rest
      else if afterUnderscore then joinUnsafe true rest
      else '_' :: joinUnsafe true rest

/-- The stem of a name, with no underscore or dot at either end; `shader` when nothing is left. -/
def safeStem (name : Text) : Text :=
  let joined := joinUnsafe false (Text.trim name)
  let inner := joined.dropWhile isStemEdge
  let stem := (inner.reverse.dropWhile isStemEdge).reverse
  if stem.isEmpty then "shader" else stem

end ShaderCost
