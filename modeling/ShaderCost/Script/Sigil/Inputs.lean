import ShaderCost.Script.Sigil.Features

/-!
Reading the files that the arguments name one after the other, printing, and names of files that
patterns stand for.
-/

namespace ShaderCost.Script.Sigil

variable (evaluator : Evaluator)

/-! Files that the arguments name. -/

/-- Ends writing what takes the place of a file. -/
def endRewriting : Run Unit := do
  if (← get).rewrites.isSome then
    let place ← handleNamed "ARGVOUT"
    if (← get).selected = place then
      let _ ← closeHandle evaluator.host place
      modify fun state => { state with selected := placeOfOutput }

/-- Begins to write what takes the place of a file, which has been read. -/
def beginRewriting (place : Nat) (path suffix : Text) : Run Unit := do
  let handle := ((← handleAt? place).getD default)
  match handle.way with
  | .stream stream =>
      let stream ← stream.fill
      setHandle place { handle with way := .stream stream }
      let outgoing ← handleNamed "ARGVOUT"
      if !suffix.isEmpty then
        let copy ← handleNamed "ARGVCOPY"
        if ← Feature.openFile evaluator copy ⟨.replacing, false, true⟩ (path ++ suffix) then
          let _ ← putOut copy stream.ahead
          let _ ← closeHandle evaluator.host copy
      if ← Feature.openFile evaluator outgoing ⟨.replacing, false, true⟩ path then
        modify fun state => { state with selected := outgoing }
  | _ => pure ()

/-- Goes to the next file that the arguments name. The result tells whether there was an
argument. -/
def nextArgument (place : Nat) : Run Bool := do
  let paths ← listAt placeOfArguments
  match paths[0]? with
  | none => return false
  | some first =>
      setContent placeOfArguments (.list (paths.extract 1 paths.size))
      let path ← textOf (← scalarAt first)
      setScalar (← sharedPlace .scalar "main::ARGV") (.text path)
      let lines := ((← handleAt? place).map Handle.lines).getD 0
      let isOpen ←
        if path = "-" then do
          Feature.lead place (.stream (.ofNumber 0 Stream.usualMost)) true false
          pure true
        else Feature.openFile evaluator place ⟨.reading, true, false⟩ path
      match ← handleAt? place with
      | some handle => setHandle place { handle with lines }
      | none => pure ()
      if !isOpen then
        let cause ← textOf (← scalarAt placeOfError)
        Feature.warn evaluator [.text ("Can't open ".toList ++ path ++ ": ".toList ++ cause)] []
      else match (← get).rewrites with
        | some suffix => beginRewriting evaluator place path suffix
        | none => pure ()
      return true

/-- The next line of the files that the arguments name. -/
def argumentLine : (limit : Nat) → Run (Option Text)
  | 0 => return none
  | limit + 1 => do
      let place ← handleNamed "ARGV"
      if !(← get).hasArguments then
        modify fun state => { state with hasArguments := true }
        if (← listAt placeOfArguments).isEmpty then setList placeOfArguments [.text ['-']]
      match ((← handleAt? place).getD default).way with
      | .closed =>
          if ← nextArgument evaluator place then argumentLine limit
          else
            modify fun state => { state with hasArguments := false }
            return none
      | _ =>
          match ← takeLine place with
          | some line => return some line
          | none =>
              match ← handleAt? place with
              | some handle => setHandle place { handle with way := .closed }
              | none => pure ()
              endRewriting evaluator
              argumentLine limit

/-- All lines that are left in the files that the arguments name. -/
def argumentLines : (limit : Nat) → (before : List Value) → Run (List Value)
  | 0, before => return before.reverse
  | limit + 1, before => do
      match ← argumentLine evaluator evaluator.limit with
      | some line => argumentLines limit (.text line :: before)
      | none => return before.reverse

/-- What is read by a handle: a line, or all of them. -/
def readFrom (handle : Term) (want : Want) : Run (List Value) := do
  let isArguments : Bool := match handle with
    | .word name => name = "ARGV"
    | _ => false
  if isArguments then
    if want = .all then argumentLines evaluator evaluator.limit []
    else return [((← argumentLine evaluator evaluator.limit).map Value.text).getD .undefined]
  else
    let place ← Feature.handleBy evaluator handle
    if want = .all then return (← takeLines place evaluator.limit []).map .text
    else return [((← takeLine place).map Value.text).getD .undefined]

/-! Printing. -/

/-- The text of a value that may be missing. -/
def optionalText (place : Nat) : Run Text := do textOf (← scalarAt place)

def print (printing : Printing) (handle : Option Term) (values : Term) : Run Value := do
  let given ← match values with
    | .listed [] => pure [← topic]
    | values => evaluator.values values
  let place ← match handle with
    | some term => Feature.handleBy evaluator term
    | none => pure (← get).selected
  let text ← match printing, given with
    | .formatted, format :: values => do
        let cells := (← get).cells
        pure (formatted (titleOf cells) (← textOf format) values)
    | .formatted, [] => pure []
    | printing, given => do
        let texts ← given.mapM textOf
        let body := List.intercalate (← optionalText placeOfComma) texts
        let ending ← optionalText placeOfEnding
        pure (body ++ if printing = .line then ['\n'] else ending)
  spend (text.length / charactersPerTurn)
  if ← putOut place text then return .whole 1
  else
    noteError 9
    return .undefined

/-! Names of files. -/

/-- The names that a pattern for paths stands for: all of them, or one after the other. -/
def globbed (pattern : Term) (want : Want) : Run (List Value) := do
  if want = .all then
    return ((← Feature.ofFiles evaluator "glob" [pattern] .all).getD [])
  else
    let key ← textOf (← evaluator.value pattern)
    let names ← match (← get).paths.lookup key with
      | some names => pure names
      | none =>
          let found := (← Feature.ofFiles evaluator "glob" [.constant (.text key)] .all).getD []
          found.mapM textOf
    let others := (← get).paths.filter fun entry => entry.1 != key
    match names with
    | [] =>
        modify fun state => { state with paths := others }
        return [.undefined]
    | name :: names =>
        modify fun state => { state with paths := (key, names) :: others }
        return [.text name]

end ShaderCost.Script.Sigil
