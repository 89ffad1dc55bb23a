import ShaderCost.Script.Expansion

/-!
Streams led elsewhere: opening files, copying channels, and texts that a script brings with it.
-/

namespace ShaderCost.Script

/-- What the attempt at using a file was for, which the wording of its failure depends on. -/
inductive Purpose where
  | opening
  | creating
  | executing
  deriving DecidableEq

/-- The wording of a failure. -/
def FileError.wording (purpose : Purpose) (error : FileError) : Text :=
  match error, purpose with
  | .missing, .opening | .notDirectory, .opening => "No such file"
  | .missing, .creating | .notDirectory, .creating => "Directory nonexistent"
  | .missing, .executing | .notDirectory, .executing => "not found"
  | error, _ => ((error.system?.map Prod.fst).getD error.message)

/-- The wording of a failure as the system has it. -/
def FileError.plainWording (error : FileError) : Text :=
  (error.system?.map Prod.fst).getD error.message

/-- The channel that a file is read or written through. -/
def openChannel (opening : Opening) (path : Text) : Step (Except FileError Channel) := do
  let shell ← get
  let tree := shell.tree
  let shown := shownText path
  match tree.follow shown with
  | .error error => return .error error
  | .ok trail =>
      let location := trail.location
      let file (content : Octets) (executable : Bool) (isNew : Bool) (mayRead mayWrite : Bool) :
          Step (Except FileError Channel) := do
        let number := shell.machine.next
        modify fun shell =>
          let tree :=
            if isNew then shell.machine.tree.insert location (.file content executable)
            else shell.machine.tree
          let machine := { shell.machine with tree, next := number + 1 }
          { shell with
            machine := machine.setFile number
              ⟨location, 0, opening = .appending, mayRead, mayWrite⟩ }
        return .ok (.file number)
      match trail.node? tree.root with
      | some .null => return .ok .null
      | some (.link _) => return .error .tooManyLinks
      | some (.stream number) =>
          match shell.channel? number with
          | some channel => return .ok channel
          | none => return .error .missing
      | some (.program _) =>
          if opening = .reading then return .ok .null else return .error .denied
      | some (.directory _) =>
          if opening = .reading then file ⟨#[]⟩ false false true false
          else return .error .isDirectory
      | some (.file content executable) =>
          if Text.endsWith "/" path then return .error .notDirectory
          match opening with
          | .reading => file content executable false true false
          | .appending => file content executable false false true
          | .both => file content executable false true true
          | .replacing => file ⟨#[]⟩ executable true false true
          | .writing =>
              if shell.hasOption 'C' then return .error .alreadyExists
              else file ⟨#[]⟩ executable true false true
      | none =>
          if opening = .reading then return .error .missing
          else if Text.endsWith "/" path then return .error .isDirectory
          else file ⟨#[]⟩ false true (opening = .both) true

/-- A redirection whose words were expanded. -/
inductive Route where
  | file (stream : Nat) (opening : Opening) (path : Text)
  /-- Both outputs to one file. -/
  | both (opening : Opening) (path : Text)
  /-- `none` inside closes the stream. -/
  | duplicate (stream : Nat) (target : Option Nat)
  /-- A stream that takes the place of another one. -/
  | moved (stream target : Nat)
  /-- From a text. -/
  | given (stream : Nat) (content : Text)
  /-- A word that does not name one file. -/
  | ambiguous (word : Text)
  /-- The text at this place is expanded only when the stream is led. -/
  | text (stream place : Nat)

/-- Complains of a stream that has no number. The script is read no further than it was. -/
def failNumber {α : Type} : Step α := do
  modify fun shell => { shell with line := shell.reading }
  fail "Syntax error: Bad fd number"

/-- A word as messages show it. -/
def writtenWord (word : Word) : Text :=
  word.flatMap fun segment => match segment with
    | .bare text | .literal text => text
    | .value name _ => '$' :: name
    | .output _ _ => "$(...)".toList
    | _ => []

/-- The file that a word of the extended language names. -/
def fileRoute (capture : Command → Step Text) (word : Word) (make : Text → Route) : Step Route := do
  if (← get).isExtended then
    match ← Expansion.fields capture word with
    | [path] => return make path
    | _ => return .ambiguous (writtenWord word)
  else return make (← Expansion.text capture word)

def route (capture : Command → Step Text) : Redirection → Step Route
  | .file stream opening path => fileRoute capture path (.file stream opening)
  | .both opening path => fileRoute capture path (.both opening)
  | .given stream word => return .given stream ((← Expansion.text capture word) ++ ['\n'])
  | .text stream place => return .text stream place
  | .duplicate stream target => do
      let text ← Expansion.text capture target
      if (← get).isExtended then
        let digits := text.takeWhile Char.isDigit
        match digits.isEmpty, text.drop digits.length with
        | true, ['-'] => return .duplicate stream none
        | false, [] => return .duplicate stream (some (digitsIn 10 digits))
        | false, ['-'] => return .moved stream (digitsIn 10 digits)
        | _, _ =>
            if stream = standardOutput then return .both .writing text
            else return .ambiguous (writtenWord target)
      else match text with
        | ['-'] => return .duplicate stream none
        | [digit] =>
            if digit.isDigit then return .duplicate stream (some (digitValue digit))
            else failNumber
        | _ => failNumber

/-- A channel that a text is read from. -/
def textChannel (content : Text) : Step Channel := do
  let number := (← get).machine.next
  modify fun shell =>
    let machine := { shell.machine with next := number + 1 }
    let pipe := { Pipe.withLimit none with content := [(0, content)] }
    { shell with machine := machine.setPipe number pipe }
  return .pipe number

def setChannel (stream : Nat) (channel : Option Channel) : Step Unit :=
  modify fun shell => shell.setChannel stream channel

/-- Leads a stream elsewhere. Where that cannot be done, it complains and gives `false`. -/
def lead (capture : Command → Step Text) (route : Route) : Step Bool := do
  match route with
  | .file stream opening path =>
      match ← openChannel opening path with
      | .ok channel =>
          setChannel stream (some channel)
          return true
      | .error error =>
          let (verb, purpose) : Text × Purpose :=
            if opening = .reading then ("open", .opening) else ("create", .creating)
          match (← get).dialect, error with
          | .plain, error =>
              complain ("cannot " ++ verb ++ " " ++ path ++ ": " ++ FileError.wording purpose error)
          | .extended, .alreadyExists => complain (path ++ ": cannot overwrite existing file")
          | .extended, error => complain (path ++ ": ".toList ++ FileError.plainWording error)
          return false
  | .both opening path =>
      match ← openChannel opening path with
      | .ok channel =>
          setChannel standardOutput (some channel)
          setChannel standardError (some channel)
          return true
      | .error error =>
          complain (path ++ ": ".toList ++ FileError.plainWording error)
          return false
  | .ambiguous word =>
      complain (word ++ ": ambiguous redirect".toList)
      return false
  | .given stream content =>
      setChannel stream (some (← textChannel content))
      return true
  | .moved stream target =>
      match (← get).channel? target with
      | some channel =>
          setChannel stream (some channel)
          if stream != target then setChannel target none
          return true
      | none =>
          complain (Text.ofNat target ++ ": Bad file descriptor")
          return false
  | .duplicate stream none =>
      setChannel stream none
      return true
  | .duplicate stream (some target) =>
      match (← get).channel? target with
      | some channel =>
          setChannel stream (some channel)
          return true
      | none =>
          complain (Text.ofNat target ++ ": Bad file descriptor")
          return false
  | .text stream place =>
      let halt ← Step.attempt do
        let content := ((← get).texts[place]?).getD []
        setChannel stream (some (← textChannel (← Expansion.lines capture content)))
      match halt with
      | none => return true
      | some .failed => return false
      | some halt => throw halt

/-- Leads streams elsewhere, one after the other, up to the first that cannot be. -/
def leadAll (capture : Command → Step Text) : List Route → Step Bool
  | [] => return true
  | route :: rest => do
      if ← lead capture route then leadAll capture rest else return false

/-- Leads streams elsewhere as redirections say. A failure is the status. -/
def redirect (capture : Command → Step Text) (redirections : List Redirection) : Step Bool := do
  if redirections.isEmpty then return true
  let routes ← redirections.mapM (route capture)
  if ← leadAll capture routes then return true
  setStatus (← get).dialect.failure
  return false

/-- Carries out an action whose changes of channels do not stay. -/
def withChannels (action : Step Unit) : Step Unit :=
  Step.restoring action fun before after => { after with channels := before.channels }

end ShaderCost.Script
