import ShaderCost.Script.Extended.Declaration

/-!
Commands of the extended language that read: fields of a line into variables or a list, and all
lines of a stream into a list.
-/

namespace ShaderCost.Script.Extended

/-- Splits options off the front of arguments. Letters in `plain` stand alone, those in `valued`
take a value. An option that is not known comes back as an error. -/
def options (plain valued : Text) : (fuel : Nat) → List Text →
    Except Text (List (Char × Text) × List Text)
  | 0, arguments => .ok ([], arguments)
  | _ + 1, [] => .ok ([], [])
  | fuel + 1, argument :: rest =>
      match argument with
      | ['-', '-'] => .ok ([], rest)
      | '-' :: letter :: letters => go fuel (letter :: letters) rest
      | _ => .ok ([], argument :: rest)
where
  go (fuel : Nat) : Text → List Text → Except Text (List (Char × Text) × List Text)
    | [], rest => options plain valued fuel rest
    | letter :: letters, rest =>
        if plain.elem letter then do
          let (more, arguments) ← go fuel letters rest
          return ((letter, []) :: more, arguments)
        else if valued.elem letter then
          match letters, rest with
          | [], [] => .error ('-' :: letter :: ": option requires an argument".toList)
          | [], value :: rest => do
              let (more, arguments) ← options plain valued fuel rest
              return ((letter, value) :: more, arguments)
          | letters, rest => do
              let (more, arguments) ← options plain valued fuel rest
              return ((letter, letters) :: more, arguments)
        else .error ('-' :: letter :: ": invalid option".toList)

/-- Shows how a command is used. -/
def showUsage (usage : Text) : Step Unit := do
  let name := ((← get).command).getD []
  report (name ++ ": usage: ".toList ++ usage)

/-- Carries out a command with its options, unless one of them is not known. -/
def withOptions (plain valued usage : Text)
    (body : List (Char × Text) → List Text → Step Nat) : Builtin := fun arguments => do
  match options plain valued (arguments.length + 1) arguments with
  | .ok (found, rest) => body found rest
  | .error problem =>
      complain problem
      showUsage usage
      return 2

def has (found : List (Char × Text)) (letter : Char) : Bool :=
  found.any fun option => option.1 = letter

def valueOf? (found : List (Char × Text)) (letter : Char) : Option Text :=
  found.reverse.lookup letter

/-! Reading a line. -/

/-- How a line is read. -/
structure Manner where
  stream : Nat
  delimiter : Char
  isRaw : Bool
  /-- How many characters are read at most. -/
  limit : Option Nat
  /-- Whether the delimiter has no meaning. -/
  ignoresDelimiter : Bool

/-- The characters of a line with whether they may part fields, and whether the line is complete.
A backslash joins lines or takes the meaning of the character behind it. -/
def readCharacters (manner : Manner) : (fuel : Nat) → (count : Nat) →
    (before : List (Char × Bool)) → Step (List (Char × Bool) × Bool)
  | 0, _, before => return (before.reverse, false)
  | fuel + 1, count, before => do
      let room := manner.limit.map (· - count)
      if room = some 0 then return (before.reverse, true)
      let cut (text : Text) : Option Nat :=
        let plain := text.takeWhile fun c =>
          (c != manner.delimiter || manner.ignoresDelimiter) && (manner.isRaw || c != '\\')
        match room with
        | some room =>
            if room ≤ plain.length then some room
            else if plain.length < text.length then some (plain.length + 1) else none
        | none => if plain.length < text.length then some (plain.length + 1) else none
      let text ← readPart manner.stream cut
      let shown (text : Text) : List (Char × Bool) :=
        (text.filter (· != '\x00')).map fun c => (c, true)
      match text.getLast? with
      | none => return (before.reverse, false)
      | some last =>
          if last = '\\' && !manner.isRaw then
            let before := (shown text.dropLast).reverse ++ before
            let next ← readPart manner.stream fun text => if text.isEmpty then none else some 1
            match next with
            | ['\n'] => readCharacters manner fuel (count + text.length - 1) before
            | [c] => readCharacters manner fuel (count + text.length) ((c, false) :: before)
            | _ => return (before.reverse, false)
          else if last = manner.delimiter && !manner.ignoresDelimiter then
            return ((shown text.dropLast).reverse ++ before |>.reverse, true)
          else if room.any fun room => room ≤ text.length then
            return ((shown text).reverse ++ before |>.reverse, true)
          else
            return ((shown text).reverse ++ before |>.reverse, false)

def readUsage : Text :=
  "read [-ers] [-a array] [-d delim] [-i text] [-n nchars] [-N nchars]".toList ++
    " [-p prompt] [-t timeout] [-u fd] [name ...]".toList

def assignFields : List Text → List Text → Step Nat
  | [], _ => return 0
  | name :: names, fields => do
      match name.takeWhile fun c => c != '[' with
      | base =>
          if !isName base then
            Declaration.complainOfName name
            return 1
          let subscript := name.drop base.length
          let value := fields.headD []
          if subscript.isEmpty then Reckoning.setValue Reckoning.evaluate base value false
          else Reckoning.setElement Reckoning.evaluate base (subscript.drop 1).dropLast value false
          assignFields names fields.tail

/-- Reads a line into variables, the last of which takes all that is left, or into a list. -/
def read : Builtin := withOptions "ers" "adinNptu" readUsage fun found names => do
  let limit? := (valueOf? found 'n').orElse fun _ => valueOf? found 'N'
  let timeout := (valueOf? found 't').getD ['1']
  let stream := match valueOf? found 'u' with
    | some text => (Text.nat? text).getD 0
    | none => standardInput
  if !(timeout.all fun c => c.isDigit || c = '.') then
    complain (timeout ++ ": invalid timeout specification".toList)
    return 1
  else if limit?.any fun text => (Text.nat? text).isNone then
    complain (limit?.getD [] ++ ": invalid number".toList)
    return 1
  else if ((← get).channel? stream).isNone then
    complain (Text.ofNat stream ++ ": invalid file descriptor: Bad file descriptor".toList)
    return 1
  else if timeout.all fun c => c = '0' || c = '.' then return 0
  let unnamed := names.find? fun name => !isName (name.takeWhile fun c => c != '[')
  match unnamed with
  | some name =>
      Declaration.complainOfName name
      return 1
  | none =>
      let delimiter := match valueOf? found 'd' with
        | some (c :: _) => c
        | some [] => '\x00'
        | none => '\n'
      let manner : Manner := {
        stream, delimiter, isRaw := has found 'r', limit := limit?.bind Text.nat?
        ignoresDelimiter := has found 'N' }
      let (characters, isComplete) ← readCharacters manner 1000000 0 []
      let shell ← get
      match valueOf? found 'a', names with
      | some list, _ =>
          if !isName list then
            Declaration.complainOfName list
            return 1
          let most := characters.length + 2
          assignList list (.ofTexts (Fields.ofLine shell.separators most characters))
      | none, [] => assign "REPLY" (characters.map Prod.fst)
      | none, names =>
          if has found 'N' then
            let _ ← assignFields names [characters.map Prod.fst]
          else
            let _ ← assignFields names (Fields.ofLine shell.separators names.length characters)
      return if isComplete then 0 else 1

/-! Reading all lines. -/

def linesUsage : Text :=
  "mapfile [-d delim] [-n count] [-O origin] [-s count] [-t] [-u fd]".toList ++
    " [-C callback] [-c quantum] [array]".toList

/-- The lines of a text, each with the delimiter that ends it. -/
def delimited (delimiter : Char) : Text → (current : Text) → List Text
  | [], current => if current.isEmpty then [] else [current.reverse]
  | c :: rest, current =>
      if c = delimiter then (c :: current).reverse :: delimited delimiter rest []
      else delimited delimiter rest (c :: current)

/-- Reads the lines of a stream into a list. -/
def readLines : Builtin := withOptions "t" "cCdnOsu" linesUsage fun found names => do
  let name := names.headD "MAPFILE".toList
  if !isName name then
    Declaration.complainOfName name
    return 1
  let number (letter : Char) : Nat := ((valueOf? found letter).bind Text.nat?).getD 0
  let delimiter := match valueOf? found 'd' with
    | some (c :: _) => c
    | some [] => '\x00'
    | none => '\n'
  let text ← readPart (number 'u') fun _ => none
  let lines := (delimited delimiter text []).drop (number 's')
  let lines := if number 'n' = 0 then lines else lines.take (number 'n')
  let lines := if has found 't' then
    lines.map fun line => if line.getLast? = some delimiter then line.dropLast else line
    else lines
  match valueOf? found 'O' with
  | none => assignList name (.ofTexts lines)
  | some _ =>
      let start := ((← get).list? name).getD .empty
      let list := lines.zipIdx.foldl (fun list (line, place) =>
        Listing.setNumbered list (number 'O' + place) line) start
      assignList name list
  return 0

end ShaderCost.Script.Extended
