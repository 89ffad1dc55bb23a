import ShaderCost.Script.Sigil.Features
import ShaderCost.Script.Utility.Octets

/-!
Routines of the library, which programs ask for by their names: on numbers, lists and references,
on paths and moments, and on the arguments of the program.
-/

namespace ShaderCost.Script.Sigil

namespace Library

open Feature (Answer answer answerText answerBool)

/-! Numbers and lists. -/

/-- The value of a list that no other one comes before. -/
def foremost (isBefore : Value → Value → Run Bool) : Value → List Value → Run Value
  | best, [] => return best
  | best, value :: rest => do
      if ← isBefore value best then foremost isBefore value rest else foremost isBefore best rest

def foremostOf (isBefore : Value → Value → Run Bool) : List Value → Answer
  | [] => answer .undefined
  | value :: rest => do answer (← foremost isBefore value rest)

def numbersBefore (order : Ordering) (left right : Value) : Run Bool :=
  return left.toNumeric.order? right.toNumeric = some order

def textsBefore (isUp : Bool) (left right : Value) : Run Bool := do
  let left ← textOf left
  let right ← textOf right
  return if isUp then !Text.atMost right left else !Text.atMost left right

/-- The values whose texts did not occur before. -/
def distinct : List Value → (seen : List Text) → Run (List Value)
  | [], _ => return []
  | value :: rest, seen => do
      let text ← textOf value
      if seen.elem text then distinct rest seen
      else return value :: (← distinct rest (text :: seen))

/-- Every second value, the first or the one behind it. -/
def alternate (isSecond : Bool) : List Value → List Value
  | [] => []
  | [value] => [if isSecond then .undefined else value]
  | first :: second :: rest =>
      (if isSecond then second else first) :: alternate isSecond rest

/-- Values in an order that a seed stands for. -/
def shuffled : (fuel : Nat) → UInt64 → Array Value → List Value
  | 0, _, values => values.toList
  | fuel + 1, seed, values =>
      if values.isEmpty then []
      else
        let seed := seed * 25214903917 + 11
        let place := (seed.toNat / twoTo 16) % values.size
        let value := values.getD place .undefined
        let rest := (values.setIfInBounds place (values.back?.getD .undefined)).pop
        value :: shuffled fuel seed rest

def ofNumbers (name : Text) (values : List Value) (want : Want) : Answer := do
  let first := (values.headD .undefined).toFloat
  let second := ((values[1]?).getD Value.undefined).toFloat
  let settled (value : Float) : Answer := answer (Numeric.settled value).toValue
  let total (start : Numeric) : Value :=
    (values.foldl (fun total value => total.add value.toNumeric) start).toValue
  let all (values : List Value) : Answer :=
    if want = .all then return some values else answer (.ofNat values.length)
  match String.ofList name with
  | "sum" => if values.isEmpty then answer .undefined else answer (total (.whole 0))
  | "sum0" => answer (total (.whole 0))
  | "product" =>
      answer (values.foldl (fun total value => total.multiply value.toNumeric)
        (Numeric.whole 1)).toValue
  | "min" => foremostOf (numbersBefore .lt) values
  | "max" => foremostOf (numbersBefore .gt) values
  | "minstr" => foremostOf (textsBefore true) values
  | "maxstr" => foremostOf (textsBefore false) values
  | "uniq" | "uniqnum" | "uniqstr" | "uniqint" => all (← distinct values [])
  | "pairkeys" => all (alternate false values)
  | "pairvalues" => all (alternate true values)
  | "shuffle" =>
      let seed := (← get).seed
      return some (shuffled values.length seed values.toArray)
  | "floor" => settled first.floor
  | "ceil" => settled first.ceil
  | "round" => settled first.round
  | "trunc" => settled (if first < 0 then first.ceil else first.floor)
  | "fmod" =>
      if second == 0 then answer (.real (0.0 / 0.0))
      else
        let quotient := first / second
        let whole := if quotient < 0 then quotient.ceil else quotient.floor
        settled (first - whole * second)
  | "pow" => settled (Float.pow first second)
  | "tan" => answer (.real first.tan)
  | "log10" => answer (.real first.log10)
  | "log2" => answer (.real first.log2)
  | "strtol" =>
      match values with
      | text :: base :: _ =>
          let digits := ((← textOf text).dropWhile isBlankOctet).takeWhile isHexDigit
          answer (.ofNat (digitsIn base.toNat digits))
      | [text] => answer text.toNumeric.toValue
      | [] => answer .undefined
  | "toupper" => answerText ((← textOf (values.headD .undefined)).map Char.toUpper)
  | "tolower" => answerText ((← textOf (values.headD .undefined)).map Char.toLower)
  | _ => return none

/-! References. -/

def ofReferences (name : Text) (values : List Value) : Answer := do
  let value := values.headD .undefined
  match String.ofList name with
  | "blessed" =>
      match ← classOf? value with
      | some package => answerText package
      | none => answer .undefined
  | "reftype" =>
      match value with
      | .reference kind place =>
          match ← Feature.ofText "ref" (.reference kind place), (← cellAt place).package with
          | some values, none => return some values
          | _, _ =>
              let word : Text := match kind with
                | .scalar => "SCALAR"
                | .list => "ARRAY"
                | .table => "HASH"
                | .routine => "CODE"
                | .handle => "GLOB"
                | .pattern => "REGEXP"
              answerText word
      | _ => answer .undefined
  | "looks_like_number" =>
      match value with
      | .text text => answerBool (looksNumeric text)
      | .undefined | .reference _ _ => answerBool false
      | _ => answerBool true
  | "refaddr" =>
      match value with
      | .reference _ place => answer (.ofNat (93824992231424 + 24 * place))
      | _ => answer .undefined
  | "dualvar" => answer (.dual value.toInt (← textOf ((values[1]?).getD .undefined)))
  | "readonly" => answerBool false
  | "weaken" | "unweaken" => return some []
  | _ => return none

/-! Numbers that stand under names. -/

def constants : List (Text × Int) := [
  ("EXIT_SUCCESS", 0), ("EXIT_FAILURE", 1), ("WNOHANG", 1), ("WUNTRACED", 2),
  ("INT_MAX", 2147483647),
  ("INT_MIN", -2147483648), ("UINT_MAX", 4294967295), ("LONG_MAX", 9223372036854775807),
  ("LONG_MIN", -9223372036854775808), ("SEEK_SET", 0), ("SEEK_CUR", 1), ("SEEK_END", 2),
  ("LOCK_SH", 1), ("LOCK_EX", 2), ("LOCK_NB", 4), ("LOCK_UN", 8), ("O_RDONLY", 0), ("O_WRONLY", 1),
  ("O_RDWR", 2), ("O_CREAT", 64), ("O_EXCL", 128), ("O_TRUNC", 512), ("O_APPEND", 1024),
  ("F_OK", 0), ("R_OK", 4), ("W_OK", 2), ("X_OK", 1), ("STDIN_FILENO", 0), ("STDOUT_FILENO", 1),
  ("STDERR_FILENO", 2)]

def faultNumbers : List (Text × Int) := [
  ("EPERM", 1), ("ENOENT", 2), ("ESRCH", 3), ("EINTR", 4), ("EIO", 5), ("EBADF", 9),
  ("ECHILD", 10), ("EAGAIN", 11), ("EWOULDBLOCK", 11), ("ENOMEM", 12), ("EACCES", 13),
  ("EEXIST", 17), ("ENOTDIR", 20), ("EISDIR", 21), ("EINVAL", 22), ("ENOTTY", 25), ("ENOSPC", 28),
  ("ESPIPE", 29), ("EPIPE", 32), ("ERANGE", 34), ("ENOTEMPTY", 39)]

/-- The value that a name of the library stands for. -/
def constant? (name : Text) : Option Value :=
  let base := lastPart name
  match constants.lookup base, faultNumbers.lookup base, Text.after? "SIG" base with
  | some number, _, _ | none, some number, _ => some (.whole number)
  | none, none, some signal => (Signal.ofText? signal).map .ofNat
  | none, none, none =>
      if base = "DBL_MAX" then some (.real 1.7976931348623157e308)
      else if base = "DBL_MIN" then some (.real 2.2250738585072014e-308)
      else if base = "DBL_EPSILON" then some (.real 2.220446049250313e-16)
      else none
where
  /-- The name behind those of packages. -/
  lastPart (name : Text) : Text := (name.reverse.takeWhile (· != ':')).reverse

/-! Paths. -/

/-- A path without slashes at its end. -/
def withoutEnd (path : Text) : Text :=
  match (path.reverse.dropWhile (· == '/')).reverse with
  | [] => if path.isEmpty then [] else ['/']
  | path => path

/-- The directory part of a path with its slash, and the name behind it. -/
def parted (path : Text) : Text × Text :=
  let name := (path.reverse.takeWhile (· != '/')).reverse
  (path.take (path.length - name.length), name)

/-- The first ending of a name that an expression finds. -/
def endingOf (name : Text) : List Value → Run Text
  | [] => return []
  | pattern :: rest => do
      let expression ← match pattern with
        | .reference .pattern place =>
            match (← cellAt place).content with
            | .pattern expression _ => pure (some expression)
            | _ => pure none
        | _ => pure none
      let text ← textOf pattern
      let found := match expression with
        | some expression =>
            let tails := (List.range (name.length + 1)).map (name.drop ·)
            tails.find? fun tail => (expression.take? [] tail).any fun occurrence =>
              occurrence.behind.isEmpty && !tail.isEmpty
        | none => if text.isSuffixOf name && text != name then some text else none
      match found with
      | some ending => return ending
      | none => endingOf name rest

def dirname (path : Text) : Text :=
  let (directory, name) := parted path
  if name.isEmpty && directory != "/" then
    let (directory, _) := parted (withoutEnd path)
    if directory.isEmpty then ['.'] else withoutEnd directory
  else if directory.isEmpty then ['.']
  else withoutEnd directory

/-- A path without doubled slashes and void steps. -/
def canonical (path : Text) : Text :=
  let steps := (path.splitOn '/').filter fun step => !step.isEmpty && step != ['.']
  let body := List.intercalate ['/'] steps
  if path.head? = some '/' then '/' :: body else if body.isEmpty then ['.'] else body

def here : Run Text := do return Builtin.pathOf (← getThe Shell).directory

def ofPaths (name : Text) (values : List Value) (want : Want) : Answer := do
  let text ← textOf (values.headD .undefined)
  match String.ofList name with
  | "getcwd" | "cwd" => answerText (← here)
  | "abs_path" | "realpath" =>
      let tree := (← getThe Shell).tree
      match tree.locate (shownText (if text.isEmpty then "." else text)) with
      | .ok location => answerText (Utility.Resolution.textOf location)
      | .error error =>
          noteFileError error
          answer .undefined
  | "basename" =>
      let (_, name) := parted (withoutEnd text)
      let name := if name.isEmpty then withoutEnd text else name
      let ending ← endingOf name values.tail
      answerText (name.take (name.length - ending.length))
  | "dirname" => answerText (dirname text)
  | "fileparse" =>
      let (directory, name) := parted text
      let ending ← endingOf name values.tail
      let base := name.take (name.length - ending.length)
      let directory := if directory.isEmpty then "./".toList else directory
      if want = .all then return some [.text base, .text directory, .text ending]
      else answerText base
  | "catfile" | "catdir" =>
      let texts ← values.mapM textOf
      answerText (canonical (List.intercalate ['/'] texts))
  | "canonpath" => answerText (canonical text)
  | "tmpdir" => answerText (((← getThe Shell).value? "TMPDIR").getD "/tmp")
  | "curdir" => answerText ['.']
  | "rel2abs" =>
      let here ← here
      answerText (canonical (if text.head? = some '/' then text else here ++ '/' :: text))
  | "file_name_is_absolute" => answerBool (text.head? = some '/')
  | "splitdir" => return some ((text.splitOn '/').map .text)
  | "make_path" | "mkpath" =>
      let mut made : List Value := []
      for value in values do
        match value with
        | .reference _ _ => pure ()
        | value =>
            let steps := (← textOf value).splitOn '/'
            for count in List.range steps.length do
              let path := List.intercalate ['/'] (steps.take (count + 1))
              let tree := (← getThe Shell).tree
              if !path.isEmpty && !tree.exists? (shownText path) then
                let isDone ← Feature.changeFiles fun tree => tree.makeDirectory (shownText path)
                if isDone then made := made ++ [.text path]
      if want = .all then return some made else answer (.ofNat made.length)
  | "remove_tree" | "rmtree" =>
      let paths ← (values.filter fun value => match value with
        | .reference _ _ => false
        | _ => true).mapM textOf
      Feature.countDone paths fun path => Feature.changeFiles fun tree => do
        let _ ← tree.findEntry (shownText path)
        return tree.remove (← tree.followEntry (shownText path)).location
  | "copy" | "cp" | "move" | "mv" =>
      let target ← textOf ((values[1]?).getD .undefined)
      let tree := (← getThe Shell).tree
      let target : Text := match tree.find (shownText target) with
        | .ok (.directory _) => target ++ '/' :: (parted text).2
        | _ => target
      answerBool (← Feature.changeFiles fun tree => do
        let node ← tree.find (shownText text)
        let source ← tree.followEntry (shownText text)
        let place ← tree.followEntry (shownText target)
        let tree := if name = "move" || name = "mv" then tree.remove source.location else tree
        return tree.insert place.location node)
  | "hostname" => answerText "localhost"
  | _ => return none

/-! Moments. -/

/-- The moment that seconds, minutes, hours, the day, the month from zero on and years since 1900
stand for. -/
def momentOf (values : List Value) : Calendar.Moment :=
  let number (place : Nat) : Int := ((values[place]?).getD .undefined).toInt
  let months := number 4
  let year := number 5 + 1900 + months.fdiv 12
  let month := (months.fmod 12).toNat + 1
  let days := Calendar.Date.days ⟨year, month, 1⟩ + number 3 - 1
  { seconds := days * 86400 + number 2 * 3600 + number 1 * 60 + number 0 }

def ofMoments (name : Text) (values : List Value) (want : Want) : Answer := do
  let shell ← getThe Shell
  let now := Clock.now shell
  let offset := (Clock.zone shell).2
  match String.ofList name with
  | "strftime" =>
      let moment := momentOf values.tail
      let face := Clock.faceOf shell { moment with seconds := moment.seconds - offset }
      answerText (face.text (← textOf (values.headD .undefined)))
  | "mktime" | "timelocal" => answer (.whole ((momentOf values).seconds - offset))
  | "timegm" => answer (.whole (momentOf values).seconds)
  | "gettimeofday" =>
      if want = .all then return some [.whole now.seconds, .ofNat (now.nanos / 1000)]
      else answer (.real (Float.ofInt now.seconds + Float.ofNat now.nanos / 1000000000.0))
  | "tv_interval" =>
      let seconds (value : Value) : Run Float := do
        match value with
        | .reference .list place =>
            match ← listValues place with
            | [whole, part] => return whole.toFloat + part.toFloat / 1000000.0
            | _ => return 0
        | _ => return Float.ofInt now.seconds + Float.ofNat now.nanos / 1000000000.0
      let first ← seconds (values.headD .undefined)
      let last ← seconds ((values[1]?).getD .undefined)
      answer (.real (last - first))
  | _ => return none

/-! The course of the program. -/

/-- Where the routine that asks was called. -/
def callerPlace : Run Text := do
  let state ← get
  match state.frames with
  | [] => whereabouts
  | frame :: _ =>
      return " at ".toList ++ state.path ++ " line ".toList ++ Text.ofNat frame.line ++ ".\n".toList

/-- The calls that are under way, the last one first. -/
def courseText (frames : List Frame) (path : Text) : Text :=
  frames.flatMap fun frame =>
    "\t".toList ++ frame.name ++ "() called at ".toList ++ path ++ " line ".toList ++
      Text.ofNat frame.line ++ ['\n']

def ofCourse (evaluator : Evaluator) (name : Text) (values : List Value) : Answer := do
  let status := (values.headD .undefined).toNat
  let message (isLong : Bool) : Run Value := do
    match values with
    | [.reference kind place] => return .reference kind place
    | values =>
        let text := (← values.mapM textOf).flatten
        let state ← get
        if isLong then
          return .text (text ++ " at ".toList ++ state.path ++ " line ".toList ++
            Text.ofNat state.line ++ ".\n".toList ++ courseText state.frames state.path)
        else if text.getLast? = some '\n' then return .text text
        else return .text (text ++ (← callerPlace))
  match String.ofList name with
  | "croak" | "confess" =>
      let message ← message (name = "confess")
      let _ ← Feature.hook? evaluator "__DIE__" message
      throw (.died message)
  | "carp" | "cluck" =>
      let message ← message (name = "cluck")
      if !(← Feature.hook? evaluator "__WARN__" message) then
        let _ ← putOut placeOfProblems (← textOf message)
      answer (.whole 1)
  | "_exit" =>
      let leave : Step (Option (List Value)) := do
        setStatus (status % 256)
        throw .exited
      liftM (n := Run) leave
  | "getpid" => answer (.ofNat (← getThe Shell).process)
  | "WIFEXITED" => answerBool (status % 128 = 0)
  | "WEXITSTATUS" => answer (.ofNat (status / 256))
  | "WIFSIGNALED" => answerBool (status % 128 != 0)
  | "WTERMSIG" => answer (.ofNat (status % 128))
  | "isatty" => answerBool false
  | "strerror" => answerText (errorText status)
  | "raise" =>
      Feature.receiveSignal evaluator status
      answer (.whole 1)
  | "import" | "unimport" | "binmode" => return some []
  | _ => return none

/-! Octets. -/

/-- A text in the digits of base sixty-four, in lines with an end. -/
def inBase64 (text ending : Text) : Text :=
  let code := Utility.Alphabet.base64
  let digits := (code.encode (text.length + 1) (text.map Char.toNat)).flatten
  (Utility.wrapped 76 (digits.length + 1) digits).flatMap (· ++ ending)

def ofOctets (name : Text) (values : List Value) : Answer := do
  let text ← textOf (values.headD .undefined)
  let digest (work : Octets → List UInt8) : Answer := do
    let whole := (← values.mapM textOf).flatten
    spend (whole.length / charactersPerTurn)
    answerText (Digest.hexadecimal (work (gather whole)))
  match String.ofList name with
  | "encode_base64" =>
      let ending ← match values[1]? with
        | some value => textOf value
        | none => pure ['\n']
      answerText (inBase64 text ending)
  | "decode_base64" =>
      let digits := text.filter Utility.Alphabet.base64.digits.elem
      answerText (Utility.Alphabet.base64.decode (digits.length + 1) digits []).1
  | "md5_hex" => digest Digest.md5
  | "sha1_hex" => digest Digest.sha1
  | "sha256_hex" => digest Digest.sha256
  | "sha512_hex" => digest Digest.sha512
  | _ => return none

/-! The arguments of the program. -/

/-- An option with its names and what it takes: nothing, an integer, a number or a text. -/
structure Choice where
  names : List Text
  /-- The letter for what it takes, or a mark for what it does without a value. -/
  kind : Char
  isOptional : Bool
  /-- Whether values are gathered: in a list or in a table. -/
  gathers : Option Char
  target : Value

/-- An option as it is described. -/
def choiceOf (description : Text) (target : Value) : Choice :=
  let names := description.takeWhile fun c => c != '=' && c != ':' && c != '!' && c != '+'
  let names := names.splitOn '|'
  match description.drop (List.intercalate ['|'] names).length with
  | '=' :: kind :: rest => ⟨names, kind, false, rest.head?, target⟩
  | ':' :: kind :: rest => ⟨names, kind, true, rest.head?, target⟩
  | '!' :: _ => ⟨names, '!', false, none, target⟩
  | '+' :: _ => ⟨names, '+', false, none, target⟩
  | _ => ⟨names, ' ', false, none, target⟩

/-- The options that a list describes, each with the place that its values go to. -/
def choicesOf (table : Option Nat) : List Value → Run (List Choice)
  | description :: .reference kind place :: rest => do
      let choice := choiceOf (← textOf description) (.reference kind place)
      return choice :: (← choicesOf table rest)
  | description :: rest => do
      let description ← textOf description
      let choice := choiceOf description .undefined
      let target ← match table with
        | some table => do
            let place ← entryPlace table (choice.names.headD [])
            pure (Value.reference .scalar place)
        | none => pure .undefined
      return { choice with target } :: (← choicesOf table rest)
  | [] => return []

/-- Gives an option its value. -/
def Choice.settle (evaluator : Evaluator) (choice : Choice) (value : Value) : Run Unit := do
  match choice.target with
  | .reference .list list =>
      let place ← fresh value
      onContent list fun content => match content with
        | .list places => ((), .list (places.push place))
        | content => ((), content)
  | .reference .table table =>
      let text ← textOf value
      let key := text.takeWhile (· != '=')
      let value : Value :=
        if key.length < text.length then .text (text.drop (key.length + 1)) else .whole 1
      setScalar (← entryPlace table key) value
  | .reference .routine place =>
      let name ← fresh (.text (choice.names.headD []))
      let value ← fresh value
      let _ ← evaluator.call place [name, value] .nothing
  | .reference .scalar place =>
      if choice.gathers = some '@' then
        let list ← placeBehind .list place true
        let element ← fresh value
        onContent list fun content => match content with
          | .list places => ((), .list (places.push element))
          | content => ((), content)
      else if choice.kind = '+' then
        setScalar place (increment (← scalarAt place))
      else setScalar place value
  | _ => pure ()

/-- The option that a name stands for, which may be cut short. -/
def Choice.find? (choices : List Choice) (name : Text) : Option (Choice × Bool) :=
  let name := name.map Char.toLower
  let named (choice : Choice) : Bool := choice.names.any fun known => known.map Char.toLower = name
  let short (choice : Choice) : Bool :=
    choice.names.any fun known => name.isPrefixOf (known.map Char.toLower)
  let denied (choice : Choice) : Bool :=
    choice.kind = '!' && choice.names.any fun known =>
      name = "no".toList ++ known || name = "no-".toList ++ known
  match choices.find? named, choices.filter short, choices.find? denied with
  | some choice, _, _ => some (choice, true)
  | none, [choice], none => some (choice, true)
  | none, _, some choice => some (choice, false)
  | none, _, none => none

/-- Takes options out of arguments. The result is what is left and whether all was well. -/
def takeOptions (evaluator : Evaluator) (choices : List Choice) : (fuel : Nat) → List Text →
    (others : List Text) → (isWell : Bool) → Run (List Text × Bool)
  | 0, _, others, isWell => return (others.reverse, isWell)
  | _ + 1, [], others, isWell => return (others.reverse, isWell)
  | fuel + 1, argument :: rest, others, isWell => do
      let complain (problem : Text) (rest : List Text) : Run (List Text × Bool) := do
        Feature.warn evaluator [.text (problem ++ ['\n'])] []
        takeOptions evaluator choices fuel rest others false
      match argument with
      | ['-', '-'] => return (others.reverse ++ rest, isWell)
      | '-' :: c :: body =>
          let written := if c = '-' then body else c :: body
          let name := written.takeWhile (· != '=')
          let attached : Option Text :=
            if name.length < written.length then some (written.drop (name.length + 1)) else none
          match Choice.find? choices name with
          | none => complain ("Unknown option: ".toList ++ name) rest
          | some (choice, isOn) =>
              if choice.kind = ' ' || choice.kind = '!' || choice.kind = '+' then
                choice.settle evaluator (.whole (if isOn then 1 else 0))
                takeOptions evaluator choices fuel rest others isWell
              else
                let value? : Option (Text × List Text) := match attached, rest with
                  | some value, rest => some (value, rest)
                  | none, value :: rest =>
                      if choice.isOptional && value.head? = some '-' then none
                      else some (value, rest)
                  | none, [] => none
                match value? with
                | none =>
                    if choice.isOptional then
                      choice.settle evaluator
                        (if choice.kind = 's' then .text [] else .whole 0)
                      takeOptions evaluator choices fuel rest others isWell
                    else complain ("Option ".toList ++ name ++ " requires an argument".toList) rest
                | some (value, rest) =>
                    let isNumber := (choice.kind != 'i' || (Text.after? "-" value |>.getD value).all
                      Char.isDigit) && (choice.kind = 's' || looksNumeric value)
                    if isNumber then
                      choice.settle evaluator (.text value)
                      takeOptions evaluator choices fuel rest others isWell
                    else
                      let wanted : Text := if choice.kind = 'i' then "number" else "real number"
                      complain ("Value \"".toList ++ value ++ "\" invalid for option ".toList ++
                        name ++ " (".toList ++ wanted ++ " expected)".toList) rest
      | argument => takeOptions evaluator choices fuel rest (argument :: others) isWell

/-- Takes single letters out of arguments, each of which has a value where a colon follows it. -/
def takeLetters (known : Text) (settle : Char → Value → Run Unit) : (fuel : Nat) → List Text →
    (isWell : Bool) → Run (List Text × Bool)
  | 0, arguments, isWell => return (arguments, isWell)
  | fuel + 1, arguments, isWell => do
      match arguments with
      | ['-', '-'] :: rest => return (rest, isWell)
      | ('-' :: letter :: body) :: rest =>
          let behind := known.drop (known.idxOf letter + 1)
          if letter = ':' || !known.elem letter then
            let _ ← putOut placeOfProblems ("Unknown option: ".toList ++ [letter, '\n'])
            takeLetters known settle fuel (if body.isEmpty then rest else ('-' :: body) :: rest)
              false
          else if behind.head? = some ':' then
            match body, rest with
            | [], value :: rest =>
                settle letter (.text value)
                takeLetters known settle fuel rest isWell
            | [], [] => return ([], isWell)
            | body, rest =>
                settle letter (.text body)
                takeLetters known settle fuel rest isWell
          else
            settle letter (.whole 1)
            takeLetters known settle fuel (if body.isEmpty then rest else ('-' :: body) :: rest)
              isWell
      | arguments => return (arguments, isWell)

def ofArguments (evaluator : Evaluator) (name : Text) (values : List Value) : Answer := do
  let present : Run (List Text) := do (← listValues placeOfArguments).mapM textOf
  match String.ofList name with
  | "GetOptions" =>
      let (table, values) : Option Nat × List Value := match values with
        | .reference .table table :: values => (some table, values)
        | values => (none, values)
      let choices ← choicesOf table values
      let arguments ← present
      let (rest, isWell) ← takeOptions evaluator choices (arguments.length + 1) arguments [] true
      setList placeOfArguments (rest.map .text)
      answerBool isWell
  | "getopts" | "getopt" =>
      let known ← textOf (values.headD .undefined)
      let settle (letter : Char) (value : Value) : Run Unit := do
        match (values[1]?).getD Value.undefined with
        | .reference .table table => setScalar (← entryPlace table [letter]) value
        | _ => setScalar (← sharedPlace .scalar ("main::opt_".toList ++ [letter])) value
      let arguments ← present
      let length := (arguments.map List.length).foldl (· + ·) (arguments.length + 1)
      let (rest, isWell) ← takeLetters known settle length arguments true
      setList placeOfArguments (rest.map .text)
      answerBool isWell
  | _ => return none

/-! Values as the program would write them. -/

/-- A text between quotes. -/
def quotedText (text : Text) : Text :=
  '\'' :: (text.flatMap fun c => if c = '\'' || c = '\\' then ['\\', c] else [c]) ++ ['\'']

/-- Whether a text is a number that is written plainly. -/
def isPlainNumber (text : Text) : Bool :=
  let digits := (Text.after? "-" text).getD text
  text = ['0'] || (digits.head?.any (fun c => '1' ≤ c && c ≤ '9') && digits.all Char.isDigit &&
    digits.length < 10)

/-- What a value is written as, with as many blanks in front of further lines. -/
def written (sorts : Bool) : (fuel : Nat) → (indent : Nat) → Value → Run Text
  | 0, _, _ => return []
  | fuel + 1, indent, value => do
      let blanks (count : Nat) : Text := List.replicate count ' '
      match value with
      | .undefined => return "undef"
      | .reference kind place =>
          let package ← classOf? value
          let front : Text := match package, kind with
            | some _, .pattern | none, _ => []
            | some _, _ => "bless( "
          let inner := indent + front.length
          let body ← match kind with
            | .list => do
                let values ← listValues place
                let lines ← values.mapM fun value => do
                  return blanks (inner + 2) ++ (← written sorts fuel (inner + 2) value)
                if lines.isEmpty then pure "[]".toList
                else pure ("[\n".toList ++ List.intercalate ",\n".toList lines ++ '\n' ::
                  blanks inner ++ [']'])
            | .table => do
                let entries := (← tableAt place).entries
                let entries := if sorts then
                  entries.mergeSort fun left right => Text.atMost left.1 right.1 else entries
                let lines ← entries.mapM fun (key, place) => do
                  let lead := quotedText key ++ " => ".toList
                  let value ← written sorts fuel (inner + 2 + lead.length) (← scalarAt place)
                  return blanks (inner + 2) ++ lead ++ value
                if lines.isEmpty then pure "\x7b\x7d".toList
                else pure ("\x7b\n".toList ++ List.intercalate ",\n".toList lines ++ '\n' ::
                  blanks inner ++ ['\x7d'])
            | .scalar => do
                pure ('\\' :: (← written sorts fuel (inner + 2) (← scalarAt place)))
            | .routine => pure "sub \x7b \"DUMMY\" \x7d".toList
            | .handle => pure "\\*\x7b'::$fh'\x7d".toList
            | .pattern => do
                pure ("qr/".toList ++ (← textOf value) ++ ['/'])
          match package, kind with
          | some package, .pattern => do
              let _ := package
              return body
          | some package, _ =>
              return front ++ body ++ ", ".toList ++ quotedText package ++ " )".toList
          | none, _ => return body
      | .whole number =>
          let text := Text.ofInt number
          return if isPlainNumber text then text else quotedText text
      | value =>
          let text ← textOf value
          return if isPlainNumber text && (match value with
            | .text _ => false
            | _ => true) then text else quotedText text

def ofWriting (name : Text) (values : List Value) : Answer := do
  if name != "Dumper" then return none
  let option (name : Text) : Run Value := do
    match (← get).names.get? ("$Data::Dumper::".toList ++ name) with
    | some place => scalarAt place
    | none => return .undefined
  let sorts := (← option "Sortkeys").isTrue
  let isTerse := (← option "Terse").isTrue
  let style ← match ← option "Indent" with
    | .undefined => pure 2
    | value => pure value.toNat
  let texts ← values.zipIdx.mapM fun (value, place) => do
    let lead := "$VAR".toList ++ Text.ofNat (place + 1) ++ " = ".toList
    let text ← written sorts 50 (if isTerse || style != 2 then 0 else 8) value
    let text : Text := if style = 0 then
        ((text.splitOn '\n').map fun line => line.dropWhile (· == ' ')).flatMap fun line =>
          if line.getLast? = some ',' then line else line
      else text
    let ending : Text := if style = 0 && !isTerse then [] else ['\n']
    return if isTerse then text ++ ending else lead ++ text ++ ';' :: ending
  answerText texts.flatten

/-- What a routine of the library gives, unless there is none with that name. -/
def call (evaluator : Evaluator) (name : Text) (arguments : List Nat) (want : Want) : Answer := do
  let name := constant?.lastPart name
  let values ← arguments.mapM scalarAt
  match constant? name with
  | some value => return some [value]
  | none => pure ()
  if let some values ← ofNumbers name values want then return some values
  if let some values ← ofReferences name values then return some values
  if let some values ← ofPaths name values want then return some values
  if let some values ← ofMoments name values want then return some values
  if let some values ← ofCourse evaluator name values then return some values
  if let some values ← ofOctets name values then return some values
  if let some values ← ofArguments evaluator name values then return some values
  ofWriting name values

end Library

end ShaderCost.Script.Sigil
