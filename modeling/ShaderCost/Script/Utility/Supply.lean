import ShaderCost.Script.Process
import ShaderCost.Script.Utility.Finding

/-!
The utility that supplies a program with arguments which are read from the input: words with quotes
and backslashes, or items that a character divides. The program is carried out as often as it takes
to use them all up.
-/

namespace ShaderCost.Script.Utility

namespace Supply

/-- What a call asks for. A later option takes the place of one that it does not go with. -/
structure Setup where
  /-- How many arguments a program gets at most. -/
  most : Option Nat := none
  /-- How many lines of the input a program gets at most. -/
  lines : Option Nat := none
  /-- What is replaced by a line of the input. -/
  mark : Option Text := none
  /-- The word that ends the input. -/
  ending : Option Text := none
  /-- The character between items. -/
  separator : Option Char := none
  /-- How long a command may be, with one character more for each word. -/
  size : Nat := 131072
  path : Option Text := none
  /-- The variable that tells a program its place among those that are carried out at a time. -/
  slot : Option Text := none
  isShown : Bool := false
  /-- Whether somebody is asked before a program is carried out. There is nobody. -/
  isAsked : Bool := false
  needsItems : Bool := false
  /-- Whether a command that is too long with the arguments asked for is an error. -/
  isStrict : Bool := false

def options : Options := ⟨"0eilortpx\x02", "aEeIiLlnsPd\x01", [
  ("null", '0'), ("arg-file", 'a'), ("delimiter", 'd'), ("eof", 'e'), ("replace", 'i'),
  ("max-lines", 'l'), ("max-args", 'n'), ("open-tty", 'o'), ("interactive", 'p'),
  ("no-run-if-empty", 'r'), ("max-chars", 's'), ("verbose", 't'), ("exit", 'x'),
  ("max-procs", 'P'), ("process-slot-var", '\x01'), ("show-limits", '\x02')], 1⟩

/-- The greatest length of a command that can be asked for. -/
def greatestSize : Nat := 2094999

/-- Reads the number of an option, from which follows what is left to do or what is said of it. -/
def number? (letter : Char) (least : Int) (text : Text) : Except Text Int :=
  let trimmed := text.dropWhile isBlankOctet
  let (sign, digits) : Int × Text := match trimmed with
    | '-' :: rest => (-1, rest)
    | '+' :: rest => (1, rest)
    | rest => (1, rest)
  if digits.isEmpty || !digits.all Char.isDigit then
    .error ("invalid number \"".toList ++ text ++ "\" for -".toList ++ letter ::
      " option".toList)
  else
    let value := sign * (digitsIn 10 digits : Nat)
    if value < least then
      .error ("value ".toList ++ text ++ " for -".toList ++ letter ::
        " option should be >= ".toList ++ Text.ofInt least)
    else .ok value

/-- The characters that letters behind a backslash stand for. -/
def escapes : List (Char × Char) := controlLetters.map fun (c, letter) => (letter, c)

/-- The character that a specification of a separator stands for. -/
def separator? (text : Text) : Except Text Char :=
  let invalid (digits : Text) (isOctal : Bool) : Except Text Char :=
    let digitsLeft := digits.dropWhile fun c =>
      if isOctal then '0' ≤ c && c ≤ '7' else isHexDigit c
    let behind : Text :=
      if !digitsLeft.isEmpty then "trailing characters ".toList ++ digitsLeft ++
        " not recognised.".toList
      else "character values must not exceed ".toList ++
        (if isOctal then "377." else "ff.").toList
    .error ("Invalid escape sequence ".toList ++ text ++
      " in input delimiter specification; ".toList ++ behind)
  match text with
  | [c] => .ok c
  | '\\' :: 'x' :: digits =>
      let value := digitsIn 16 digits
      if digits.all isHexDigit && value < 256 then .ok (Char.ofNat value)
      else invalid digits false
  | ['\\', c] =>
      if c.isDigit then
        if c < '8' then .ok (Char.ofNat (digitValue c)) else invalid [c] true
      else if c = '\\' then .ok c
      else match escapes.lookup c with
        | some made => .ok made
        | none => .error ("Invalid escape sequence ".toList ++ text ++
            " in input delimiter specification.".toList)
  | '\\' :: c :: digits =>
      if c.isDigit then
        let all := c :: digits
        if all.all fun c => '0' ≤ c && c ≤ '7' then
          let value := digitsIn 8 all
          if value < 256 then .ok (Char.ofNat value) else invalid all true
        else invalid all true
      else .error ("Invalid escape sequence ".toList ++ text ++
        " in input delimiter specification.".toList)
  | _ => .error ("Invalid input delimiter specification ".toList ++ text ++
      (": the delimiter must be either a single character or an escape sequence starting with " ++
        "\\.").toList)

/-- Says that an option takes the place of an earlier one, if that was there. -/
def displace (name : Text) (isThere : Bool) (earlier later : String) : Step Unit := do
  if isThere then
    complain name ("warning: options ".toList ++ earlier.toList ++ " and ".toList ++
      later.toList ++ " are mutually exclusive, ignoring previous ".toList ++ earlier.toList ++
      " value".toList)

/-- Takes one option into a setup. The status is that of a call that cannot be carried out. -/
def Setup.add (setup : Setup) (name : Text) (letter : Char) (value : Text) :
    Step (Except Nat Setup) := do
  let numbered (least : Int) (work : Nat → Step Setup) : Step (Except Nat Setup) := do
    match number? letter least value with
    | .ok number => return .ok (← work number.toNat)
    | .error problem => return .error (← refuse name problem 1)
  let counted (later : String) : Step (Except Nat Setup) := numbered 1 fun count => do
    displace name setup.most.isSome "--max-args" later
    displace name setup.mark.isSome "--replace" later
    return { setup with lines := some count, most := none, mark := none }
  let replacing (mark : Text) : Step (Except Nat Setup) := do
    displace name setup.most.isSome "--max-args" "--replace/-I/-i"
    displace name setup.lines.isSome "--max-lines" "--replace/-I/-i"
    return .ok { setup with mark := some mark, most := none, lines := none }
  match letter with
  | '0' => return .ok { setup with separator := some '\x00' }
  | 'a' => return .ok { setup with path := some value }
  | 'd' =>
      match separator? value with
      | .ok separator => return .ok { setup with separator := some separator }
      | .error problem =>
          complain name problem
          return .error 1
  | 'E' | 'e' => return .ok { setup with ending := if value.isEmpty then none else some value }
  | 'I' => replacing value
  | 'i' => replacing (if value.isEmpty then "\x7b\x7d" else value)
  | 'L' => counted "-L"
  | 'l' =>
      if value.isEmpty then
        displace name setup.most.isSome "--max-args" "--max-lines/-l"
        displace name setup.mark.isSome "--replace" "--max-lines/-l"
        return .ok { setup with lines := some 1, most := none, mark := none }
      else counted "--max-lines/-l"
  | 'n' => numbered 1 fun count => do
      displace name setup.lines.isSome "--max-lines" "--max-args/-n"
      if count = 1 && setup.mark.isSome then return { setup with lines := none }
      displace name setup.mark.isSome "--replace" "--max-args/-n"
      return { setup with most := some count, lines := none, mark := none }
  | 's' =>
      match number? letter 1 value with
      | .ok number =>
          if greatestSize < number.toNat then
            complain name ("value ".toList ++ value ++ " for -s option should be <= ".toList ++
              Text.ofNat greatestSize)
          return .ok { setup with size := min greatestSize number.toNat }
      | .error problem =>
          if (Text.after? "value" problem).isSome then
            complain name problem
            return .ok { setup with size := 1 }
          else return .error (← refuse name problem 1)
  | 'P' => numbered 0 fun _ => return setup
  | 'r' => return .ok { setup with needsItems := true }
  | 't' => return .ok { setup with isShown := true }
  | 'p' => return .ok { setup with isAsked := true }
  | 'x' => return .ok { setup with isStrict := true }
  | '\x01' => return .ok { setup with slot := some value }
  | _ => return .ok setup

/-- Takes options into a setup one after the other. -/
def Setup.addAll (setup : Setup) (name : Text) : List (Char × Text) → Step (Except Nat Setup)
  | [] => return .ok setup
  | (letter, value) :: rest => do
      match ← setup.add name letter value with
      | .ok setup => setup.addAll name rest
      | .error status => return .error status

/-! Reading. -/

/-- Why reading came to its end. -/
inductive Ending where
  | done
  | unmatched (quote : Char)
  | tooLong
  deriving DecidableEq

/-- A piece of the input: a word, or the end of a line that holds words and has no blank at its
end. -/
inductive Item where
  | word (text : Text)
  | lineEnd

/-- How far a reading of words came. -/
structure Reading where
  /-- The word that is being read, its last character first. -/
  reversed : Text := []
  /-- Whether a word has begun. -/
  hasBegun : Bool := false
  quote : Option Char := none
  isEscaped : Bool := false
  /-- The character before. -/
  before : Char := '\n'
  /-- Whether no word of the line was read yet. -/
  isFirst : Bool := true

/-- The pieces of an input, behind those that were found before, the last one first. With
`wholeLines`, blanks do not divide words. -/
def pieces (wholeLines : Bool) (ending : Option Text) (room : Nat) :
    (found : List Item) → Reading → Text → List Item × Ending
  | found, reading, [] =>
      match reading.quote with
      | some quote => (found.reverse, .unmatched quote)
      | none =>
          let word := reading.reversed.reverse
          if !reading.hasBegun || (reading.isFirst && ending = some word) then
            (found.reverse, .done)
          else ((.word word :: found).reverse, .done)
  | found, reading, c :: rest =>
      let isBlank (c : Char) : Bool := c = ' ' || c = '\t'
      let goOn (reading : Reading) : List Item × Ending :=
        pieces wholeLines ending room found { reading with before := c } rest
      let put (reading : Reading) : List Item × Ending :=
        if room ≤ reading.reversed.length then (found.reverse, .tooLong)
        else goOn { reading with reversed := c :: reading.reversed, hasBegun := true }
      let finish (isFirst endsLine : Bool) : List Item × Ending :=
        let word := reading.reversed.reverse
        if ending = some word then (found.reverse, .done)
        else
          let found := .word word :: found
          let found := if endsLine && !isBlank reading.before then .lineEnd :: found else found
          pieces wholeLines ending room found { before := c, isFirst } rest
      match reading.quote, reading.isEscaped with
      | some quote, _ =>
          if c = '\n' then (found.reverse, .unmatched quote)
          else if c = quote then goOn { reading with quote := none }
          else put reading
      | none, true => put { reading with isEscaped := false }
      | none, false =>
          if !reading.hasBegun && isBlankOctet c then goOn reading
          else if c = '\n' then finish true true
          else if !wholeLines && isBlank c then finish false false
          else if c = '\\' then goOn { reading with isEscaped := true, hasBegun := true }
          else if c = '\'' || c = '"' then goOn { reading with quote := some c, hasBegun := true }
          else put reading

/-- The items of an input between which a character stands, each of them a line. -/
def divided (separator : Char) (text : Text) : List Item :=
  let parts := text.splitOn separator
  let parts := if parts.getLast? = some [] then parts.dropLast else parts
  parts.flatMap fun part => [.word part, .lineEnd]

/-! Carrying out. -/

/-- What programs are carried out with. -/
structure Host where
  name : Text
  start : Starter
  setup : Setup

/-- How a program came out: the status of all so far, and whether another one may follow. -/
abbrev Outcome := Nat × Bool

/-- Carries out a program with arguments and waits for it. -/
def Host.carryOut (host : Host) (status : Nat) (command : List Text) : Step Outcome := do
  let shown := List.intercalate [' '] (command.map shellWord)
  if host.setup.isAsked then
    let _ ← write standardError shown
    complain host.name "failed to open /dev/tty for reading: No such device or address"
    return (1, false)
  if host.setup.isShown then report shown
  match command with
  | [] => return (status, true)
  | program :: arguments =>
      match ← host.start.obstacle? program with
      | some (cause, refusal) =>
          complain host.name (program ++ ": ".toList ++ cause)
          return (refusal, false)
      | none =>
          let (finished, _) ← Script.carryOut [] do
            if host.setup.path.isNone then setChannel standardInput (some .null)
            match host.setup.slot with
            | some slot => modify fun shell =>
                shell.setBinding slot (some (.plain ['0'] true))
            | none => pure ()
            let (_, status) ← host.start program arguments
            setStatus status
            throw .exited
          match finished.signal with
          | some signal =>
              complain host.name (program ++ ": terminated by signal ".toList ++
                Text.ofNat signal)
              return (125, false)
          | none =>
              if finished.status = 255 then
                complain host.name (program ++ ": exited with status 255; aborting".toList)
                return (124, false)
              else return (if finished.status = 0 then status else 123, true)

/-- The length of words as a command counts it. -/
def lengthOf (words : List Text) : Nat :=
  words.foldl (fun length word => length + word.length + 1) 0

/-- Words that wait to be handed to a program. -/
structure Batch where
  /-- The last word first. -/
  reversed : List Text := []
  lines : Nat := 0
  status : Nat := 0
  hasRun : Bool := false

/-- Hands over what waits. -/
def Host.handOver (host : Host) (fixed : List Text) (batch : Batch) : Step (Batch × Bool) := do
  let (status, goesOn) ← host.carryOut batch.status (fixed ++ batch.reversed.reverse)
  return ({ reversed := [], lines := 0, status, hasRun := true }, goesOn)

/-- Hands over items in batches. The second value tells whether reading may go on. -/
def Host.feed (host : Host) (fixed : List Text) : List Item → Batch → Step (Batch × Bool)
  | [], batch => return (batch, true)
  | .lineEnd :: rest, batch => do
      let batch := { batch with lines := batch.lines + 1 }
      if host.setup.lines.any (· ≤ batch.lines) then
        if batch.reversed.isEmpty then host.feed fixed rest { batch with lines := 0 }
        else
          let (batch, goesOn) ← host.handOver fixed batch
          if goesOn then host.feed fixed rest batch else return (batch, false)
      else host.feed fixed rest batch
  | .word word :: rest, batch => do
      let isTooLong (batch : Batch) : Bool :=
        host.setup.size < lengthOf fixed + lengthOf batch.reversed + word.length + 1
      let refused (problem : String) : Step (Batch × Bool) := do
        complain host.name problem
        return ({ batch with reversed := [], status := 1, hasRun := true }, false)
      let (batch, goesOn) ←
        if isTooLong batch then
          if batch.reversed.isEmpty then
            return ← refused "cannot fit single argument within argument list size limit"
          else if host.setup.isStrict && (host.setup.lines.isSome || host.setup.most.isSome) then
            return ← refused "argument list too long"
          else host.handOver fixed batch
        else pure (batch, true)
      if !goesOn then return (batch, false)
      if isTooLong batch then
        return ← refused "cannot fit single argument within argument list size limit"
      let batch := { batch with reversed := word :: batch.reversed }
      if host.setup.most.any (· ≤ batch.reversed.length) then
        let (batch, goesOn) ← host.handOver fixed batch
        if goesOn then host.feed fixed rest batch else return (batch, false)
      else host.feed fixed rest batch

/-- A text with another one in the place of every occurrence of a mark. -/
def replaceAll (mark replacement : Text) : (fuel : Nat) → Text → Text
  | 0, text => text
  | _ + 1, [] => []
  | fuel + 1, c :: rest =>
      match Text.after? mark (c :: rest) with
      | some behind => replacement ++ replaceAll mark replacement fuel behind
      | none => c :: replaceAll mark replacement fuel rest

/-- Carries out the program once for each item, which takes the place of the mark. -/
def Host.feedEach (host : Host) (mark program : Text) (fixed : List Text) :
    List Item → (status : Nat) → Step Outcome
  | [], status => return (status, true)
  | .lineEnd :: rest, status => host.feedEach mark program fixed rest status
  | .word word :: rest, status => do
      let words := fixed.map fun text => replaceAll mark word (text.length + 1) text
      if mark.isEmpty || host.setup.size < lengthOf (program :: words) then
        complain host.name "command too long"
        return (1, false)
      let (status, goesOn) ← host.carryOut status (program :: words)
      if goesOn then host.feedEach mark program fixed rest status else return (status, false)

/-- Reads the input and carries out the program. -/
def Host.run (host : Host) (command : List Text) (text : Text) : Step Nat := do
  let { name, setup, .. } := host
  let isWhole := setup.mark.isSome
  let room := setup.size - 1 - (if isWhole then 0 else lengthOf command)
  let (items, ending) : List Item × Ending := match setup.separator with
    | some separator => (divided separator text, .done)
    | none => pieces isWhole setup.ending (max 1 room) [] {} text
  let hasZero := setup.separator != some '\x00' && items.any fun item => match item with
    | .word word => word.elem '\x00'
    | .lineEnd => false
  if hasZero then
    complain name ("WARNING: a NUL character occurred in the input.  It cannot be passed " ++
      "through in the argument list.  Did you mean to use the --null option?").toList
  let items := items.map fun item => match item with
    | .word word => .word (word.takeWhile (· != '\x00'))
    | .lineEnd => .lineEnd
  let isTooLong := setup.mark.isNone && setup.size < lengthOf command
  if isTooLong then
    complain name "cannot fit single argument within argument list size limit"
    return 1
  let (batch, goesOn) ← match setup.mark, command with
    | some mark, program :: fixed => do
        let (status, goesOn) ← host.feedEach mark program fixed items 0
        pure (({ status, hasRun := true } : Batch), goesOn)
    | _, _ => host.feed command items {}
  if !goesOn then return batch.status
  match ending with
  | .done =>
      let isDue := !batch.reversed.isEmpty ||
        (!batch.hasRun && !setup.needsItems && setup.mark.isNone)
      if isDue then
        let (batch, _) ← host.handOver command batch
        return batch.status
      else return batch.status
  | problem =>
      let (batch, goesOn) ←
        if batch.reversed.isEmpty then pure (batch, true) else host.handOver command batch
      if !goesOn then return batch.status
      match problem with
      | .unmatched quote =>
          let kind : Text := if quote = '"' then "double" else "single"
          complain name ("unmatched ".toList ++ kind ++
            (" quote; by default quotes are special to xargs unless you use the -0 " ++
              "option").toList)
      | _ => complain name "argument line too long"
      return 1

end Supply

/-- Carries out a program with arguments from the input. -/
def xargs (start : Starter) : Utility := fun name arguments => do
  match Supply.options.read true (arguments.length + 1) arguments with
  | .error problem => refuse name problem 1
  | .ok call =>
      match ← ({} : Supply.Setup).addAll name call.options with
      | .error status => return status
      | .ok setup =>
          if setup.separator.isSome && setup.ending.isSome then
            complain name "warning: the -E option has no effect if -0 or -d is used.\n"
          let host : Supply.Host := ⟨name, start, setup⟩
          let command := if call.operands.isEmpty then ["echo".toList] else call.operands
          match setup.path with
          | none => host.run command (← readInput false)
          | some path =>
              match ← content path with
              | .ok text => host.run command text
              | .error error =>
                  complain name ("Cannot open input file ".toList ++ nameInQuotes path ++
                    ": ".toList ++ wording error)
                  return 1

end ShaderCost.Script.Utility
