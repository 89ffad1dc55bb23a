import ShaderCost.Script.Redirection

/-!
Utilities: programs of the system that read their arguments, their input and files, print
something and are done. This module holds what they have in common.
-/

namespace ShaderCost.Script

/-- A utility under the name that it was called by. It gives its status. -/
abbrev Utility := (name : Text) → (arguments : List Text) → Step Nat

namespace Utility

/-- The options that a utility knows. A letter that may stand alone and may take a value takes one
only where it is written behind it at once. -/
structure Options where
  /-- The letters that may stand alone. -/
  flags : Text
  /-- The letters that may take a value. -/
  valued : Text
  /-- Words that stand for letters. -/
  words : List (Text × Char)
  /-- The status of a call with an option that there is not. -/
  refusal : Nat

/-- The options and the operands of a call. -/
structure Call where
  options : List (Char × Text)
  operands : List Text

namespace Call

def has (call : Call) (letter : Char) : Bool :=
  call.options.any fun option => option.1 = letter

/-- The value of an option that was given last. -/
def value? (call : Call) (letter : Char) : Option Text :=
  (call.options.reverse.find? fun option => option.1 = letter).map Prod.snd

def add (call : Call) (letter : Char) (value : Text) : Call :=
  { call with options := (letter, value) :: call.options }

end Call

namespace Options

/-- The letter that a word stands for, which may be cut short as long as it is clear. -/
def letterOf (known : Options) (argument name : Text) : Except Text Char :=
  match known.words.lookup name with
  | some letter => .ok letter
  | none =>
      match known.words.filter fun (word, _) => name.isPrefixOf word with
      | [] => .error ("unrecognized option '" ++ argument ++ "'")
      | (word, letter) :: others =>
          if others.all fun (_, other) => other = letter then .ok letter
          else
            let shown := ((word, letter) :: others).flatMap fun (word, _) =>
              " '--".toList ++ word ++ ['\'']
            .error ("option '--".toList ++ name ++ "' is ambiguous; possibilities:".toList ++ shown)

/-- Reads arguments. Operands may stand before options, unless `inOrder` is set. -/
def read (known : Options) (inOrder : Bool) : (fuel : Nat) → List Text → Except Text Call
  | 0, _ | _ + 1, [] => .ok ⟨[], []⟩
  | fuel + 1, argument :: rest =>
      match argument with
      | ['-', '-'] => .ok ⟨[], rest⟩
      | '-' :: '-' :: word => do
          let name := word.takeWhile (· != '=')
          let letter ← letterOf known argument name
          let value? : Option Text :=
            if name.length < word.length then some (word.drop (name.length + 1)) else none
          let mayStandAlone := known.flags.elem letter || !known.valued.elem letter
          match value? with
          | some value =>
              if !known.valued.elem letter then
                throw ("option '--".toList ++ name ++ "' doesn't allow an argument".toList)
              return (← read known inOrder fuel rest).add letter value
          | none =>
              if mayStandAlone then return (← read known inOrder fuel rest).add letter []
              else match rest with
                | value :: rest => return (← read known inOrder fuel rest).add letter value
                | [] => throw ("option '--".toList ++ name ++ "' requires an argument".toList)
      | '-' :: letter :: letters => readLetters fuel (letter :: letters) rest
      | _ =>
          if inOrder then .ok ⟨[], argument :: rest⟩
          else do
            let call ← read known inOrder fuel rest
            return { call with operands := argument :: call.operands }
where
  readLetters (fuel : Nat) : Text → List Text → Except Text Call
    | [], rest => read known inOrder fuel rest
    | letter :: letters, rest =>
        let isFlag := known.flags.elem letter
        if known.valued.elem letter then
          if !letters.isEmpty || isFlag then do
            return (← read known inOrder fuel rest).add letter letters
          else match rest with
            | value :: rest => do return (← read known inOrder fuel rest).add letter value
            | [] => .error ("option requires an argument -- '" ++ letter :: "'".toList)
        else if isFlag then do
          return (← readLetters fuel letters rest).add letter []
        else .error ("invalid option -- '" ++ letter :: "'".toList)

end Options

/-- Complains under the name of a utility. -/
def complain (name problem : Text) : Step Unit := report (name ++ ": " ++ problem)

/-- Complains of the way a utility was called. -/
def refuse (name problem : Text) (status : Nat) : Step Nat := do
  complain name problem
  report ("Try '" ++ name ++ " --help' for more information.")
  return status

/-- A utility that works on the options and operands of its call. -/
def withCall (known : Options) (work : (name : Text) → Call → Step Nat) : Utility :=
  fun name arguments =>
    match known.read false (arguments.length + 1) arguments with
    | .ok call => work name call
    | .error problem => refuse name problem known.refusal

/-- The wording of an error without its number. -/
def wording (error : FileError) : Text := (error.system?.map Prod.fst).getD error.message

/-! Names in messages. -/

/-- The letters that control characters have behind a backslash. -/
def controlLetters : List (Char × Char) := [
  ('\x07', 'a'), ('\x08', 'b'), ('\t', 't'), ('\n', 'n'), ('\x0b', 'v'), ('\x0c', 'f'),
  ('\r', 'r')]

/-- Whether a character has a picture. -/
def isPicture (c : Char) : Bool := ' ' ≤ c && c ≤ '~'

/-- A character that has no picture, behind a backslash. -/
def spelledOut (c : Char) : Text :=
  match controlLetters.lookup c with
  | some letter => ['\\', letter]
  | none =>
      let digits := Nat.toDigits 8 c.toNat
      '\\' :: List.replicate (3 - digits.length) '0' ++ digits

/-- A text between quotes, with backslashes where it holds quotes or backslashes itself. -/
def nameInQuotes (text : Text) : Text :=
  let inner := text.flatMap fun c =>
    if c = '\'' || c = '\\' then ['\\', c]
    else if isPicture c then [c]
    else spelledOut c
  '\'' :: inner ++ ['\'']

/-- A text between quotes as a shell reads it. Characters without pictures stand between quotes of
their own, with a dollar sign in front. -/
def wordInQuotes (text : Text) : Text :=
  let isPlain (c : Char) : Bool := c.isAlphanum || c = '\'' || c ∈ " %+,-./:]_@\x7b\x7d".toList
  let fitsDouble := text.elem '\'' && match text with
    | c :: rest => (isPlain c || c = '#' || c = '~') && rest.all isPlain
    | [] => false
  if fitsDouble then '"' :: text ++ ['"']
  else '\'' :: go text false
where
  go : Text → (isSpelling : Bool) → Text
    | [], _ => ['\'']
    | c :: rest, isSpelling =>
        if isPicture c then
          let opened : Text := if isSpelling then "''" else []
          let shown : Text := if c = '\'' then "'\\''" else [c]
          opened ++ shown ++ go rest false
        else
          let opened : Text := if isSpelling then [] else "'$'"
          opened ++ spelledOut c ++ go rest true

/-- A text as a word of a shell, between quotes only where it takes them. -/
def shellWord (text : Text) : Text :=
  let isSafe (c : Char) : Bool := c.isAlphanum || c ∈ "%+,-./:]_@\x7b\x7d".toList
  let isProper := match text with
    | [] => false
    | [c] => isSafe c && c != '\x7b' && c != '\x7d'
    | c :: rest => isSafe c && rest.all fun d => isSafe d || d = '#' || d = '~'
  if isProper then text else wordInQuotes text

/-- A text as messages show it: a word of a shell, with quotes where it holds a colon too. -/
def plainWord (text : Text) : Text :=
  if text.elem ':' then wordInQuotes text else shellWord text

/-- Refuses a value that is none of the words that an option takes. Words in one group mean the
same. -/
def refuseChoice (name option value : Text) (groups : List (List Text)) (status : Nat) :
    Step Nat := do
  complain name ("invalid argument ".toList ++ nameInQuotes value ++ " for ".toList ++
    nameInQuotes option)
  report "Valid arguments are:"
  for group in groups do
    report ("  - ".toList ++ List.intercalate ", ".toList (group.map nameInQuotes))
  report ("Try '" ++ name ++ " --help' for more information.")
  return status

/-- The group that a word belongs to, which may be cut short as long as it is clear. -/
def choice? (groups : List (List Text)) (word : Text) : Option Text :=
  match groups.find? fun group => group.elem word with
  | some group => group.head?
  | none =>
      match groups.filter fun group => group.any fun known => word.isPrefixOf known with
      | [group] => group.head?
      | _ => none

/-! Sizes. -/

/-- What letters behind a number multiply it by: a thousand or 1024 to some power. -/
def powerOf? (letter : Char) : Option Nat :=
  (("kmgtpezyrq".toList.zipIdx.find? fun (known, _) => known = letter.toLower).map fun entry =>
    entry.2 + 1)

/-- Why a text is no size. -/
inductive SizeFlaw where
  | malformed
  | badSuffix
  | tooLarge
  /-- The number lies outside of what is allowed, but not far. -/
  | outOfRange
  deriving DecidableEq

/-- The greatest number that a size comes to. -/
def greatestSize : Nat := 18446744073709551615

/-- The number that a text spells, with letters for factors behind it. A letter by itself stands
for its factor. -/
def scaledSize? (suffixes : Text) (text : Text) : Except SizeFlaw Nat :=
  let text := text.dropWhile isBlankOctet
  let text := if text.head? = some '+' then text.drop 1 else text
  let digits := text.takeWhile Char.isDigit
  let behind := text.drop digits.length
  let count? : Option Nat :=
    if !digits.isEmpty then some (digitsIn 10 digits)
    else if behind.head?.any fun c => suffixes.elem c then some 1
    else none
  match count?, behind with
  | none, _ => .error .malformed
  | some count, [] => if greatestSize < count then .error .tooLarge else .ok count
  | some count, letter :: rest =>
      if !suffixes.elem letter then .error .badSuffix
      else
        let (base, rest) : Nat × Text :=
          if !suffixes.elem '0' then (1024, rest)
          else match rest with
            | 'i' :: 'B' :: rest => (1024, rest)
            | 'B' :: rest | 'D' :: rest => (1000, rest)
            | rest => (1024, rest)
        let factor? : Option Nat :=
          if letter = 'b' then some 512
          else if letter = 'B' then some 1024
          else if letter = 'c' then some 1
          else if letter = 'w' then some 2
          else (powerOf? letter).map fun power => (List.replicate power base).foldl Nat.mul 1
        match factor?, rest with
        | some factor, [] =>
            if greatestSize < count * factor then .error .tooLarge else .ok (count * factor)
        | _, _ => .error .badSuffix

/-- The whole number that a text spells, if it lies within bounds. -/
def boundedNumber? (least most : Int) (text : Text) : Except SizeFlaw Int :=
  let trimmed := text.dropWhile isBlankOctet
  let (sign, digits) : Int × Text := match trimmed with
    | '-' :: rest => (-1, rest)
    | '+' :: rest => (1, rest)
    | rest => (1, rest)
  if digits.isEmpty || !digits.all Char.isDigit || (sign < 0 && 0 ≤ least && most = greatestSize)
  then .error .malformed
  else
    let value := sign * (digitsIn 10 digits : Nat)
    if value < least then
      .error (if value < -1073741824 then .tooLarge else .outOfRange)
    else if most < value then
      .error (if 1073741823 < value then .tooLarge else .outOfRange)
    else .ok value

/-- What is said of a size that cannot be used. -/
def sizeProblem (what text : Text) (flaw : SizeFlaw) : Text :=
  let tail : Text := match flaw with
    | .tooLarge => ": Value too large for defined data type"
    | .outOfRange => ": Numerical result out of range"
    | .malformed | .badSuffix => []
  what ++ ": ".toList ++ nameInQuotes text ++ tail

/-- The content of a file, or of the input for a dash. -/
def content (path : Text) : Step (Except FileError Text) := do
  if path = "-" then return .ok (← readInput false)
  let shell ← get
  match shell.tree.find (shownText path) with
  | .ok (.stream 0) => return .ok (← readInput false)
  | .ok (.stream number) => return .ok (← readPart number fun _ => none)
  | .ok (.file octets _) =>
      spend (octets.size / charactersPerTurn)
      return .ok (spread octets)
  | .ok (.directory _) => return .error .isDirectory
  | .ok _ => return .ok []
  | .error error => return .error error

/-- The content of a file; one that cannot be read is complained of. -/
def contentOrComplain (name path : Text) : Step (Option Text) := do
  match ← content path with
  | .ok text => return some text
  | .error error =>
      complain name (plainWord path ++ ": " ++ wording error)
      return none

/-- Does something for the content of each operand or, without operands, for the input. -/
def forContents (name : Text) (paths : List Text) (work : (path content : Text) → Step Unit) :
    Step Nat := do
  let mut status := 0
  for path in if paths.isEmpty then ["-".toList] else paths do
    match ← contentOrComplain name path with
    | some text => work path text
    | none => status := 1
  return status

/-- The lines of a text, each with the line feed that ends it. -/
def endedLines (text : Text) : List Text := go text [] []
where
  go : Text → (line : Text) → (before : List Text) → List Text
    | [], line, before => (if line.isEmpty then before else line.reverse :: before).reverse
    | c :: rest, line, before =>
        if c = '\n' then go rest [] (('\n' :: line).reverse :: before)
        else go rest (c :: line) before

/-- The lines of a text without line feeds. -/
def bareLines (text : Text) : List Text :=
  (endedLines text).map fun line =>
    if line.getLast? = some '\n' then line.dropLast else line

def joinLines (lines : List Text) : Text := lines.flatMap fun line => line ++ ['\n']

/-- A text with blanks before it to fill a width. -/
def padLeft (width : Nat) (text : Text) : Text :=
  List.replicate (width - text.length) ' ' ++ text

end Utility

end ShaderCost.Script
