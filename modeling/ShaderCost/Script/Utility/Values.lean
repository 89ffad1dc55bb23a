import ShaderCost.Script.Condition
import ShaderCost.Script.Format
import ShaderCost.Script.Basic
import ShaderCost.Script.Utility.Basic

/-!
Utilities on values: names of paths, sequences of numbers, durations, variables and conditions.
-/

namespace ShaderCost.Script.Utility

/-- A utility that needs an operand at least. -/
def withOperands (known : Options) (work : (name : Text) → Call → Step Nat) : Utility :=
  withCall known fun name call =>
    if call.operands.isEmpty then refuse name "missing operand" known.refusal
    else work name call

def succeed : Utility := fun _ _ => return 0

def failAlways : Utility := fun _ _ => return 1

/-- Prints its arguments. -/
def echo : Utility := fun _ arguments => do
  print (Format.plainEcho false true arguments)
  return 0

/-- Prints its arguments as the first of them says. -/
def printf : Utility := fun name arguments => do
  match if arguments.head? = some "--".toList then arguments.tail else arguments with
  | [] => refuse name "missing operand" 1
  | format :: arguments =>
      let (text, warnings, failure) := Format.printf format arguments
      print text
      for warning in warnings do
        match Text.splitAt? ':' warning with
        | some (argument, ' ' :: 'e' :: rest) =>
            complain name (nameInQuotes argument ++ ": e" ++
              ((Text.after? "xpected numeric" rest).map fun behind =>
                "xpected a numeric".toList ++ behind).getD rest)
        | _ => complain name warning
      match failure with
      | some problem =>
          complain name problem
          return 1
      | none => return if warnings.isEmpty then 0 else 1

/-- Tells whether a condition holds. -/
def test : Utility := fun name arguments => do
  let isBracket := name.getLast? = some '['
  if isBracket && arguments.getLast? != some [']'] then
    complain name "missing ']'"
    return 2
  match Condition.holds (← get).tree (if isBracket then arguments.dropLast else arguments) with
  | .ok holds => return if holds then 0 else 1
  | .error problem =>
      complain name problem
      return 2

/-! Names of paths. -/

/-- A path without the slashes at its end. -/
def withoutSlashes (path : Text) : Text := (path.reverse.dropWhile (· == '/')).reverse

/-- The last name of a path, without an ending unless nothing else would be left. -/
def lastName (ending path : Text) : Text :=
  let trimmed := withoutSlashes path
  let name := (trimmed.reverse.takeWhile (· != '/')).reverse
  let name := if name.isEmpty && !path.isEmpty then ['/'] else name
  if !ending.isEmpty && name != ending && Text.endsWith ending name then
    name.take (name.length - ending.length)
  else name

def basenameOptions : Options :=
  ⟨"az", "s", [("multiple", 'a'), ("suffix", 's'), ("zero", 'z')], 1⟩

def basename : Utility :=
  withOperands basenameOptions fun name call => do
    let shown (ending path : Text) : Step Unit := print (lastName ending path ++ ['\n'])
    if call.has 'a' || call.has 's' then
      for path in call.operands do shown ((call.value? 's').getD []) path
      return 0
    else match call.operands with
      | path :: rest =>
          match rest.drop 1 with
          | extra :: _ => refuse name ("extra operand " ++ nameInQuotes extra) 1
          | [] =>
              shown (rest.headD []) path
              return 0
      | [] => return 1

/-- What comes before the last name of a path. -/
def directoryOf (path : Text) : Text :=
  let trimmed := withoutSlashes path
  let above := (trimmed.reverse.dropWhile (· != '/')).reverse
  if '/' ∉ path then ['.']
  else if trimmed.isEmpty then ['/']
  else if above.isEmpty then ['.']
  else
    let above := withoutSlashes above
    if above.isEmpty then ['/'] else above

def dirname : Utility := withOperands ⟨"z", [], [("zero", 'z')], 1⟩ fun _ call => do
  for path in call.operands do print (directoryOf path ++ ['\n'])
  return 0

def pwd : Utility := fun _ _ => do
  let directory := (← get).directory
  let path := if directory.isEmpty then ['/'] else directory.flatMap fun name => '/' :: name
  print (spreadText path ++ ['\n'])
  return 0

/-! Numbers. -/

/-- A number with its count of decimal places; it stands for the value over ten to that count. -/
structure Amount where
  digits : Int
  places : Nat

def Amount.ofText? (text : Text) : Option Amount :=
  let (isNegative, unsigned) : Bool × Text := match text with
    | '-' :: rest => (true, rest)
    | '+' :: rest => (false, rest)
    | _ => (false, text)
  let whole := unsigned.takeWhile Char.isDigit
  let behind := unsigned.drop whole.length
  let places? : Option Text := match behind with
    | [] => some []
    | '.' :: places => if places.all Char.isDigit then some places else none
    | _ => none
  match places? with
  | some places =>
      if whole.isEmpty && places.isEmpty then none
      else
        let value : Int := digitsIn 10 (whole ++ places)
        some ⟨if isNegative then -value else value, places.length⟩
  | none => none

/-- The digits of an amount at a finer count of places. -/
def Amount.at (amount : Amount) (places : Nat) : Int :=
  amount.digits * (digitsIn 10 ('1' :: List.replicate (places - amount.places) '0') : Nat)

/-- Digits with a point before the last of them. -/
def pointed (places width : Nat) (value : Int) : Text :=
  let digits := Text.ofNat value.natAbs
  let digits := List.replicate (places + 1 - digits.length) '0' ++ digits
  let whole := digits.take (digits.length - places)
  let text := if places = 0 then whole else whole ++ '.' :: digits.drop whole.length
  let sign : Text := if value < 0 then ['-'] else []
  sign ++ List.replicate (width - sign.length - text.length) '0' ++ text

/-- Numbers from one to another in equal steps. -/
def steps (last step : Int) : (limit : Nat) → (value : Int) → List Int
  | 0, _ => []
  | limit + 1, value =>
      if (0 < step && last < value) || (step < 0 && value < last) then []
      else value :: steps last step limit (value + step)

/-- Splits options off the front of arguments that may be negative numbers. -/
def sequenceOptions : (fuel : Nat) → List Text → (separator : Text) → (isWide : Bool) →
    Text × Bool × List Text
  | 0, arguments, separator, isWide => (separator, isWide, arguments)
  | fuel + 1, arguments, separator, isWide =>
      match arguments with
      | ['-', 's'] :: value :: rest => sequenceOptions fuel rest value isWide
      | ('-' :: 's' :: value) :: rest => sequenceOptions fuel rest value isWide
      | ['-', 'w'] :: rest => sequenceOptions fuel rest separator true
      | ['-', '-'] :: rest => (separator, isWide, rest)
      | _ => (separator, isWide, arguments)

def seq : Utility := fun name arguments => do
  let (separator, isWide, operands) := sequenceOptions (arguments.length + 1) arguments ['\n'] false
  match operands with
  | [] => refuse name "missing operand" 1
  | _ :: _ :: _ :: extra :: _ => refuse name ("extra operand " ++ nameInQuotes extra) 1
  | _ =>
      match operands.find? fun operand => (Amount.ofText? operand).isNone with
      | some operand =>
          refuse name ("invalid floating point argument: " ++ nameInQuotes operand) 1
      | none =>
          let amounts := operands.filterMap Amount.ofText?
          let one : Amount := ⟨1, 0⟩
          let (first, step, last) : Amount × Amount × Amount := match amounts with
            | [last] => (one, one, last)
            | [first, last] => (first, one, last)
            | [first, step, last] => (first, step, last)
            | _ => (one, one, ⟨0, 0⟩)
          let fine := max first.places (max step.places last.places)
          let places := max first.places step.places
          if step.digits = 0 then
            refuse name ("invalid Zero increment value: " ++
              nameInQuotes ((operands.drop 1).headD [])) 1
          else
            let effort := (← get).machine.effort
            let values := steps (last.at fine) (step.at fine) effort (first.at fine)
            let unit := (Amount.at one (fine - places))
            let texts (width : Nat) := values.map fun value =>
              pointed places width (Int.tdiv value unit)
            let plain := texts 0
            let width := if isWide then plain.foldl (fun width text => max width text.length) 0
              else 0
            if !plain.isEmpty then
              print (List.intercalate separator (texts width) ++ ['\n'])
            return 0

/-- How many milliseconds a duration has, with a letter for its unit. -/
def duration? (text : Text) : Option Nat :=
  let factor? : Option (Nat × Text) := match text.reverse with
    | 's' :: rest => some (1, rest.reverse)
    | 'm' :: rest => some (60, rest.reverse)
    | 'h' :: rest => some (3600, rest.reverse)
    | 'd' :: rest => some (86400, rest.reverse)
    | _ => some (1, text)
  if text = "infinity" || text = "inf" then some 1000000000000
  else do
    let (factor, number) ← factor?
    let amount ← Amount.ofText? number
    if amount.digits < 0 then none
    else
      let scale := digitsIn 10 ('1' :: List.replicate amount.places '0')
      return amount.digits.toNat * factor * 1000 / scale

/-- Lets time go by. -/
def sleep : Utility := withOperands ⟨[], [], [], 1⟩ fun name call => do
  match call.operands.find? fun operand => (duration? operand).isNone with
  | some operand => refuse name ("invalid time interval " ++ nameInQuotes operand) 1
  | none =>
      elapse ((call.operands.filterMap duration?).foldl Nat.add 0)
      return 0

/-! Surroundings. -/

/-- Shows variables. -/
def printenv : Utility := fun _ arguments => do
  let environment := (← get).environment
  if arguments.isEmpty then
    for (name, value) in environment.bindings.reverse do print (name ++ '=' :: value ++ ['\n'])
    return 0
  else
    let mut status := 0
    for name in arguments do
      match environment.get? name with
      | some value => print (value ++ ['\n'])
      | none => status := 1
    return status

/-- Names the system. -/
def uname : Utility := withCall ⟨"asnrvmo", [], [], 1⟩ fun _ call => do
  print (if call.has 'm' then "x86_64\n" else "Linux\n")
  return 0

/-- Shows where programs are. -/
def which : Utility := withCall ⟨"as", [], [], 2⟩ fun _ call => do
  let shell ← get
  let mut status := if call.operands.isEmpty then 1 else 0
  for name in call.operands do
    match SearchPath.find shell.tree (shell.value "PATH") name with
    | .ok path =>
        if SearchPath.isExecutable shell.tree path then print (path ++ ['\n'])
        else status := 1
    | .error _ => status := 1
  return status

end ShaderCost.Script.Utility
