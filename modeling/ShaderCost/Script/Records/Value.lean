import ShaderCost.Script.Expression.Reader
import ShaderCost.Script.Format

/-!
Programs that work on records: rules, each with a guard and an action. Records are parted into
fields; names lead to values or to tables of values.
-/

namespace ShaderCost.Script.Records

/-- Where a name leads: to a place that all of a program shares, or to one of the routine under
way. -/
inductive Name where
  | shared (place : Nat)
  | own (place : Nat)
  deriving DecidableEq

inductive Operation where
  | add
  | subtract
  | multiply
  | divide
  | remainder
  | power

inductive Relation where
  | less
  | atMost
  | same
  | different
  | greater
  | atLeast

/-- Functions that every program has and that take only values. -/
inductive Feature where
  | length
  | index
  | substring
  | format
  | search
  | lower
  | upper
  | close
  | system
  | flush
  | sine
  | cosine
  | arcTangent
  | exponential
  | logarithm
  | whole
  | root
  | random
  | seed
  | clock
  | moment
  | secondsOf
  deriving DecidableEq

mutual

inductive Term where
  | number (value : Float)
  | text (value : Text)
  /-- Whether an expression occurs in the record, unless its place asks for the expression. -/
  | finding (expression : Expression)
  | load (target : Target)
  | store (operation : Option Operation) (target : Target) (value : Term)
  | step (isBefore isUp : Bool) (target : Target)
  | negative (term : Term)
  | numeric (term : Term)
  | not (term : Term)
  | compute (operation : Operation) (left right : Term)
  | join (left right : Term)
  | compare (relation : Relation) (left right : Term)
  | matching (wanted : Bool) (subject pattern : Term)
  | both (left right : Term)
  | either (left right : Term)
  | choose (condition yes no : Term)
  | contains (table : Name) (key : List Term)
  | call (routine : Nat) (arguments : List Term)
  | feature (feature : Feature) (arguments : List Term)
  | split (subject : Term) (table : Name) (separator : Option Term)
  | replace (all : Bool) (pattern replacement : Term) (target : Target)
  | readNext (target : Option Target)
  | readFile (target : Option Target) (path : Term)
  | readCommand (target : Option Target) (command : Term)
  /-- Several terms in parentheses. -/
  | listed (terms : List Term)

/-- What values are stored in. -/
inductive Target where
  | name (name : Name)
  | element (table : Name) (key : List Term)
  | field (number : Term)

end

instance : Inhabited Term := ⟨.number 0⟩

/-- Where output goes. -/
inductive Outlet where
  | standard
  | file (path : Term)
  | appended (path : Term)
  | command (command : Term)

inductive Statement where
  | block (statements : List Statement)
  | evaluate (term : Term)
  | print (terms : List Term) (outlet : Outlet)
  | printf (terms : List Term) (outlet : Outlet)
  | choose (condition : Term) (yes no : Statement)
  | whileTrue (condition : Term) (body : Statement)
  | doWhile (body : Statement) (condition : Term)
  | loop (start : Option Term) (condition : Option Term) (step : Option Term) (body : Statement)
  | forEach (name table : Name) (body : Statement)
  | breakOff
  | goOn
  | next
  | nextFile
  | exit (status : Option Term)
  | giveBack (value : Option Term)
  | delete (table : Name) (key : List Term)
  | clear (table : Name)

instance : Inhabited Statement := ⟨.block []⟩

structure Routine where
  name : Text
  parameters : List Text
  /-- Which parameters are tables. -/
  tables : List Bool
  body : Statement

instance : Inhabited Routine := ⟨⟨[], [], [], .block []⟩⟩

/-- Which records a rule is for. -/
inductive Guard where
  | all
  | when (condition : Term)
  /-- From a record to another one. The number tells ranges apart. -/
  | range (number : Nat) (first last : Term)

structure Rule where
  guard : Guard
  /-- What is done; without an action the record is printed. -/
  action : Option Statement

structure Program where
  starts : List Statement
  rules : List Rule
  ends : List Statement
  routines : Array Routine
  /-- The names of the places that are shared. -/
  names : List Text
  ranges : Nat

/-! Names with a meaning, which have the first places. -/

def ofFieldCount : Nat := 0
def ofRecordCount : Nat := 1
def ofFileRecordCount : Nat := 2
def ofFieldSeparator : Nat := 3
def ofRecordSeparator : Nat := 4
def ofOutputSeparator : Nat := 5
def ofOutputEnd : Nat := 6
def ofPath : Nat := 7
def ofKeySeparator : Nat := 8
def ofFoundStart : Nat := 9
def ofFoundLength : Nat := 10
def ofNumberFormat : Nat := 11
def ofOutputFormat : Nat := 12
def ofEnvironment : Nat := 13
def ofArgumentCount : Nat := 14
def ofArguments : Nat := 15

def namesWithMeaning : List Text := [
  "NF", "NR", "FNR", "FS", "RS", "OFS", "ORS", "FILENAME", "SUBSEP", "RSTART", "RLENGTH",
  "CONVFMT", "OFMT", "ENVIRON", "ARGC", "ARGV"]

end ShaderCost.Script.Records

/-!
Values of programs on records: numbers, texts, and texts from outside, which count as numbers where
they look like one.
-/

namespace ShaderCost.Script.Records

inductive Value where
  | unset
  | number (value : Float)
  | text (value : Text)
  /-- A text from outside the program. -/
  | input (value : Text)

instance : Inhabited Value := ⟨.unset⟩

def decode (value : Binary64) : Float := Float.ofBits value.bits

/-- What is no number has a sign. -/
def encode (value : Float) : Binary64 := if value.isNaN then .neg .nan else ⟨value.toBits⟩

/-- The greatest whole number that is written with all its digits. -/
def greatestPlain : Nat := 2147483647

/-- Whether a number is a small whole one. -/
def isPlain (value : Float) : Bool :=
  value.floor == value && value.abs ≤ Float.ofNat greatestPlain

/-- A small whole number has its digits as a text. -/
def wholeText? (value : Float) : Option Text :=
  if isPlain value then
    let digits := Text.ofNat value.abs.toUInt64.toNat
    some (if value < 0 then '-' :: digits else digits)
  else none

/-- Whether a text begins and ends, apart from blanks, as a number does. -/
def looksNumeric (text : Text) : Bool :=
  let begins := (text.dropWhile isBlankOctet).head?.any fun c => c.isDigit || "+-.".toList.elem c
  begins && (text.reverse.dropWhile isBlankOctet).head?.any fun c => c.isDigit || c = '.'

/-- The number at the front of a text, and whether the text is nothing but a number. -/
def numberIn (text : Text) : Float × Bool :=
  match Floating.read? text with
  | some reading =>
      (decode reading.value, reading.rest.all isBlankOctet && looksNumeric text)
  | none => (0, false)

namespace Value

def ofBool (value : Bool) : Value := .number (if value then 1 else 0)

def ofNat (value : Nat) : Value := .number (Float.ofNat value)

def toNumber : Value → Float
  | .unset => 0
  | .number value => value
  | .text written | .input written => (numberIn written).1

/-- The number that a value is compared as, unless it is a text. -/
def number? : Value → Option Float
  | .unset => some 0
  | .number value => some value
  | .text _ => none
  | .input written =>
      match numberIn written with
      | (value, true) => some value
      | (_, false) => none

def isTrue : Value → Bool
  | .unset => false
  | .number value => value != 0
  | .text written => !written.isEmpty
  | .input written =>
      match numberIn written with
      | (value, true) => value != 0
      | (_, false) => !written.isEmpty

end Value

/-! Formats. -/

/-- Why a text cannot be made after a format. -/
inductive Fault where
  | tooFewArguments
  | improperConversion (number : Nat)

/-- What was made after a format so far, its last character first. -/
structure Progress where
  reversed : Text
  arguments : List Value

def leastWhole : Int := -9223372036854775807

/-- A number without its places; one that is too large becomes the largest there is. -/
def wholeOf (value : Float) : Int :=
  if value.isNaN then leastWhole - 1
  else if 18446744073709551616.0 ≤ value then 18446744073709551615
  else if value ≤ -9223372036854775808.0 then leastWhole
  else if value < 0 then -((-value).toUInt64.toNat : Int)
  else (value.toUInt64.toNat : Int)

/-- A number without its places, between the greatest one with a sign and its negative. -/
def signedOf (value : Float) : Int := max leastWhole (min (-leastWhole) (wholeOf value))

/-- The octet that a whole number counts to. -/
def octetOf (value : Int) : Char := Char.ofNat (value % 256).toNat

/-- One directive of a format with its value. -/
def directed (toText : Value → Text) (placing : Format.Placing) (directive : Char)
    (value : Value) : Option Text :=
  match directive with
  | 'd' | 'i' => some (placing.integer (signedOf value.toNumber))
  | 'o' | 'u' | 'x' | 'X' =>
      let number := wholeOf value.toNumber
      some (placing.natural directive (number % 18446744073709551616).toNat)
  | 'e' | 'E' | 'f' | 'F' | 'g' | 'G' | 'a' | 'A' =>
      some (placing.floating directive (encode value.toNumber))
  | 'c' =>
      let c := match value with
        | .number number => octetOf (wholeOf number)
        | .input written =>
            match numberIn written with
            | (number, true) => octetOf (wholeOf number)
            | (_, false) => written.headD '\x00'
        | value => (toText value).headD '\x00'
      some (placing.pad [c])
  | 's' =>
      let text := toText value
      some (placing.pad (text.take (placing.precision.getD text.length)))
  | _ => none

/-- The next value that a format is filled with. -/
def takeValue (progress : Progress) : Except Fault (Value × Progress) :=
  match progress.arguments with
  | value :: arguments => .ok (value, { progress with arguments })
  | [] => .error .tooFewArguments

/-- A count in a directive, which may be the next value, and the text behind it. -/
def takeCount (text : Text) (progress : Progress) : Except Fault (Int × Text × Progress) := do
  match text with
  | '*' :: rest =>
      let (value, progress) ← takeValue progress
      return (wholeOf value.toNumber, rest, progress)
  | _ =>
      let digits := text.takeWhile Char.isDigit
      return ((digitsIn 10 digits : Nat), text.drop digits.length, progress)

/-- Letters that say how large a number is. -/
def isSizeLetter (c : Char) : Bool := c = 'l' || c = 'h' || c = 'q' || c = 'L'

/-- A directive behind its mark. -/
def takeDirective (toText : Value → Text) (number : Nat) (text : Text) (progress : Progress) :
    Except Fault (Text × Progress) := do
  let flags := text.takeWhile fun c => "-+ #0".toList.elem c
  let (width, behind, progress) ← takeCount (text.drop flags.length) progress
  let (precision, behind, progress) ← match behind with
    | '.' :: rest => do
        let (count, rest, progress) ← takeCount rest progress
        pure (if count < 0 then none else some count.toNat, rest, progress)
    | _ => pure (none, behind, progress)
  let placing : Format.Placing := {
    left := flags.elem '-' || width < 0
    zeros := flags.elem '0'
    plus := flags.elem '+'
    space := flags.elem ' '
    isAlternate := flags.elem '#'
    width := width.natAbs
    precision }
  match behind.dropWhile isSizeLetter with
  | [] => throw (.improperConversion number)
  | directive :: rest =>
      if directive = '%' then
        return (rest, { progress with reversed := '%' :: progress.reversed })
      let (value, progress) ← takeValue progress
      match directed toText placing directive value with
      | some shown =>
          return (rest, { progress with reversed := shown.reverse ++ progress.reversed })
      | none => throw (.improperConversion number)

/-- Fills a format with values. A fault comes with what was made before it. -/
def fill (toText : Value → Text) : (fuel : Nat) → (number : Nat) → Text → Progress →
    Except (Fault × Text) Text
  | 0, _, _, progress | _ + 1, _, [], progress => .ok progress.reversed.reverse
  | fuel + 1, number, '%' :: rest, progress =>
      match takeDirective toText number rest progress with
      | .ok (rest, progress) => fill toText fuel (number + 1) rest progress
      | .error fault => .error (fault, progress.reversed.reverse)
  | fuel + 1, number, c :: rest, progress =>
      fill toText fuel number rest { progress with reversed := c :: progress.reversed }

/-- A number as a text, in a format that takes one number. -/
def numberText (format : Text) (value : Float) : Text :=
  match wholeText? value with
  | some text => text
  | none =>
      match fill (fun _ => []) (format.length + 1) 1 format ⟨[], [.number value]⟩ with
      | .ok text => text
      | .error (_, text) => text

/-- The text of a value, with numbers in a format. -/
def Value.toText (format : Text) : Value → Text
  | .unset => []
  | .number value => numberText format value
  | .text written | .input written => written

end ShaderCost.Script.Records
