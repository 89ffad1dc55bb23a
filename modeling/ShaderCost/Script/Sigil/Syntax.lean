import ShaderCost.Script.Expression.Rich
import ShaderCost.Script.Sigil.Value
import ShaderCost.Script.Utility.Clock

/-!
Programs whose names carry a mark for the shape of what they hold: terms, statements, and the
routines that a program is made of.
-/

namespace ShaderCost.Script.Sigil

/-- What a name holds. -/
inductive Shape where
  | scalar
  | list
  | table
  deriving DecidableEq

/-- The mark in front of a name. -/
def Shape.sigil : Shape → Char
  | .scalar => '$'
  | .list => '@'
  | .table => '%'

def Shape.kind : Shape → Kind
  | .scalar => .scalar
  | .list => .list
  | .table => .table

inductive Name where
  /-- One that a declaration makes, by its number. -/
  | own (number : Nat)
  /-- One that all of the program shares, in full. -/
  | shared (name : Text)
  deriving DecidableEq

inductive Relation where
  | less
  | atMost
  | same
  | different
  | greater
  | atLeast

namespace Relation

def holds (relation : Relation) (order : Ordering) : Bool :=
  match relation with
  | .less => order = .lt
  | .atMost => order != .gt
  | .same => order = .eq
  | .different => order != .eq
  | .greater => order = .gt
  | .atLeast => order != .lt

end Relation

inductive Operation where
  | add
  | subtract
  | multiply
  | divide
  | remainder
  | power
  | join
  /-- A text, or a list, as many times. -/
  | times
  | shiftUp
  | shiftDown
  | bothBits
  | eitherBits
  | differingBits
  | numbers (relation : Relation)
  | texts (relation : Relation)
  | orderNumbers
  | orderTexts

/-- Ways to go on from a value that depend on it. -/
inductive Junction where
  | both
  | either
  | defined

/-- What a match is asked for beside its expression. -/
structure Asked where
  flags : Expression.Rich.Flags
  /-- All occurrences. -/
  everywhere : Bool
  /-- Whether a failure leaves the place where the next search goes on. -/
  keepsPlace : Bool
  /-- Whether the result is given and the subject left alone. -/
  gives : Bool
  /-- How many times a replacement is evaluated as a program. -/
  evaluations : Nat

/-- What is done with characters one by one. -/
structure Mapping where
  search : Text
  replacement : Text
  isComplement : Bool
  deletes : Bool
  squeezes : Bool
  gives : Bool

/-- How far a declaration reaches. -/
inductive Reach where
  /-- Made anew each time. -/
  | fresh
  /-- Made once. -/
  | kept
  deriving DecidableEq

/-- What goes through a list. -/
inductive Pass where
  | map
  | filter
  | sort
  | first
  | anyHolds
  | allHold
  | noneHolds
  | reduce
  deriving DecidableEq

/-- What a print is asked for. -/
inductive Printing where
  | plain
  | line
  | formatted
  deriving DecidableEq

mutual

inductive Term where
  | constant (value : Value)
  /-- A text with values put in; lists are joined with blanks. -/
  | joined (parts : List Term)
  | name (shape : Shape) (name : Name)
  /-- A text that the last match noted; zero is all of it. -/
  | captured (number : Nat)
  /-- The text before the last match, or behind it. -/
  | around (isBehind : Bool)
  | behind (shape : Shape) (reference : Term)
  | element (list index : Term)
  | entry (table key : Term)
  | elements (list indices : Term)
  | entries (table keys : Term)
  /-- Keys or indices, each with its value. -/
  | pairs (base keys : Term)
  | picked (values indices : Term)
  | lastIndex (list : Term)
  | declare (reach : Reach) (shape : Shape) (number : Nat)
  /-- A place whose value comes back when the block is left. -/
  | localize (target : Term)
  | listed (terms : List Term)
  | assign (target value : Term)
  | update (operation : Operation) (target value : Term)
  | settle (junction : Junction) (target value : Term)
  | compute (operation : Operation) (left right : Term)
  | join (junction : Junction) (left right : Term)
  | exclusive (left right : Term)
  | not (term : Term)
  | negative (term : Term)
  | complement (term : Term)
  | step (isBefore isUp : Bool) (term : Term)
  | choose (condition yes no : Term)
  /-- Values between two; the number tells ranges apart that are conditions. -/
  | range (number : Nat) (first last : Term)
  | matching (subject : Option Term) (wanted : Bool) (pattern : Term) (asked : Asked)
  | replacing (subject : Option Term) (pattern replacement : Term) (asked : Asked)
  | mapping (subject : Option Term) (mapping : Mapping)
  | quoted (pattern : Term) (asked : Asked)
  /-- All that goes by a name. -/
  | symbol (name : Term)
  | refer (term : Term)
  | newList (values : Term)
  | newTable (values : Term)
  | routine (number : Nat)
  | routineNamed (name : Text)
  /-- A call of a named routine; without arguments those of the caller are handed on. -/
  | call (name : Text) (arguments : Option Term) (line : Nat)
  | callBehind (code : Term) (arguments : Option Term)
  | method (object : Term) (name : Text) (dynamic : Option Term) (arguments : Term)
  /-- A word that may be the name of a routine, of a class or of a handle. -/
  | word (text : Text)
  | feature (name : Text) (arguments : List Term) (line : Nat)
  | block (body : List Statement)
  /-- A block whose failure is caught. -/
  | guarded (body : List Statement)
  | pass (pass : Pass) (body : Option Term) (values : Term)
  | readLine (handle : Term)
  | readArguments
  | glob (pattern : Term)
  | test (letter : Char) (subject : Term)
  | print (printing : Printing) (handle : Option Term) (values : Term)
  | output (command : Term)

inductive Statement where
  | evaluate (line : Nat) (term : Term)
  | choose (line : Nat) (condition : Term) (yes no : List Statement)
  /-- A loop with a condition, what is done after each round, and a body; the first round may come
  before the condition. -/
  | loop (label : Text) (line : Nat) (condition : Option Term) (isAfter : Bool)
      (step : List Statement) (body : List Statement)
  | forEach (label : Text) (line : Nat) (place : Term) (values : Term) (body : List Statement)
  | block (label : Text) (body : List Statement)

end

instance : Inhabited Term := ⟨.listed []⟩

instance : Inhabited Statement := ⟨.block [] []⟩

structure Routine where
  name : Text
  package : Text
  body : List Statement

instance : Inhabited Routine := ⟨⟨[], [], []⟩⟩

/-- Names of routines with their numbers, and a program with all that it declares. -/
structure Program where
  body : List Statement
  /-- What is done first, and what is done at the end. -/
  first : List Nat
  last : List Nat
  routines : Array Routine
  named : List (Text × Nat)
  /-- The names that declarations make, with their shapes. -/
  declared : Array (Shape × Text)
  /-- Whether all names have to be declared. -/
  isStrict : Bool
  /-- The text behind the program, which it can read. -/
  attached : Option Text

/-- A name in full, which has the package in front. -/
def fullName (package name : Text) : Text :=
  if Text.contains "::" name then name else package ++ "::".toList ++ name

end ShaderCost.Script.Sigil

/-!
What programs do with texts: mapping characters, parting, packing, and telling the time.
-/

namespace ShaderCost.Script.Sigil

namespace Mapping

/-- The character that one is mapped to, unless it stays; nothing where it is left out. -/
def target? (mapping : Mapping) (c : Char) : Option (Option Char) :=
  let isFound := mapping.search.elem c != mapping.isComplement
  if !isFound then none
  else
    let replacement :=
      if mapping.replacement.isEmpty && !mapping.deletes then mapping.search
      else mapping.replacement
    let place := if mapping.isComplement then replacement.length else mapping.search.idxOf c
    match replacement[place]? with
    | some d => some (some d)
    | none =>
        if mapping.isComplement && mapping.replacement.isEmpty && !mapping.deletes then
          some (some c)
        else if mapping.deletes then some none
        else some (replacement.getLast?.or (some c))

/-- Maps characters, counts those that are found, and draws equal ones together where that is
asked for. The last character written by a mapping is noted. -/
def apply (mapping : Mapping) : Text → (last : Option Char) → (before : Text) → (count : Nat) →
    Text × Nat
  | [], _, before, count => (before.reverse, count)
  | c :: rest, last, before, count =>
      match mapping.target? c with
      | none => mapping.apply rest none (c :: before) count
      | some none => mapping.apply rest last before (count + 1)
      | some (some d) =>
          if mapping.squeezes && last = some d then mapping.apply rest last before (count + 1)
          else mapping.apply rest (some d) (d :: before) (count + 1)

end Mapping

/-! Parting. -/

/-- The pieces of a text between blanks. -/
def blankPieces (text : Text) : List Text :=
  (text.splitOnP isBlankOctet).filter fun piece => !piece.isEmpty

/-- The pieces of a text between occurrences, with the texts of groups. At most as many pieces are
made where there is a limit. -/
def piecesBetween (expression : Expression) (limit : Nat) : List Expression.Occurrence →
    (made : Nat) → (lead : Text) → (last : Text) → List Value
  | [], _, lead, last => [.text (lead ++ last)]
  | occurrence :: rest, made, lead, last =>
      if limit != 0 && limit ≤ made + 1 then
        let whole := (occurrence :: rest).flatMap fun occurrence =>
          occurrence.before ++ occurrence.found
        [.text (lead ++ whole ++ last)]
      else if occurrence.found.isEmpty && (lead ++ occurrence.before).isEmpty then
        piecesBetween expression limit rest made lead last
      else if occurrence.found.isEmpty && occurrence.behind.isEmpty then
        piecesBetween expression limit rest made (lead ++ occurrence.before) last
      else
        let groups := (List.range expression.groups).map fun number =>
          match occurrence.group? (number + 1) with
          | some text => Value.text text
          | none => .undefined
        .text (lead ++ occurrence.before) :: groups ++
          piecesBetween expression limit rest (made + 1) [] last

/-- Values without void texts at the end. -/
def trimmed (values : List Value) : List Value :=
  (values.reverse.dropWhile fun value => match value with
    | .text [] | .undefined => true
    | _ => false).reverse

/-- The pieces of a text. A negative limit keeps void pieces at the end. -/
def split (expression : Option Expression) (text : Text) (limit : Int) : List Value :=
  if text.isEmpty then []
  else
    let pieces := match expression with
      | none =>
          if 0 < limit then
            let rec take (fuel : Nat) (text : Text) (made : Nat) : List Value :=
              match fuel with
              | 0 => []
              | fuel + 1 =>
                  let text := text.dropWhile isBlankOctet
                  if made + 1 = limit.toNat then [.text text]
                  else
                    let piece := text.takeWhile fun c => !isBlankOctet c
                    let rest := text.drop piece.length
                    if rest.isEmpty then [.text piece] else .text piece :: take fuel rest (made + 1)
            take (text.length + 1) text 0
          else
            let pieces := (blankPieces text).map Value.text
            if limit < 0 && text.getLast?.any isBlankOctet then pieces ++ [.text []] else pieces
      | some expression =>
          let (occurrences, last) := Expression.Rich.allIn expression text
          piecesBetween expression limit.toNat occurrences 0 [] last
    if limit = 0 then trimmed pieces else pieces

/-! Texts in other texts. -/

/-- Where a text occurs first, from a place on. -/
def indexFrom (needle : Text) : Text → (place : Nat) → Option Nat
  | [], place => if needle.isEmpty then some place else none
  | c :: rest, place =>
      if needle.isPrefixOf (c :: rest) then some place else indexFrom needle rest (place + 1)

def index (text needle : Text) (start : Int) : Int :=
  let start := min start.toNat text.length
  match indexFrom needle (text.drop start) start with
  | some place => place
  | none => -1

/-- Where a text occurs last, up to a place. -/
def lastIndex (text needle : Text) (limit : Option Int) : Int :=
  let length := text.length - needle.length
  if text.length < needle.length then -1
  else
    let most := match limit with
      | some limit => min limit.toNat length
      | none => length
    let places := (List.range (most + 1)).reverse
    if (limit.any fun limit => limit < 0) && !needle.isEmpty then
      if needle.isPrefixOf text then 0 else -1
    else match places.find? fun place => needle.isPrefixOf (text.drop place) with
      | some place => place
      | none => -1

/-- The range of a part that may be counted from the end, unless it lies outside. -/
def partOf? (size : Nat) (start : Int) (length : Option Int) : Option (Nat × Nat) :=
  let first : Int := if start < 0 then (size : Int) + start else start
  let last : Int := match length with
    | none => (size : Int)
    | some length => if length < 0 then (size : Int) + length else first + length
  if (size : Int) < first || (first < 0 && last < 0) then none
  else
    let first := (max first 0).toNat
    let last := (max (min last size) first).toNat
    some (first, last - first)

def quoteMeta (text : Text) : Text :=
  text.flatMap fun c => if isNameChar c then [c] else if c.toNat < 128 then ['\\', c] else ['\\', c]

def onFirst (change : Char → Char) : Text → Text
  | [] => []
  | c :: rest => change c :: rest

/-- The number that hexadecimal or other digits stand for. -/
def oct (text : Text) : Nat :=
  let text := (text.dropWhile isBlankOctet).filter (· != '_')
  let inBase (base : Nat) (isDigit : Char → Bool) (text : Text) : Nat :=
    digitsIn base (text.takeWhile isDigit)
  match text with
  | '0' :: 'x' :: rest | '0' :: 'X' :: rest | 'x' :: rest => inBase 16 isHexDigit rest
  | '0' :: 'b' :: rest | '0' :: 'B' :: rest | 'b' :: rest =>
      inBase 2 (fun c => c = '0' || c = '1') rest
  | '0' :: 'o' :: rest => inBase 8 isOctalDigit rest
  | text => inBase 8 isOctalDigit text

def hex (text : Text) : Nat :=
  let text := text.filter (· != '_')
  let digits : Text := match text with
    | '0' :: 'x' :: rest | '0' :: 'X' :: rest | 'x' :: rest => rest
    | text => text
  digitsIn 16 (digits.takeWhile isHexDigit)

/-! Packing. -/

/-- A letter of a template with how often it stands, if that is said; a star stands for all. -/
structure Slot where
  letter : Char
  count : Option Nat
  isAll : Bool

def slots : (fuel : Nat) → Text → List Slot
  | 0, _ | _ + 1, [] => []
  | fuel + 1, c :: rest =>
      if isBlankOctet c then slots fuel rest
      else
        let rest := rest.dropWhile fun c => c = '<' || c = '>' || c = '!'
        match rest with
        | '*' :: rest => ⟨c, none, true⟩ :: slots fuel rest
        | rest =>
            let digits := rest.takeWhile Char.isDigit
            let count := if digits.isEmpty then none else some (digitsIn 10 digits)
            ⟨c, count, false⟩ :: slots fuel (rest.drop digits.length)

/-- How many octets a letter stands for, and whether the greatest one comes first. -/
def widthOf? (letter : Char) : Option (Nat × Bool) :=
  match letter with
  | 'c' | 'C' => some (1, true)
  | 's' | 'S' | 'v' => some (2, false)
  | 'n' => some (2, true)
  | 'l' | 'L' | 'V' | 'i' | 'I' => some (4, false)
  | 'N' => some (4, true)
  | 'q' | 'Q' | 'j' | 'J' => some (8, false)
  | _ => none

/-- The octets of a number, the least one first. -/
def octetsOf : (width : Nat) → Nat → Text
  | 0, _ => []
  | width + 1, value => Char.ofNat (value % 256) :: octetsOf width (value / 256)

/-- Digits of base sixteen as octets. -/
def fromHex : Text → Text
  | c :: d :: rest => Char.ofNat (16 * digitValue c + digitValue d) :: fromHex rest
  | [c] => [Char.ofNat (16 * digitValue c)]
  | [] => []

def pack (textOf : Value → Text) : List Slot → List Value → Text
  | [], _ => []
  | slot :: rest, values =>
      match slot.letter with
      | 'A' | 'a' | 'Z' =>
          let text := textOf (values.headD .undefined)
          let size := if slot.isAll then text.length + (if slot.letter = 'Z' then 1 else 0)
            else slot.count.getD 1
          let fill := if slot.letter = 'A' then ' ' else '\x00'
          text.take size ++ List.replicate (size - text.length) fill ++
            pack textOf rest values.tail
      | 'H' => fromHex (textOf (values.headD .undefined)) ++ pack textOf rest values.tail
      | 'x' => List.replicate (slot.count.getD 1) '\x00' ++ pack textOf rest values
      | letter =>
          let count := if slot.isAll then values.length else slot.count.getD 1
          let made := (values.take count).flatMap fun value =>
            match widthOf? letter with
            | some (width, isGreatFirst) =>
                let octets := octetsOf width (value.toNumeric.toWord)
                if isGreatFirst then octets.reverse else octets
            | none => if letter = 'U' || letter = 'W' then spreadText [Char.ofNat value.toNat]
                else []
          made ++ pack textOf rest (values.drop count)

def numberOf (octets : Text) : Nat :=
  octets.foldl (fun value octet => 256 * value + octet.toNat) 0

/-- The numbers that octets stand for, as many as there are of a width. -/
def numbersIn (width : Nat) (isGreatFirst isSigned : Bool) : (count : Nat) → Text →
    List Value × Text
  | 0, text => ([], text)
  | count + 1, text =>
      if text.length < width then ([], text)
      else
        let octets := text.take width
        let value := numberOf (if isGreatFirst then octets else octets.reverse)
        let limit := twoTo (8 * width)
        let value : Int := if isSigned && limit ≤ 2 * value then (value : Int) - limit else value
        let (values, rest) := numbersIn width isGreatFirst isSigned count (text.drop width)
        (.whole value :: values, rest)

def unpack : List Slot → Text → List Value
  | [], _ => []
  | slot :: rest, text =>
      match slot.letter with
      | 'A' | 'a' | 'Z' =>
          let size := if slot.isAll then text.length else slot.count.getD 1
          let taken := text.take size
          let shown := match slot.letter with
            | 'A' => (taken.reverse.dropWhile fun c => isBlankOctet c || c = '\x00').reverse
            | 'Z' => taken.takeWhile (· != '\x00')
            | _ => taken
          .text shown :: unpack rest (text.drop size)
      | 'H' =>
          let size := if slot.isAll then 2 * text.length else slot.count.getD 1
          let digits := text.flatMap fun c =>
            [Nat.digitChar (c.toNat / 16), Nat.digitChar (c.toNat % 16)]
          .text (digits.take size) :: unpack rest (text.drop ((size + 1) / 2))
      | 'x' => unpack rest (text.drop (slot.count.getD 1))
      | letter =>
          match widthOf? letter with
          | some (width, isGreatFirst) =>
              let count := if slot.isAll then text.length else slot.count.getD 1
              let isSigned := letter.isLower && letter != 'n' && letter != 'v'
              let (values, behind) := numbersIn width isGreatFirst isSigned count text
              values ++ unpack rest behind
          | none => unpack rest text

/-! Time. -/

/-- The parts of a moment: seconds, minutes, hours, the day of the month, the month from zero on,
years since 1900, the days of the week and of the year from zero on, and whether it is summer. -/
def momentParts (face : Calendar.Face) : List Value :=
  let number (format : Text) : Int := (numericOf (face.text format)).toInt
  [.whole (number "%S"), .whole (number "%M"), .whole (number "%H"), .whole (number "%d"),
    .whole (number "%m" - 1), .whole (number "%Y" - 1900), .whole (number "%w"),
    .whole (number "%j" - 1), .whole 0]

def momentText (face : Calendar.Face) : Text := face.text "%a %b %e %H:%M:%S %Y"

end ShaderCost.Script.Sigil
