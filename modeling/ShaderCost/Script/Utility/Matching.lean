import ShaderCost.Script.Utility.Lines

/-!
Utilities that go through the lines of two files side by side, both in order: one parts the lines
that only one of them has from those of both, the other one joins lines with the same key.
-/

namespace ShaderCost.Script.Utility

namespace Matching

/-- The lines of one of the files that are left. -/
structure Side where
  path : Text
  lines : List Text
  /-- The line before those. -/
  earlier : Option Text
  /-- The number of the first line that is left. -/
  number : Nat
  /-- Whether it was said that the lines are not in order. -/
  isBlamed : Bool

/-- When the order of lines is looked at. -/
inductive Care where
  | never
  /-- Only once there was a line without a partner. -/
  | late
  | always
  deriving DecidableEq

structure Course where
  left : Side
  right : Side
  hasLonely : Bool
  /-- Whether the work ends because lines are not in order. -/
  isOver : Bool
  totals : Nat × Nat × Nat

abbrev Match := StateT Course Step

/-- What is known of the order. -/
structure Order where
  care : Care
  inOrder : (isLeft : Bool) → Text → Text → Bool
  blame : (isLeft : Bool) → Side → Text → Step Unit
  /-- Whether the last two lines are looked at once more at the end. -/
  looksBack : Bool

def side (isLeft : Bool) (course : Course) : Side := if isLeft then course.left else course.right

def setSide (isLeft : Bool) (side : Side) : Match Unit := modify fun course =>
  if isLeft then { course with left := side } else { course with right := side }

/-- Looks at the order of two lines. -/
def Order.check (order : Order) (isLeft : Bool) (earlier : Option Text) (line : Text) :
    Match Unit := do
  let course ← get
  let side := side isLeft course
  let matters := order.care = .always || (order.care = .late && course.hasLonely)
  if matters && !side.isBlamed && !earlier.all fun earlier => order.inOrder isLeft earlier line then
    order.blame isLeft side line
    setSide isLeft { side with isBlamed := true }
    if order.care = .always then modify fun course => { course with isOver := true }

/-- Goes on to the next line of a file. -/
def Order.advance (order : Order) (isLeft : Bool) : Match Unit := do
  let side := side isLeft (← get)
  match side.lines with
  | [] => pure ()
  | line :: rest =>
      setSide isLeft { side with
        lines := rest, earlier := some line, number := side.number + 1 }
      match rest with
      | next :: _ => order.check isLeft (some line) next
      | [] => if order.looksBack then order.check isLeft side.earlier line

def start (leftPath rightPath : Text) (left right : List Text) : Course :=
  ⟨⟨leftPath, left, none, 1, false⟩, ⟨rightPath, right, none, 1, false⟩, false, false, 0, 0, 0⟩

/-- The status in the end, with a complaint if lines were not in order. -/
def conclude (name : Text) (course : Course) : Step Nat := do
  if course.isOver then return 1
  else if course.left.isBlamed || course.right.isBlamed then
    complain name "input is not in sorted order"
    return 1
  else return 0

def careOf (call : Call) : Care :=
  match call.options.find? fun option => option.1 = '\x01' || option.1 = '\x02' with
  | some ('\x01', _) => .always
  | some _ => .never
  | none => .late

/-- The lines of a file. -/
def linesOf (separator : Char) (text : Text) : List Text :=
  let parts := text.splitOn separator
  if parts.getLast? = some [] then parts.dropLast else parts

/-- Carries out work on the contents of exactly two operands. -/
def withTwo (known : Options) (work : (name : Text) → Call → (left right : Text) → Step Nat) :
    Utility := withCall known fun name call => do
  match call.operands with
  | [] => refuse name "missing operand" 1
  | [path] => refuse name ("missing operand after " ++ nameInQuotes path) 1
  | [left, right] =>
      match ← contentOrComplain name left with
      | none => return 1
      | some leftText =>
          match ← contentOrComplain name right with
          | none => return 1
          | some rightText => work name call leftText rightText
  | _ :: _ :: extra :: _ => refuse name ("extra operand " ++ nameInQuotes extra) 1

end Matching

open Matching

/-! Parting lines. -/

namespace Parting

structure Layout where
  /-- Which columns are left out. -/
  hides : Nat → Bool
  separator : Text
  ending : Char

def Layout.place (layout : Layout) (column : Nat) (line : Text) : Step Unit := do
  if !layout.hides column then
    let before := ((List.range column).filter fun other => !layout.hides other).length
    print ((List.replicate before layout.separator).flatten ++ line ++ [layout.ending])

def run (order : Order) (layout : Layout) : (fuel : Nat) → Match Unit
  | 0 => pure ()
  | fuel + 1 => do
      let course ← get
      let (ones, others, shared) := course.totals
      if course.isOver then return
      match course.left.lines, course.right.lines with
      | [], [] => return
      | left :: _, [] => only true left (ones + 1, others, shared)
      | [], right :: _ => only false right (ones, others + 1, shared)
      | left :: _, right :: _ =>
          if left = right then
            modify fun course => { course with totals := (ones, others, shared + 1) }
            layout.place 2 left
            order.advance true
            order.advance false
          else if Text.atMost left right then only true left (ones + 1, others, shared)
          else only false right (ones, others + 1, shared)
      run order layout fuel
where
  only (isLeft : Bool) (line : Text) (totals : Nat × Nat × Nat) : Match Unit := do
    modify fun course => { course with hasLonely := true, totals }
    layout.place (if isLeft then 0 else 1) line
    order.advance isLeft

end Parting

/-- Parts the lines of two files. -/
def comm : Utility := withTwo
    ⟨"123z\x01\x02\x03", "\x04", [("check-order", '\x01'), ("nocheck-order", '\x02'),
      ("total", '\x03'), ("output-delimiter", '\x04'), ("zero-terminated", 'z')], 1⟩
    fun name call left right => do
  let ending := if call.has 'z' then '\x00' else '\n'
  let separator := (call.value? '\x04').getD ['\t']
  let layout : Parting.Layout := {
    hides := fun column => call.has (Char.ofNat ('1'.toNat + column))
    separator := if separator.isEmpty then ['\x00'] else separator, ending }
  let order : Order := {
    care := careOf call
    inOrder := fun _ => Text.atMost
    blame := fun isLeft _ _ => complain name
      ("file ".toList ++ [if isLeft then '1' else '2'] ++ " is not in sorted order".toList)
    looksBack := true }
  let lefts := linesOf ending left
  let rights := linesOf ending right
  let (_, course) ← (Parting.run order layout (lefts.length + rights.length + 1)).run
    (start [] [] lefts rights)
  if call.has '\x03' then
    let (ones, others, shared) := course.totals
    print (List.intercalate layout.separator
      ([ones, others, shared].map Text.ofNat ++ ["total".toList]) ++ [ending])
  conclude name course

/-! Joining lines. -/

namespace Joining

/-- A line in fields. -/
abbrev Fields := List Text

def isBlank (c : Char) : Bool := c == ' ' || c == '\t'

def fieldsOf (separator : Option Char) (line : Text) : Fields :=
  match separator with
  | some c => if line.isEmpty then [] else line.splitOn c
  | none => (line.splitOnP isBlank).filter fun field => !field.isEmpty

/-- A field that is shown: the key, or the one at a place of a file. -/
inductive Item where
  | key
  | field (isLeft : Bool) (place : Nat)

structure Layout where
  separator : Option Char
  /-- The places of the keys. -/
  leftKey : Nat
  rightKey : Nat
  foldsCase : Bool
  /-- What stands for a field that is missing or empty. -/
  filler : Text
  items : Option (List Item)
  /-- How many fields lines have, where that is fixed. -/
  counts : Option (Nat × Nat)
  showsLeft : Bool
  showsRight : Bool
  showsPairs : Bool
  ending : Char

namespace Layout

def key (layout : Layout) (isLeft : Bool) (line : Text) : Text :=
  let place := if isLeft then layout.leftKey else layout.rightKey
  let field := ((fieldsOf layout.separator line)[place]?).getD []
  if layout.foldsCase then field.map Char.toLower else field

def shown (layout : Layout) (fields : Fields) (place : Nat) : Text :=
  match fields[place]? with
  | some field => if field.isEmpty then layout.filler else field
  | none => layout.filler

/-- The fields of a line beside its key. -/
def others (layout : Layout) (fields : Fields) (key : Nat) (count : Option Nat) : List Text :=
  ((List.range (count.getD fields.length)).filter (· != key)).map (layout.shown fields)

/-- Prints two lines as one, or one that has no partner. -/
def present (layout : Layout) (left right : Option Text) : Step Unit := do
  let fieldsIn (line : Option Text) : Fields :=
    (line.map (fieldsOf layout.separator)).getD []
  let lefts := fieldsIn left
  let rights := fieldsIn right
  let key := if left.isSome then layout.shown lefts layout.leftKey
    else layout.shown rights layout.rightKey
  let parts := match layout.items with
    | some items => items.map fun item => match item with
        | .key => key
        | .field isLeft place => layout.shown (if isLeft then lefts else rights) place
    | none =>
        key :: (layout.others lefts layout.leftKey (layout.counts.map Prod.fst) ++
          layout.others rights layout.rightKey (layout.counts.map Prod.snd))
  print (List.intercalate [layout.separator.getD ' '] parts ++ [layout.ending])

end Layout

/-- Takes the lines with a key off the front of a file. -/
def takeGroup (order : Order) (layout : Layout) (isLeft : Bool) (key : Text) : (fuel : Nat) →
    (before : List Text) → Match (List Text)
  | 0, before => return before.reverse
  | fuel + 1, before => do
      match (side isLeft (← get)).lines with
      | line :: _ =>
          if layout.key isLeft line = key then
            order.advance isLeft
            takeGroup order layout isLeft key fuel (line :: before)
          else return before.reverse
      | [] => return before.reverse

def run (order : Order) (layout : Layout) : (fuel : Nat) → Match Unit
  | 0 => pure ()
  | fuel + 1 => do
      let course ← get
      if course.isOver then return
      match course.left.lines, course.right.lines with
      | left :: _, right :: _ =>
          let leftKey := layout.key true left
          let rightKey := layout.key false right
          if leftKey = rightKey then
            let lefts ← takeGroup order layout true leftKey (fuel + 1) []
            let rights ← takeGroup order layout false leftKey (fuel + 1) []
            if layout.showsPairs then
              for left in lefts do
                for right in rights do layout.present (some left) (some right)
          else if Text.atMost leftKey rightKey then
            if layout.showsLeft then layout.present (some left) none
            order.advance true
            modify fun course => { course with hasLonely := true }
          else
            if layout.showsRight then layout.present none (some right)
            order.advance false
            modify fun course => { course with hasLonely := true }
      | left :: _, [] =>
          if layout.showsLeft then layout.present (some left) none
          order.advance true
      | [], right :: _ =>
          if layout.showsRight then layout.present none (some right)
          order.advance false
      | [], [] => return
      run order layout fuel

/-- The place that a number of a field stands for. -/
def placeOf (text : Text) : Except Text Nat :=
  match Text.nat? text with
  | some (place + 1) => .ok place
  | _ => .error ("invalid field number: ".toList ++ nameInQuotes text)

def itemOf (text : Text) : Except Text Item :=
  match text with
  | ['0'] => .ok .key
  | digit :: '.' :: place =>
      if digit = '1' || digit = '2' then (placeOf place).map (.field (digit = '1'))
      else .error ("invalid file number in field spec: ".toList ++ nameInQuotes text)
  | _ =>
      if text.head?.any fun c => c = '1' || c = '2' then
        .error ("invalid field specifier: ".toList ++ nameInQuotes text)
      else .error ("invalid file number in field spec: ".toList ++ nameInQuotes text)

def itemsOf (text : Text) : Except Text (List Item) :=
  ((text.splitOnP fun c => c = ',' || isBlank c).filter fun part => !part.isEmpty).mapM itemOf

def layoutOf (call : Call) (left right : List Text) : Except Text Layout := do
  let place (letter : Char) : Except Text Nat :=
    match (call.value? letter).orElse fun _ => call.value? 'j' with
    | some text => placeOf text
    | none => .ok 0
  let separator ← match call.value? 't' with
    | none => pure none
    | some [] => pure (some '\n')
    | some [c] => pure (some c)
    | some ['\\', '0'] => pure (some '\x00')
    | some text => throw ("multi-character tab ".toList ++ nameInQuotes text)
  let isAuto := call.value? 'o' = some "auto".toList
  let items ← match call.value? 'o' with
    | none => pure none
    | some text => if isAuto then pure none else some <$> itemsOf text
  for (letter, value) in call.options do
    if (letter = 'a' || letter = 'v') && value != "1" && value != "2" then
      throw ("invalid field number: ".toList ++ nameInQuotes value)
  let asks (number : Text) : Bool := call.options.any fun (letter, value) =>
    (letter = 'a' || letter = 'v') && value = number
  let count (lines : List Text) : Nat := (fieldsOf separator (lines.headD [])).length
  return {
    separator, items, leftKey := ← place '1', rightKey := ← place '2', foldsCase := call.has 'i'
    filler := (call.value? 'e').getD []
    counts := if isAuto then some (count left, count right) else none
    showsLeft := asks "1", showsRight := asks "2", showsPairs := !call.has 'v'
    ending := if call.has 'z' then '\x00' else '\n' }

end Joining

/-- Joins the lines of two files that have the same key. -/
def join : Utility := withTwo
    ⟨"iz\x01\x02\x03", "12javeot", [("check-order", '\x01'), ("nocheck-order", '\x02'),
      ("header", '\x03'), ("ignore-case", 'i'), ("zero-terminated", 'z')], 1⟩
    fun name call left right => do
  let ending := if call.has 'z' then '\x00' else '\n'
  let lefts := linesOf ending left
  let rights := linesOf ending right
  match Joining.layoutOf call lefts rights with
  | .error problem =>
      complain name problem
      return 1
  | .ok layout =>
      let order : Order := {
        care := careOf call
        inOrder := fun isLeft earlier later =>
          Text.atMost (layout.key isLeft earlier) (layout.key isLeft later)
        blame := fun _ side line => complain name
          (side.path ++ ':' :: Text.ofNat side.number ++ ": is not sorted: ".toList ++ line)
        looksBack := false }
      let (lefts, rights) ←
        if call.has '\x03' && !(lefts.isEmpty && rights.isEmpty) then
          layout.present lefts.head? rights.head?
          pure (lefts.tail, rights.tail)
        else pure (lefts, rights)
      let first := start (call.operands.headD []) ((call.operands.drop 1).headD []) lefts rights
      let (_, course) ← (Joining.run order layout (lefts.length + rights.length + 1)).run first
      conclude name course

end ShaderCost.Script.Utility
