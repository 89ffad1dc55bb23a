import ShaderCost.Script.Format
import ShaderCost.Script.Pattern
import ShaderCost.Script.Utility.Basic

/-!
The utility on characters: those of one set become those of another one, or are taken away, or stand
only once where they were repeated.
-/

namespace ShaderCost.Script.Utility

/-! Sets of characters as `tr` takes them. -/

namespace Exchange

/-- All characters that texts are made of here. -/
def allOctets : Text := (List.range 256).map Char.ofNat

/-- One construct of a set. -/
inductive Construct where
  | one (c : Char)
  | range (first last : Char)
  | ofClass (name : Text) (members : Char → Bool)
  | likeness (c : Char)
  /-- A character so many times, or as often as it takes. -/
  | repeated (c : Char) (count : Option Nat)

namespace Construct

def characters : Construct → Text
  | one c | likeness c => [c]
  | range first last =>
      (List.range (last.toNat + 1 - first.toNat)).map fun offset =>
        Char.ofNat (first.toNat + offset)
  | ofClass _ members => allOctets.filter members
  | repeated c count => List.replicate (count.getD 0) c

/-- The case of a class of letters. -/
def case? : Construct → Option Char
  | ofClass name _ => if name = "upper" || name = "lower" then name.head? else none
  | _ => none

def isClass : Construct → Bool
  | ofClass _ _ => true
  | _ => false

def isOpen : Construct → Bool
  | repeated _ none => true
  | _ => false

def last? : Construct → Option Char
  | one c | likeness c | range _ c | repeated c _ => some c
  | ofClass _ _ => none

end Construct

/-- A character of a set as it is written, which may stand behind a backslash. -/
structure Written where
  char : Char
  isQuoted : Bool

/-- What the backslashes of a set stand for, with warnings. -/
def unquote : (fuel : Nat) → Text → List Written × List Text
  | 0, _ | _, [] => ([], [])
  | _, ['\\'] =>
      ([⟨'\\', false⟩], ["warning: an unescaped backslash at end of string is not portable"])
  | fuel + 1, '\\' :: c :: rest =>
      if isOctalDigit c then
        let digits := ((c :: rest).take 3).takeWhile isOctalDigit
        let isLarge := 255 < digitsIn 8 digits
        let taken := if isLarge then digits.take 2 else digits
        let (others, warnings) := unquote fuel ((c :: rest).drop taken.length)
        let warning : Text := "warning: the ambiguous octal escape \\".toList ++ digits ++
          " is being\n\tinterpreted as the 2-byte sequence \\0".toList ++ taken ++ ", ".toList ++
          digits.drop 2
        (⟨Char.ofNat (digitsIn 8 taken), true⟩ :: others,
          if isLarge then warning :: warnings else warnings)
      else
        let made := ((controlLetters.find? fun entry => entry.2 = c).map Prod.fst).getD c
        let (others, warnings) := unquote fuel rest
        (⟨made, true⟩ :: others, warnings)
  | fuel + 1, c :: rest =>
      let (others, warnings) := unquote fuel rest
      (⟨c, false⟩ :: others, warnings)

def isBare (c : Char) (written : Written) : Bool := written.char = c && !written.isQuoted

/-- The text between brackets up to a closing mark with a bracket behind it, and what follows. -/
def untilMark (mark : Char) : List Written → (before : Text) → Option (Text × List Written)
  | first :: second :: rest, before =>
      if isBare mark first && isBare ']' second then some (before.reverse, rest)
      else untilMark mark (second :: rest) (first.char :: before)
  | _, _ => none
  termination_by written => written.length

/-- A repeated character behind a bracket, and what follows. -/
def repetition? : List Written → Except Text (Option (Construct × List Written))
  | c :: star :: rest =>
      let digits := rest.takeWhile fun written => !written.isQuoted && written.char != ']'
      match isBare '*' star, rest.drop digits.length with
      | true, closing :: behind =>
          if closing.isQuoted then .ok none
          else
            let text := digits.map Written.char
            let base := if text.head? = some '0' then 8 else 10
            let isDigit (c : Char) : Bool := if base = 8 then isOctalDigit c else c.isDigit
            let count := digitsIn base text
            if text.isEmpty then .ok (some (.repeated c.char none, behind))
            else if text.all isDigit && count < 9223372036854775808 then
              .ok (some (.repeated c.char (if count = 0 then none else some count), behind))
            else .error ("invalid repeat count ".toList ++ nameInQuotes text ++
              " in [c*n] construct".toList)
      | _, _ => .ok none
  | _ => .ok none

/-- Whether a star, digits and a bracket follow, as in a repeated character. -/
def repeatsBehind (written : List Written) : Bool :=
  match written with
  | star :: rest =>
      let behind := rest.dropWhile fun written => !written.isQuoted && written.char.isDigit
      isBare '*' star && behind.head?.any (isBare ']')
  | [] => false

/-- A class or a likeness behind a bracket, and what follows. -/
def named? (mark : Char) (behind : List Written) :
    Except Text (Option (Construct × List Written)) :=
  match untilMark mark behind [] with
  | none => .ok none
  | some ([], _) =>
      .error (if mark = ':' then "missing character class name '[::]'"
        else "missing equivalence class character '[==]'")
  | some (name, rest) =>
      let isOther := repeatsBehind behind
      if mark = ':' then
        match characterClasses.lookup name with
        | some members => .ok (some (.ofClass name members, rest))
        | none =>
            if isOther then .ok none
            else .error ("invalid character class ".toList ++ nameInQuotes name)
      else match name with
        | [c] => .ok (some (.likeness c, rest))
        | _ =>
            if isOther then .ok none
            else .error (name ++ ": equivalence class operand must be a single character".toList)

/-- A construct behind an opening bracket, and what follows. -/
def bracketed? (behind : List Written) : Except Text (Option (Construct × List Written)) := do
  let named ← match behind with
    | mark :: rest =>
        if isBare ':' mark || isBare '=' mark then named? mark.char rest else pure none
    | [] => pure none
  match named with
  | some found => return some found
  | none => repetition? behind

/-- A character in a message. -/
def shownChar (c : Char) : Text := if isPicture c then [c] else spelledOut c

/-- The constructs of a set. -/
def constructs : (fuel : Nat) → List Written → Except Text (List Construct)
  | 0, _ | _, [] => .ok []
  | fuel + 1, first :: rest => do
      let found ←
        if isBare '[' first && 2 ≤ rest.length then bracketed? rest else pure none
      match found, rest with
      | some (construct, behind), _ => return construct :: (← constructs fuel behind)
      | none, dash :: last :: behind =>
          if isBare '-' dash then
            if last.char < first.char then
              throw ("range-endpoints of '".toList ++ shownChar first.char ++ '-' ::
                shownChar last.char ++ "' are in reverse collating sequence order".toList)
            return .range first.char last.char :: (← constructs fuel behind)
          else return .one first.char :: (← constructs fuel rest)
      | none, rest => return .one first.char :: (← constructs fuel rest)

/-- A set with its constructs. -/
abbrev Charset := List Construct

def Charset.characters (set : Charset) : Text := set.flatMap Construct.characters

/-- A character of a set, with the case of the class that it comes from. -/
structure Member where
  char : Char
  case? : Option Char
  /-- Whether it is the first one of its construct. -/
  isFirst : Bool

def Charset.members (set : Charset) : List Member :=
  set.flatMap fun construct => construct.characters.zipIdx.map fun (c, place) =>
    ⟨c, construct.case?, place = 0⟩

/-- What becomes of characters. -/
inductive Change where
  | single (before after : Char)
  | toUpper
  | toLower

/-- The changes from one set to another. Classes of letters have to stand in line. -/
def changes : (fuel : Nat) → List Member → List Member → Except Text (List Change)
  | 0, _, _ | _, [], _ | _, _, [] => .ok []
  | fuel + 1, from' :: befores, to' :: afters =>
      match to'.case? with
      | none => do return .single from'.char to'.char :: (← changes fuel befores afters)
      | some target =>
          match from'.case? with
          | some source =>
              if to'.isFirst && !from'.isFirst then .error misaligned
              else do
                let rest ← changes fuel (befores.dropWhile fun member => !member.isFirst)
                  (afters.dropWhile fun member => !member.isFirst)
                if source = target then return rest
                else return (if target = 'u' then .toUpper else .toLower) :: rest
          | none => .error misaligned
where
  misaligned : Text := "misaligned [:upper:] and/or [:lower:] construct"

/-- What becomes of each character. -/
def tableOf (changes : List Change) : Array Char :=
  changes.foldl (fun table change => match change with
    | .single before after => table.set! before.toNat after
    | .toUpper => table.mapIdx fun place c =>
        if (Char.ofNat place).isLower then (Char.ofNat place).toUpper else c
    | .toLower => table.mapIdx fun place c =>
        if (Char.ofNat place).isUpper then (Char.ofNat place).toLower else c)
    allOctets.toArray

/-- The characters that are not in a text. -/
def complement (set : Text) : Text := allOctets.filter fun c => !set.elem c

/-- The second set, with as many characters as it takes. -/
def fitted (length : Nat) (isCut : Bool) (second : Charset) : Except Text Charset :=
  let known := second.characters.length
  let isOpen := second.any Construct.isOpen
  let filled := second.map fun construct => match construct with
    | .repeated c none => .repeated c (some (length - known))
    | construct => construct
  if isOpen && known ≤ length then .ok filled
  else if length ≤ known || isCut then .ok filled
  else match second.getLast? with
    | none => .error "when not truncating set1, string2 must be non-empty"
    | some construct =>
        match construct.last? with
        | some c => .ok (filled ++ [.repeated c (some (length - known))])
        | none => .error ("when translating with string1 longer than string2,\nthe latter " ++
            "string must not end with a character class").toList

/-- What becomes of each character where sets are exchanged, and the characters of the second
set. -/
def translation (isComplement isCut : Bool) (first second : Charset) :
    Except Text (Array Char × Text) := do
  if 1 < (second.filter Construct.isOpen).length then
    throw ("only one [c*] repeat construct may appear in string2" : Text)
  if second.any fun construct => match construct with
      | .likeness _ => true
      | _ => false then
    throw ("[=c=] expressions may not appear in string2 when translating" : Text)
  if second.any fun construct => construct.isClass && construct.case?.isNone then
    throw ("when translating, the only character classes that may appear in\nstring2 are " ++
      "'upper' and 'lower'").toList
  let all := first.characters
  let befores := if isComplement then complement all else all
  let limit := all.length + second.characters.length + 1
  if !isComplement && second.any fun construct => construct.case?.isSome then
    let _ ← changes limit first.members second.members
  let fit ← fitted befores.length isCut second
  let afters := fit.characters
  if isComplement && first.any Construct.isClass &&
      !(afters.length = befores.length && afters.all fun c => some c = afters.head?) then
    throw ("when translating with complemented character classes,\nstring2 must map all " ++
      "characters in the domain to one").toList
  if isComplement then
    return (tableOf ((befores.zip afters).map fun (before, after) => .single before after), afters)
  else return (tableOf (← changes (limit + befores.length) first.members fit.members), afters)

/-- Leaves one of each run of a character in a set. -/
def squeeze (set : Array Bool) : Text → (before : Option Char) → (found : Text) → Text
  | [], _, found => found.reverse
  | c :: rest, before, found =>
      if before = some c && set[c.toNat]?.getD false then squeeze set rest before found
      else squeeze set rest (some c) (c :: found)

/-- The characters of a text as a table. -/
def tableOfSet (set : Text) : Array Bool :=
  set.foldl (fun table c => table.set! c.toNat true) (Array.replicate 256 false)

/-- Reads a set; its warnings are shown. -/
def read (name text : Text) : Step (Except Text Charset) := do
  let (written, warnings) := unquote (text.length + 1) text
  for warning in warnings do complain name warning
  return constructs (written.length + 1) written

/-- Changes the input as sets say. -/
def run (call : Call) (first : Charset) (second : Option Charset) :
    Step (Except Text Unit) := do
  let deletes := call.has 'd'
  let squeezes := call.has 's'
  let isComplement := call.has 'c' || call.has 'C'
  if first.any Construct.isOpen then
    return .error "the [c*] repeat construct may not appear in string1"
  let chosen := if isComplement then complement first.characters else first.characters
  match second, deletes with
  | some second, false =>
      match translation isComplement (call.has 't') first second with
      | .error problem => return .error problem
      | .ok (table, afters) =>
          let text := (← readInput false).map fun c => table[c.toNat]?.getD c
          print (if squeezes then squeeze (tableOfSet afters) text none [] else text)
          return .ok ()
  | second, _ =>
      if second.any fun second => second.any Construct.isOpen then
        return .error "the [c*] construct may appear in string2 only when translating"
      let set := tableOfSet chosen
      let text ← readInput false
      let text :=
        if deletes then text.filter fun c => !(set[c.toNat]?.getD false) else text
      let last := match second with
        | some second => tableOfSet second.characters
        | none => set
      print (if squeezes then squeeze last text none [] else text)
      return .ok ()

end Exchange

/-- Exchanges, deletes and squeezes characters. -/
def tr : Utility := fun name arguments => do
  let known : Options := ⟨"cCdst", [], [("delete", 'd'), ("squeeze-repeats", 's'),
    ("complement", 'c'), ("truncate-set1", 't')], 1⟩
  match known.read true (arguments.length + 1) arguments with
  | .error problem => refuse name problem 1
  | .ok call =>
      let deletes := call.has 'd'
      let squeezes := call.has 's'
      let hint (problem : Text) (line : String) : Step Nat := do
        complain name problem
        report line
        report ("Try '" ++ name ++ " --help' for more information.")
        return 1
      let least := if deletes = squeezes then 2 else 1
      let most := if deletes && !squeezes then 1 else 2
      let operands := call.operands
      match operands, operands.drop most with
      | [], _ => refuse name "missing operand" 1
      | _, extra :: _ =>
          let problem := "extra operand ".toList ++ nameInQuotes extra
          if operands.length = 2 then
            hint problem "Only one string may be given when deleting without squeezing repeats."
          else refuse name problem 1
      | first :: rest, [] =>
          if operands.length < least then
            hint ("missing operand after ".toList ++ nameInQuotes first)
              (if squeezes then
                "Two strings must be given when both deleting and squeezing repeats."
              else "Two strings must be given when translating.")
          else
            let fails (problem : Text) : Step Nat := do
              complain name problem
              return 1
            match ← Exchange.read name first with
            | .error problem => fails problem
            | .ok first =>
                let second ← match rest with
                  | text :: _ => do
                      match ← Exchange.read name text with
                      | .error problem => return ← fails problem
                      | .ok second => pure (some second)
                  | [] => pure none
                match ← Exchange.run call first second with
                | .error problem => fails problem
                | .ok _ => return 0

end ShaderCost.Script.Utility
