import ShaderCost.Digest.Basic
import ShaderCost.Script.Utility.Values

/-!
Utilities that show octets, write them in other alphabets, compare them, print digests of files, and
check files against digests.
-/

namespace ShaderCost.Script.Utility

/-! Showing octets. -/

namespace Dumping

inductive Form where
  | octal
  | signed
  | unsigned
  | hexadecimal
  | character
  /-- Characters by their names. -/
  | named
  deriving DecidableEq

/-- How the octets of a line are shown. -/
structure Style where
  form : Form
  /-- How many octets make a value. -/
  size : Nat
  /-- Whether the characters are shown behind the values. -/
  hasTrail : Bool

/-- How many characters a value takes at most. -/
def Style.width (style : Style) : Nat :=
  match style.form with
  | .octal => (8 * style.size + 2) / 3
  | .signed => (Text.ofNat (twoTo (8 * style.size - 1))).length + 1
  | .unsigned => (Text.ofNat (twoTo (8 * style.size) - 1)).length
  | .hexadecimal => 2 * style.size
  | .character | .named => 3

def firstNames : List Text := [
  "nul", "soh", "stx", "etx", "eot", "enq", "ack", "bel", "bs", "ht", "nl", "vt", "ff", "cr", "so",
  "si"]

def secondNames : List Text := [
  "dle", "dc1", "dc2", "dc3", "dc4", "nak", "syn", "etb", "can", "em", "sub", "esc", "fs", "gs",
  "rs", "us", "sp"]

/-- Letters behind a backslash for characters that cannot be seen. -/
def letters : List (Nat × Char) := [
  (0, '0'), (7, 'a'), (8, 'b'), (9, 't'), (10, 'n'), (11, 'v'), (12, 'f'), (13, 'r')]

def filled (width : Nat) (digits : Text) : Text :=
  List.replicate (width - digits.length) '0' ++ digits

def isVisible (octet : Nat) : Bool := 32 ≤ octet && octet < 127

def Style.show (style : Style) (value : Nat) : Text :=
  match style.form with
  | .octal => filled style.width (Nat.toDigits 8 value)
  | .hexadecimal => filled style.width (Nat.toDigits 16 value)
  | .unsigned => Text.ofNat value
  | .signed =>
      let half := twoTo (8 * style.size - 1)
      Text.ofInt (if half ≤ value then (value : Int) - 2 * half else value)
  | .character =>
      if isVisible value then [Char.ofNat value]
      else match letters.lookup value with
        | some letter => ['\\', letter]
        | none => filled 3 (Nat.toDigits 8 value)
  | .named =>
      let value := value % 128
      if value = 127 then "del" else (firstNames ++ secondNames).getD value [Char.ofNat value]

/-- The values that octets make, a last one with zeros where octets are missing. -/
def valuesOf (isBig : Bool) (size : Nat) : (limit : Nat) → List Nat → List Nat
  | 0, _ => []
  | limit + 1, octets =>
      if octets.isEmpty then []
      else
        let taken := octets.take size ++ List.replicate (size - octets.length) 0
        let ordered := if isBig then taken else taken.reverse
        ordered.foldl (fun value octet => 256 * value + octet) 0 ::
          valuesOf isBig size limit (octets.drop size)

/-- How octets are laid out. -/
structure Layout where
  styles : List Style
  /-- How many octets a line has. -/
  perLine : Nat
  isBig : Bool
  /-- The base of the places at the front of lines, with their length. -/
  places : Option (Nat × Nat)
  /-- Whether lines like the one before are shown. -/
  showsAll : Bool

/-- How many characters the values of a line take, with one blank before each. -/
def Layout.width (layout : Layout) : Nat :=
  (layout.styles.map fun style => (style.width + 1) * (layout.perLine / style.size)).foldl max 0

def Layout.place (layout : Layout) (place : Nat) : Text :=
  match layout.places with
  | some (base, length) => filled length (Nat.toDigits base place)
  | none => []

/-- The values of a line in one style. -/
def Layout.row (layout : Layout) (style : Style) (octets : List Nat) : Text :=
  let fields := layout.perLine / style.size
  let padding := layout.width - style.width * fields
  let values := valuesOf layout.isBig style.size octets.length octets
  let shown := values.zipIdx.flatMap fun (value, index) =>
    let left := fields - index
    let width := padding * left / fields - padding * (left - 1) / fields + style.width
    padLeft width (style.show value)
  if style.hasTrail then
    let trail := octets.map fun octet => if isVisible octet then Char.ofNat octet else '.'
    shown ++ List.replicate (layout.width - shown.length) ' ' ++ "  >".toList ++ trail ++ ['<']
  else shown

def Layout.line (layout : Layout) (place : Nat) (octets : List Nat) : Text :=
  let front := layout.place place
  let rows := layout.styles.map fun style => layout.row style octets
  match rows with
  | [] => []
  | first :: others =>
      front ++ first ++ ['\n'] ++ others.flatMap fun row =>
        List.replicate front.length ' ' ++ row ++ ['\n']

/-- The lines of octets from a place on. -/
def Layout.lines (layout : Layout) : (limit : Nat) → (place : Nat) → List Nat →
    (before : Option (List Nat)) → (isHidden : Bool) → List Text
  | 0, _, _, _, _ => []
  | limit + 1, place, octets, before, isHidden =>
      match octets with
      | [] => if layout.places.isSome then [layout.place place ++ ['\n']] else []
      | octets =>
          let taken := octets.take layout.perLine
          let next := place + taken.length
          let rest := octets.drop layout.perLine
          if !layout.showsAll && before = some taken && taken.length = layout.perLine then
            let more := layout.lines limit next rest before true
            if isHidden then more else "*\n".toList :: more
          else layout.line place taken :: layout.lines limit next rest (some taken) false

/-- The sizes that letters stand for. -/
def sizes : List (Char × Nat) := [('C', 1), ('S', 2), ('I', 4), ('L', 8)]

def formOf? (letter : Char) : Option Form :=
  [('a', Form.named), ('c', .character), ('d', .signed), ('o', .octal), ('u', .unsigned),
    ('x', .hexadecimal)].lookup letter

/-- The styles that a text asks for. -/
def stylesOf (whole : Text) : (fuel : Nat) → Text → Except Text (List Style)
  | 0, _ | _ + 1, [] => .ok []
  | fuel + 1, letter :: rest => do
      let invalid : Text := "invalid type string " ++ nameInQuotes whole
      match formOf? letter with
      | none => throw ("invalid character '".toList ++ [letter] ++ "' in type string ".toList ++
          nameInQuotes whole)
      | some form =>
          let isText := form = .named || form = .character
          let digits := rest.takeWhile Char.isDigit
          let (size, rest) ←
            if isText then pure (1, rest)
            else match rest.head?.bind fun c => sizes.lookup c with
              | some size => pure (size, rest.tail)
              | none =>
                  if digits.isEmpty then pure (4, rest)
                  else
                    let size := digitsIn 10 digits
                    if [1, 2, 4, 8].elem size then pure (size, rest.drop digits.length)
                    else throw (invalid ++ ";\nthis system doesn't provide a ".toList ++ digits ++
                      "-byte integral type".toList)
          let hasTrail := rest.head? = some 'z'
          let more ← stylesOf whole fuel (if hasTrail then rest.tail else rest)
          return ⟨form, size, hasTrail⟩ :: more

/-- Letters that stand for styles. -/
def shortStyles : List (Char × Text) := [
  ('a', "a"), ('b', "o1"), ('c', "c"), ('D', "u4"), ('d', "u2"), ('H', "x4"), ('X', "x4"),
  ('h', "x2"), ('x', "x2"), ('I', "d8"), ('L', "d8"), ('l', "d8"), ('i', "d4"), ('O', "o4"),
  ('B', "o2"), ('o', "o2"), ('s', "d2")]

def options : Options := {
  flags := "abcDdHXhxILliOBosvw".toList
  valued := "AtjNSwe".toList
  words := [("address-radix", 'A'), ("format", 't'), ("skip-bytes", 'j'), ("read-bytes", 'N'),
    ("output-duplicates", 'v'), ("width", 'w'), ("strings", 'S'), ("endian", 'e')]
  refusal := 1 }

/-- The factors that letters after a count stand for. -/
def countFactors : List (Text × Nat) := [
  ([], 1), ("b", 512), ("k", 1024), ("K", 1024), ("kB", 1000), ("KB", 1000), ("m", 1048576),
  ("M", 1048576), ("MB", 1000000), ("G", 1073741824)]

/-- A count of octets, in any base. -/
def count? (text : Text) : Option Nat := do
  let reading ← Numeral.readWithin? 0 Numeral.greatest true text
  let factor ← countFactors.lookup reading.rest
  return reading.value.toNat * factor

end Dumping

/-- Takes the contents of files one behind the other. The second value is a status. -/
def joinContents (name : Text) (paths : List Text) : Step (Text × Nat) := do
  let mut parts : List Text := []
  let mut status := 0
  for path in if paths.isEmpty then ["-".toList] else paths do
    match ← contentOrComplain name path with
    | some text => parts := text :: parts
    | none => status := 1
  return (parts.reverse.flatten, status)

/-- Shows octets as numbers or characters. -/
def od : Utility := withCall Dumping.options fun name call => do
  let asked := call.options.filterMap fun (letter, value) =>
    if letter = 't' then some value else Dumping.shortStyles.lookup letter
  let asked := if asked.isEmpty then ["o2".toList] else asked
  match asked.mapM fun text => Dumping.stylesOf text (text.length + 1) text with
  | .error problem =>
      complain name problem
      return 1
  | .ok styles =>
      let styles := styles.flatten
      let base := (call.value? 'A').getD ['o']
      let places ← match [(['o'], some (8, 7)), (['d'], some (10, 7)), (['x'], some (16, 6)),
          (['n'], none)].lookup (base.take 1) with
        | some places => pure places
        | none =>
            complain name ("invalid output address radix '".toList ++ base.take 1 ++
              "'; it must be one character from [doxn]".toList)
            return 1
      let unit := (styles.map Dumping.Style.size).foldl max 1
      let asked := match call.value? 'w' with
        | some [] => 32
        | some width => (Dumping.count? width).getD 0
        | none => 16
      let fits := asked != 0 && asked % unit = 0
      if !fits then
        complain name ("warning: invalid width ".toList ++ Text.ofNat asked ++ "; using ".toList ++
          Text.ofNat unit ++ " instead".toList)
      let layout : Dumping.Layout := {
        styles, perLine := if fits then asked else unit, isBig := call.value? 'e' = some "big"
        places, showsAll := call.has 'v' }
      let (text, status) ← joinContents name call.operands
      let skipped := ((call.value? 'j').bind Dumping.count?).getD 0
      if text.length < skipped then
        complain name "cannot skip past end of combined input"
        return 1
      let rest := text.drop skipped
      let rest := match (call.value? 'N').bind Dumping.count? with
        | some count => rest.take count
        | none => rest
      let octets := rest.map Char.toNat
      print (layout.lines (octets.length + 1) skipped octets none false).flatten
      return status

/-! Other alphabets. -/

namespace Alphabet

/-- Digits in the place of octets: so many octets make so many digits. -/
structure Code where
  digits : Text
  octetsPerGroup : Nat
  digitsPerGroup : Nat

def upperCase : Text := (List.range 26).map fun offset => Char.ofNat ('A'.toNat + offset)

def base64 : Code := ⟨upperCase ++ upperCase.map Char.toLower ++ "0123456789+/".toList, 3, 4⟩

def base32 : Code := ⟨upperCase ++ "234567".toList, 5, 8⟩

/-- The digits of one group of octets. -/
def Code.group (code : Code) (octets : List Nat) : Text :=
  let missing := code.octetsPerGroup - octets.length
  let value := (octets ++ List.replicate missing 0).foldl (fun value octet => 256 * value + octet) 0
  let base := code.digits.length
  let digits := (List.range code.digitsPerGroup).foldl (fun (value, digits) _ =>
    (value / base, code.digits.getD (value % base) '=' :: digits)) ((value, []) : Nat × Text)
  let used := (octets.length * code.digitsPerGroup + code.octetsPerGroup - 1) / code.octetsPerGroup
  digits.2.take used ++ List.replicate (code.digitsPerGroup - used) '='

def Code.encode (code : Code) : (limit : Nat) → List Nat → List Text
  | 0, _ => []
  | limit + 1, octets =>
      if octets.isEmpty then []
      else code.group (octets.take code.octetsPerGroup) ::
        code.encode limit (octets.drop code.octetsPerGroup)

/-- The octets of one group of digits, unless it is not well-formed. A group that is cut short is
read as far as it goes. -/
def Code.ungroup (code : Code) (digits : Text) : Text × Bool :=
  let known := digits.takeWhile code.digits.elem
  let isPadded := (digits.drop known.length).all (· == '=')
  let bits := if code.digits.length = 64 then 6 else 5
  let value := known.foldl (fun value c =>
    code.digits.length * value + (code.digits.idxOf? c).getD 0) 0
  let count := known.length * bits / 8
  let spare := known.length * bits - 8 * count
  let octets := (List.range count).map fun place =>
    Char.ofNat (value / twoTo spare / twoTo (8 * (count - 1 - place)) % 256)
  (octets, isPadded && digits.length = code.digitsPerGroup && 1 < known.length && spare < bits)

/-- The octets that digits spell, and whether they all do. -/
def Code.decode (code : Code) : (limit : Nat) → Text → (before : List Text) → Text × Bool
  | 0, _, before => (before.reverse.flatten, true)
  | limit + 1, digits, before =>
      if digits.isEmpty then (before.reverse.flatten, true)
      else
        let (octets, isWhole) := code.ungroup (digits.take code.digitsPerGroup)
        if isWhole then
          code.decode limit (digits.drop code.digitsPerGroup) (octets :: before)
        else ((octets :: before).reverse.flatten, false)

end Alphabet

/-- Parts of a text that are no longer than a width. -/
def wrapped (width : Nat) : (limit : Nat) → Text → List Text
  | 0, _ => []
  | limit + 1, text =>
      if text.isEmpty then []
      else if width = 0 then [text]
      else text.take width :: wrapped width limit (text.drop width)

/-- Writes octets in another alphabet, or reads them. -/
def inAlphabet (code : Alphabet.Code) : Utility := withCall
    ⟨"di", "w", [("decode", 'd'), ("ignore-garbage", 'i'), ("wrap", 'w')], 1⟩ fun name call => do
  match call.operands.drop 1, call.value? 'w', (call.value? 'w').map Numeral.count? with
  | extra :: _, _, _ => refuse name ("extra operand " ++ nameInQuotes extra) 1
  | [], some width, some none =>
      complain name ("invalid wrap size: " ++ nameInQuotes width)
      return 1
  | [], _, width =>
      let width := (width.getD none).getD 76
      match ← contentOrComplain name (call.operands.headD "-".toList) with
      | none => return 1
      | some text =>
          if call.has 'd' then
            let digits := text.filter fun c =>
              c != '\n' && (!call.has 'i' || c = '=' || code.digits.elem c)
            let (octets, isWhole) := code.decode (digits.length + 1) digits []
            print octets
            if !isWhole then complain name "invalid input"
            return if isWhole then 0 else 1
          else
            let digits := (code.encode (text.length + 1) (text.map Char.toNat)).flatten
            let lines := wrapped width (digits.length + 1) digits
            print (if width = 0 then digits else joinLines lines)
            return 0

/-! Comparing octets. -/

/-- The places, counted from one, where texts differ, with the octets there. -/
def differences : Text → Text → (place : Nat) → List (Nat × Char × Char)
  | c :: left, d :: right, place =>
      if c = d then differences left right (place + 1)
      else (place, c, d) :: differences left right (place + 1)
  | _, _, _ => []

/-- An octet in base eight, and as a character that can be seen. -/
def octalShown (c : Char) : Text := padLeft 3 (Nat.toDigits 8 c.toNat)

def visibleShown (c : Char) : Text :=
  let (front, code) : Text × Nat :=
    if 128 ≤ c.toNat then ("M-", c.toNat - 128) else ([], c.toNat)
  if code < 32 then front ++ ['^', Char.ofNat (code + 64)]
  else if code = 127 then front ++ "^?"
  else front ++ [Char.ofNat code]

/-- Tells where two files differ. -/
def cmp : Utility := withCall
    ⟨"slb", "in", [("quiet", 's'), ("silent", 's'), ("verbose", 'l'), ("print-bytes", 'b'),
      ("bytes", 'n'), ("ignore-initial", 'i')], 2⟩ fun name call => do
  let hint : Step Nat := do
    complain name ("Try '" ++ name ++ " --help' for more information.")
    return 2
  match call.operands with
  | [] =>
      complain name ("missing operand after " ++ nameInQuotes name)
      hint
  | first :: rest =>
      let second := rest.headD "-".toList
      let cut (text : Text) : Text :=
        let text := text.drop (((call.value? 'i').bind Dumping.count?).getD 0)
        match (call.value? 'n').bind Dumping.count? with
        | some count => text.take count
        | none => text
      let some left ← contentOrComplain name first | return 2
      let some right ← contentOrComplain name second | return 2
      let (left, right) := (cut left, cut right)
      let found := differences left right 1
      let lineAt (place : Nat) : Nat := (left.take (place - 1)).count '\n' + 1
      let width := (Text.ofNat (max left.length right.length)).length
      if call.has 's' then return if found.isEmpty && left.length = right.length then 0 else 1
      match found with
      | (place, c, d) :: _ =>
          if call.has 'l' then
            for (place, c, d) in found do
              let shown (c : Char) : Text := if call.has 'b' then
                  let text := visibleShown c
                  octalShown c ++ ' ' :: text ++ List.replicate (4 - text.length) ' '
                else octalShown c
              let last : Text := if call.has 'b' then octalShown d ++ ' ' :: visibleShown d
                else octalShown d
              print (padLeft width (Text.ofNat place) ++ ' ' :: shown c ++ ' ' :: last ++ ['\n'])
          else
            let unit : Text := if call.has 'b' then "byte " else "char "
            let behind : Text := if call.has 'b' then
                " is ".toList ++ octalShown c ++ ' ' :: visibleShown c ++ ' ' :: octalShown d ++
                  ' ' :: visibleShown d
              else []
            print (first ++ ' ' :: second ++ " differ: ".toList ++ unit ++ Text.ofNat place ++
              ", line ".toList ++ Text.ofNat (lineAt place) ++ behind ++ ['\n'])
      | [] => pure ()
      if left.length != right.length && (found.isEmpty || call.has 'l') then
        let (path, text) := if left.length < right.length then (first, left) else (second, right)
        let line := Text.ofNat (text.count '\n' + if text.getLast? = some '\n' then 0 else 1)
        let inside : Text := if text.getLast? = some '\n' then ", line " else ", in line "
        report (name ++ ": EOF on ".toList ++ path ++
          if text.isEmpty then " which is empty".toList
          else " after byte ".toList ++ Text.ofNat text.length ++
            if call.has 'l' then [] else inside ++ line)
      return if found.isEmpty && left.length = right.length then 0 else 1

end ShaderCost.Script.Utility

namespace ShaderCost.Script.Utility

namespace Digests

/-- A digest with the name of its algorithm. -/
structure Method where
  name : Text
  /-- How many digits the digest has. -/
  digits : Nat
  apply : Octets → List UInt8

def md5 : Method := ⟨"MD5", 32, Digest.md5⟩
def sha1 : Method := ⟨"SHA1", 40, Digest.sha1⟩
def sha224 : Method := ⟨"SHA224", 56, Digest.sha224⟩
def sha256 : Method := ⟨"SHA256", 64, Digest.sha256⟩
def sha384 : Method := ⟨"SHA384", 96, Digest.sha384⟩
def sha512 : Method := ⟨"SHA512", 128, Digest.sha512⟩

def methods : List Method := [md5, sha1, sha224, sha256, sha384, sha512]

/-- How many characters of a text are as much work as a turn, for a digest. -/
def charactersPerTurn : Nat := 1

def Method.of (method : Method) (text : Text) : Step Text := do
  spend (text.length / charactersPerTurn)
  return Digest.hexadecimal (method.apply (gather text))

/-- A line that tells the digest of a file. -/
def line (method : Method) (isTagged : Bool) (mark : Char) (digest path : Text) : Text :=
  if isTagged then method.name ++ " (".toList ++ path ++ ") = ".toList ++ digest
  else digest ++ [' ', mark] ++ path

/-- The digest and the path that a line tells. -/
def ofLine? (method : Method) (line : Text) : Option (Text × Text) :=
  let isDigest (text : Text) : Bool := text.length = method.digits && text.all isHexDigit
  match Text.after? (method.name ++ " (".toList) line with
  | some rest =>
      let digest := (rest.reverse.take method.digits).reverse
      let path := rest.take (rest.length - method.digits - 4)
      if isDigest digest && (rest.drop path.length).take 4 = ") = " then some (digest, path)
      else none
  | none =>
      let digest := line.take method.digits
      match line.drop method.digits with
      | ' ' :: mark :: path =>
          if isDigest digest && (mark = ' ' || mark = '*') && !path.isEmpty then some (digest, path)
          else none
      | _ => none

/-- What came of checking. -/
structure Tally where
  right : Nat
  wrong : Nat
  unread : Nat
  improper : Nat

/-- A warning that counts something. -/
def warning (name : Text) (count : Nat) (one many : Text) : Step Unit :=
  if count = 0 then pure ()
  else complain name ("WARNING: ".toList ++ Text.ofNat count ++ ' ' ::
    if count = 1 then one else many)

/-- Checks the files that the lines of a list tell digests of. -/
def check (name : Text) (call : Call) (method : Method) (path text : Text) : Step Bool := do
  let isQuiet := call.has 'q' || call.has 's'
  let mut tally : Tally := ⟨0, 0, 0, 0⟩
  for line in bareLines text do
    match ofLine? method line with
    | none => tally := { tally with improper := tally.improper + 1 }
    | some (digest, file) =>
        match ← content file with
        | .error error =>
            if !(call.has 'i' && error = .missing) then
              complain name (file ++ ": ".toList ++ wording error)
              if !call.has 's' then print (file ++ ": FAILED open or read\n".toList)
              tally := { tally with unread := tally.unread + 1 }
        | .ok content =>
            if (← method.of content) = digest.map Char.toLower then
              if !isQuiet then print (file ++ ": OK\n".toList)
              tally := { tally with right := tally.right + 1 }
            else
              if !call.has 's' then print (file ++ ": FAILED\n".toList)
              tally := { tally with wrong := tally.wrong + 1 }
  if tally.right + tally.wrong + tally.unread = 0 && !call.has 'i' then
    let shown : Text := if path = "-" then "'standard input'" else path
    complain name (shown ++ ": no properly formatted checksum lines found".toList)
    return false
  if !call.has 's' then
    warning name tally.improper "line is improperly formatted" "lines are improperly formatted"
    warning name tally.unread "listed file could not be read" "listed files could not be read"
    warning name tally.wrong "computed checksum did NOT match" "computed checksums did NOT match"
  if call.has 'i' && tally.right + tally.wrong = 0 then
    complain name (path ++ ": no file was verified".toList)
    return false
  return tally.wrong + tally.unread = 0 && !(call.has 'S' && tally.improper != 0)

def options : Options := {
  flags := "btcwzTiqsS".toList
  valued := []
  words := [("binary", 'b'), ("text", 't'), ("check", 'c'), ("warn", 'w'), ("zero", 'z'),
    ("tag", 'T'), ("ignore-missing", 'i'), ("quiet", 'q'), ("status", 's'), ("strict", 'S')]
  refusal := 1 }

/-- Prints digests of files, or checks them. -/
def list (method : Method) (name : Text) (call : Call) : Step Nat := do
  let isTagged := call.has 'T'
  let ending : Char := if call.has 'z' then '\x00' else '\n'
  let mut status := 0
  for path in if call.operands.isEmpty then ["-".toList] else call.operands do
    match ← contentOrComplain name path with
    | none => status := 1
    | some text =>
        if call.has 'c' then
          if !(← check name call method path text) then status := 1
        else
          let mark : Char := if call.has 'b' then '*' else ' '
          print (line method isTagged mark (← method.of text) path ++ [ending])
  return status

end Digests

/-- The utility that works with one method. -/
def digestBy (method : Digests.Method) : Utility := withCall Digests.options (Digests.list method)

/-- Prints sums with the number of octets, or of blocks. -/
def printSums (name : Text) (paths : List Text) (showsPath : Bool) (shown : Text → Text) :
    Step Nat := do
  let mut status := 0
  for path in if paths.isEmpty then ["-".toList] else paths do
    match ← contentOrComplain name path with
    | none => status := 1
    | some text =>
        spend (text.length / charactersPerTurn)
        let behind : Text := if showsPath && !paths.isEmpty then ' ' :: path else []
        print (shown text ++ behind ++ ['\n'])
  return status

def polynomialLine (text : Text) : Text :=
  Text.ofNat (Digest.polynomialSum (gather text)) ++ ' ' :: Text.ofNat text.length

def foldedLine (text : Text) : Text :=
  Text.ofNat (Digest.foldedSum (gather text)) ++ ' ' :: Text.ofNat ((text.length + 511) / 512)

def turningLine (text : Text) : Text :=
  let digits := Text.ofNat (Digest.turningSum (gather text))
  List.replicate (5 - digits.length) '0' ++ digits ++
    ' ' :: padLeft 5 (Text.ofNat ((text.length + 1023) / 1024))

/-- Prints sums of files, by a polynomial unless another method is asked for. -/
def cksum : Utility := fun name arguments =>
  let known : Options := { Digests.options with
    flags := 'u' :: Digests.options.flags, valued := ['a']
    words := ("algorithm", 'a') :: ("untagged", 'u') :: Digests.options.words }
  withCall known (fun name call => do
    match call.value? 'a' with
    | none => printSums name call.operands true polynomialLine
    | some method =>
        if method = "crc" then printSums name call.operands true polynomialLine
        else if method = "bsd" then printSums name call.operands true turningLine
        else if method = "sysv" then printSums name call.operands true foldedLine
        else match Digests.methods.find? fun known =>
            known.name.map Char.toLower = method with
          | some known =>
              let call := if call.has 'u' then call else call.add 'T' []
              Digests.list known name call
          | none =>
              complain name ("invalid argument ".toList ++ nameInQuotes method ++
                " for ".toList ++ nameInQuotes "--algorithm")
              return 1) name arguments

/-- Prints short sums of files. -/
def sum : Utility := withCall ⟨"rs", [], [("sysv", 's')], 1⟩ fun name call =>
  printSums name call.operands true (if call.has 's' then foldedLine else turningLine)

end ShaderCost.Script.Utility
