import ShaderCost.Script.Basic
import ShaderCost.Script.Command
import ShaderCost.Script.Format
import ShaderCost.Script.Pattern

/-!
Braces in words, and patterns with groups of alternatives. Braces hold alternatives with commas
between them, or sequences of numbers or letters: one word becomes several, one for each choice, in
the order that the choices are written in. Groups are `?(…)` for at most one alternative, `*(…)` for
any number, `+(…)` for one or more, `@(…)` for exactly one and `!(…)` for anything else.
-/

namespace ShaderCost.Script.Braces

/-- A character that may have a meaning here, or a part of a word that has none. -/
inductive Atom where
  | char (c : Char)
  | part (segment : Segment)

def atomsOf (word : Word) : List Atom :=
  word.flatMap fun segment => match segment with
    | .bare text => text.map Atom.char
    | segment => [.part segment]

def wordOf (atoms : List Atom) : Word :=
  joinSegments (atoms.map fun atom => match atom with
    | .char c => Segment.bare [c]
    | .part segment => segment)

def Atom.isChar (c : Char) : Atom → Bool
  | char found => found = c
  | part _ => false

/-- The text of atoms that are characters only. -/
def text? : List Atom → Option Text
  | [] => some []
  | .char c :: rest => (text? rest).map (c :: ·)
  | .part _ :: _ => none

/-- The alternatives up to the brace that closes them, and what is behind it. -/
def alternatives? : (depth : Nat) → List Atom → (current : List Atom) →
    (before : List (List Atom)) → Option (List (List Atom) × List Atom)
  | _, [], _, _ => none
  | depth, atom :: rest, current, before =>
      if atom.isChar '{' then alternatives? (depth + 1) rest (atom :: current) before
      else if atom.isChar '}' then
        match depth with
        | 0 => some ((current.reverse :: before).reverse, rest)
        | depth + 1 => alternatives? depth rest (atom :: current) before
      else if atom.isChar ',' && depth = 0 then
        alternatives? depth rest [] (current.reverse :: before)
      else alternatives? depth rest (atom :: current) before

/-- How many words one sequence makes at most. -/
def longest : Nat := 1000000

/-- The numbers from one to another by steps. -/
def numbers (first last step : Int) : Option (List Int) :=
  let size := if step = 0 then 1 else step.natAbs
  let count := (last - first).natAbs / size + 1
  if longest < count then none
  else some ((List.range count).map fun place =>
    if first ≤ last then first + (place * size : Nat) else first - (place * size : Nat))

/-- A number with zeros in front that make it as wide as asked for. -/
def padded (width : Nat) (value : Int) : Text :=
  let digits := Text.ofNat value.natAbs
  if value < 0 then '-' :: List.replicate (width - 1 - digits.length) '0' ++ digits
  else List.replicate (width - digits.length) '0' ++ digits

def parts (text : Text) : List Text := go text []
where
  go : Text → (before : Text) → List Text
    | [], before => [before.reverse]
    | '.' :: '.' :: rest, before => before.reverse :: go rest []
    | c :: rest, before => go rest (c :: before)

/-- The texts of a sequence such as `1..9`, `a..e` or `0..20..5`. -/
def sequence? (text : Text) : Option (List Text) := do
  let (first, last, step) ← match parts text with
    | [first, last] => some (first, last, 1)
    | [first, last, step] => (Numeral.ofText? false step).map fun step => (first, last, step)
    | _ => none
  let isWide (text : Text) : Bool :=
    let digits := if text.head? = some '-' then text.drop 1 else text
    digits.length != 1 && digits.head? = some '0'
  match Numeral.ofText? false first, Numeral.ofText? false last, first, last with
  | some low, some high, _, _ =>
      let width := if isWide first || isWide last then max first.length last.length else 0
      return (← numbers low high step).map (padded width)
  | _, _, [low], [high] =>
      if low.isAlpha && high.isAlpha then
        return (← numbers low.toNat high.toNat step).map fun code => [Char.ofNat code.toNat]
      else none
  | _, _, _, _ => none

/-- All words that a word makes, as atoms. -/
def expand : (fuel : Nat) → List Atom → List (List Atom)
  | 0, atoms => [atoms]
  | fuel + 1, atoms =>
      let front := atoms.takeWhile fun atom => !atom.isChar '{'
      match atoms.drop front.length with
      | [] => [atoms]
      | brace :: rest =>
          let plain (_ : Unit) : List (List Atom) :=
            (expand fuel rest).map fun behind => front ++ brace :: behind
          let combined (choices : List (List Atom)) (behind : List Atom) : List (List Atom) :=
            let ends := expand fuel behind
            choices.flatMap fun choice => ends.map fun behind => front ++ choice ++ behind
          match alternatives? 0 rest [] [] with
          | none => plain ()
          | some ([only], behind) =>
              match (text? only).bind sequence? with
              | some texts => combined (texts.map fun text => text.map Atom.char) behind
              | none => plain ()
          | some (choices, behind) => combined (choices.flatMap (expand fuel)) behind

/-- The words that a word with braces makes. -/
def words (word : Word) : List Word :=
  let hasBrace := word.any fun segment => match segment with
    | .bare text => '{' ∈ text
    | _ => false
  if hasBrace then
    let atoms := atomsOf word
    (expand (atoms.length + 1) atoms).map wordOf
  else [word]

end ShaderCost.Script.Braces

namespace ShaderCost.Script

/-- A pattern that may have groups. -/
structure Matcher where
  pattern : Pattern
  hasGroups : Bool
  /-- Whether large and small letters are the same. -/
  ignoresCase : Bool := false
  deriving DecidableEq

namespace Matcher

/-- A part of a pattern. -/
inductive Part where
  | anything
  | single (pattern : Pattern)
  | group (kind : Char) (alternatives : List (List Part))

/-- Characters that begin a group where a parenthesis follows. -/
def isKind (c : PatternChar) : Bool := !c.isQuoted && "?*+@!".toList.elem c.char

/-- The length of a set of characters from its opening bracket on, if it is closed. -/
def setLength? (pattern : Pattern) : Option Nat :=
  match pattern with
  | _ :: rest =>
      (Pattern.takeSet? 'a' rest).map fun (_, behind) => pattern.length - behind.length
  | [] => none

/-- Splits the inside of a group at its bars, up to its closing parenthesis. -/
def splitGroup? : (depth : Nat) → Pattern → (current : Pattern) → (before : List Pattern) →
    Option (List Pattern × Pattern)
  | _, [], _, _ => none
  | depth, c :: rest, current, before =>
      if c.isMark '(' then splitGroup? (depth + 1) rest (c :: current) before
      else if c.isMark ')' then
        match depth with
        | 0 => some ((current.reverse :: before).reverse, rest)
        | depth + 1 => splitGroup? depth rest (c :: current) before
      else if c.isMark '|' && depth = 0 then
        splitGroup? depth rest [] (current.reverse :: before)
      else splitGroup? depth rest (c :: current) before

def partsOf : (fuel : Nat) → Pattern → List Part
  | 0, _ | _ + 1, [] => []
  | fuel + 1, c :: rest =>
      let grouped? : Option (List Pattern × Pattern) := match rest with
        | opening :: inner =>
            if isKind c && opening.isMark '(' then splitGroup? 0 inner [] [] else none
        | [] => none
      match grouped? with
      | some (alternatives, behind) =>
          .group c.char (alternatives.map (partsOf fuel)) :: partsOf fuel behind
      | none =>
          if c.isMark '*' then .anything :: partsOf fuel rest
          else if c.isMark '[' then
            match setLength? (c :: rest) with
            | some length =>
                .single ((c :: rest).take length) :: partsOf fuel ((c :: rest).drop length)
            | none => .single [⟨'[', true⟩] :: partsOf fuel rest
          else .single [c] :: partsOf fuel rest

mutual

/-- How much of a text parts may take from its front, as lengths. -/
def lengths : (fuel : Nat) → List Part → Text → List Nat
  | 0, _, _ => []
  | _ + 1, [], _ => [0]
  | fuel + 1, part :: rest, text =>
      let firsts := partLengths fuel part text
      (firsts.flatMap fun first =>
        (lengths fuel rest (text.drop first)).map fun behind => first + behind).eraseDups

def partLengths : (fuel : Nat) → Part → Text → List Nat
  | 0, _, _ => []
  | fuel + 1, part, text =>
      match part with
      | .anything => List.range (text.length + 1)
      | .single pattern =>
          match text with
          | [] => []
          | c :: _ => if pattern.accepts [c] then [1] else []
      | .group kind alternatives =>
          let once (text : Text) : List Nat :=
            (alternatives.flatMap fun parts => lengths fuel parts text).eraseDups
          if kind = '@' then once text
          else if kind = '?' then (0 :: once text).eraseDups
          else if kind = '!' then
            let taken := once text
            (List.range (text.length + 1)).filter fun length => !taken.elem length
          else
            let more := (once text).filter fun length => length != 0
            let again := more.flatMap fun first =>
              (partLengths fuel (.group '*' alternatives) (text.drop first)).map fun behind =>
                first + behind
            let own := if kind = '*' then [0] else if (once text).elem 0 then [0] else []
            (own ++ again).eraseDups

end

def hasGroup (pattern : Pattern) : Bool :=
  (pattern.zip (pattern.drop 1)).any fun (c, next) => isKind c && next.isMark '('

def ofPattern (pattern : Pattern) : Matcher := ⟨pattern, false, false⟩

/-- Whether there is more to a matcher than its text. -/
def isActive (matcher : Matcher) : Bool :=
  matcher.pattern.isActive || (matcher.hasGroups && hasGroup matcher.pattern) ||
    matcher.ignoresCase

def accepts (matcher : Matcher) (text : Text) : Bool :=
  let lowered : Pattern := if matcher.ignoresCase then
    matcher.pattern.map fun c => ⟨c.char.toLower, c.isQuoted⟩ else matcher.pattern
  let text := if matcher.ignoresCase then text.map Char.toLower else text
  if matcher.hasGroups && hasGroup lowered then
    let pattern := lowered.unescaped
    let parts := partsOf (pattern.length + 1) pattern
    (lengths (4 * (pattern.length + text.length) + 8) parts text).elem text.length
  else lowered.accepts text

/-- A text without what a matcher accepts at one end. -/
def trim (matcher : Matcher) (atEnd longest : Bool) (text : Text) : Text :=
  if matcher.hasGroups && hasGroup matcher.pattern then
    let cuts := List.range (text.length + 1)
    let cuts := if longest then cuts.reverse else cuts
    if atEnd then
      match cuts.find? fun cut => matcher.accepts (text.drop (text.length - cut)) with
      | some cut => text.take (text.length - cut)
      | none => text
    else
      match cuts.find? fun cut => matcher.accepts (text.take cut) with
      | some cut => text.drop cut
      | none => text
  else matcher.pattern.trim atEnd longest text

end Matcher

/-- A pattern in which a caret that opens a set, as it may in the extended language, is the mark
that negates it. -/
def Pattern.withCarets : Pattern → Pattern
  | first :: second :: rest =>
      if first.isMark '[' && second.isMark '^' then first :: ⟨'!', false⟩ :: withCarets rest
      else first :: withCarets (second :: rest)
  | pattern => pattern

end ShaderCost.Script

/-!
Forms of texts that the extended language makes: parts of them, texts with something replaced or
in other letters, and texts as they would be written in a script.
-/

namespace ShaderCost.Script.Forms

/-! Parts. -/

/-- What is left of a sequence from a place on, up to a length. A negative place counts from the
end, and so does a negative length. `none` for a length that ends before the place. -/
def slice? {α : Type} (items : List α) (start : Int) (length : Option Int) : Option (List α) :=
  let count : Int := items.length
  let start := if start < 0 then start + count else start
  if start < 0 || count < start then
    match length with
    | some length => if length < 0 && 0 ≤ start then none else some []
    | none => some []
  else
    let behind := items.drop start.toNat
    match length with
    | none => some behind
    | some length =>
        if 0 ≤ length then some (behind.take length.toNat)
        else
          let stop := count + length
          if stop < start then none else some (behind.take (stop - start).toNat)

/-! Replacing. -/

/-- A replacement, in which an ampersand outside quotes stands for what is replaced. -/
def filled (replacement : Pattern) (found : Text) : Text :=
  replacement.flatMap fun c => if c.isMark '&' then found else [c.char]

/-- How long the longest text is that a pattern accepts at the front of another one. -/
def longestAtFront? (matcher : Matcher) (text : Text) : Option Nat :=
  if matcher.isActive || matcher.pattern.any fun c => c.isMark '\\' then
    (List.range (text.length + 1)).reverse.find? fun length => matcher.accepts (text.take length)
  else if matcher.pattern.text.isPrefixOf text then some matcher.pattern.length
  else none

/-- A text with what a pattern accepts replaced, once or everywhere. -/
def replaceIn (matcher : Matcher) (replacement : Pattern) (isEverywhere : Bool) :
    (fuel : Nat) → Text → Text
  | 0, text => text
  | _ + 1, [] => []
  | fuel + 1, c :: rest =>
      match longestAtFront? matcher (c :: rest) with
      | some (length + 1) =>
          let found := (c :: rest).take (length + 1)
          let behind := (c :: rest).drop (length + 1)
          filled replacement found ++
            if isEverywhere then replaceIn matcher replacement isEverywhere fuel behind
            else behind
      | _ => c :: replaceIn matcher replacement isEverywhere fuel rest

def replaced (anchor : Anchor) (matcher : Matcher) (replacement : Pattern) (text : Text) : Text :=
  match anchor with
  | .front =>
      match longestAtFront? matcher text with
      | some length => filled replacement (text.take length) ++ text.drop length
      | none => text
  | .back =>
      let places := List.range (text.length + 1)
      match places.find? fun place => matcher.accepts (text.drop place) with
      | some place => text.take place ++ filled replacement (text.drop place)
      | none => text
  | .first => if matcher.pattern.isEmpty then text
      else replaceIn matcher replacement false (text.length + 1) text
  | .everywhere => if matcher.pattern.isEmpty then text
      else replaceIn matcher replacement true (text.length + 1) text

/-- A text with the first letter, or all letters, that a pattern accepts in another case. -/
def recased (isUpper isWhole : Bool) (matcher : Matcher) (text : Text) : Text :=
  let accepts (c : Char) : Bool := matcher.pattern.isEmpty || matcher.accepts [c]
  let change (c : Char) : Char :=
    if accepts c then (if isUpper then c.toUpper else c.toLower) else c
  if isWhole then text.map change
  else match text with
    | c :: rest => change c :: rest
    | [] => []

/-! Quoting. -/

def isPlainOctet (c : Char) : Bool := ' ' ≤ c && c ≤ '~'

/-- The escapes of characters that are not printed as they are. -/
def escapes : List (Char × Text) := [
  ('\x07', "\\a"), ('\x08', "\\b"), ('\t', "\\t"), ('\n', "\\n"), ('\x0b', "\\v"),
  ('\x0c', "\\f"), ('\r', "\\r"), ('\x1b', "\\E"), ('\\', "\\\\"), ('\'', "\\'")]

/-- A text in quotes behind a dollar sign. -/
def escaped (text : Text) : Text :=
  let shown (c : Char) : Text := match escapes.lookup c with
    | some escape => escape
    | none =>
        if isPlainOctet c then [c]
        else
          let digits := Nat.toDigits 8 c.toNat
          '\\' :: List.replicate (3 - digits.length) '0' ++ digits
  "$'".toList ++ text.flatMap shown ++ ['\'']

def needsEscapes (text : Text) : Bool := text.any fun c => !isPlainOctet c

/-- A text in single quotes. -/
def singleQuoted (text : Text) : Text :=
  '\'' :: (text.flatMap fun c => if c = '\'' then "'\\''".toList else [c]) ++ ['\'']

def doubleQuoted (text : Text) : Text :=
  if needsEscapes text then escaped text
  else '"' :: (text.flatMap fun c =>
    if "\"$\\\x60".toList.elem c then ['\\', c] else [c]) ++ ['"']

/-- Quotes of one kind or the other, as a text needs them. -/
def reusable (text : Text) : Text :=
  if needsEscapes text then escaped text else singleQuoted text

/-- Characters that have a meaning in scripts. -/
def isSpecial (c : Char) : Bool := "\t\n !\"$&'()*,;<>?[\\]^\x60\x7b|\x7d".toList.elem c

/-- A text with backslashes in front of the characters that have a meaning. -/
def backslashed (text : Text) : Text :=
  if text.isEmpty then "''"
  else if needsEscapes text then escaped text
  else
    let marked := text.zipIdx.map fun (c, place) =>
      let before := if place = 0 then none else text[place - 1]?
      let isFront := before.isNone
      if isSpecial c || (c = '#' && isFront) ||
          (c = '~' && (isFront || before = some ':' || before = some '=')) then ['\\', c]
      else [c]
    marked.flatten

/-- Characters for which the listing of variables quotes a value. -/
def isMeta (c : Char) : Bool := " \t\n'\"\\|&;()<>!\x7b\x7d*[]?^$\x60".toList.elem c

/-- A value in the listing of all variables. -/
def listed (text : Text) : Text :=
  if text.isEmpty then []
  else if needsEscapes text then escaped text
  else if text.any isMeta || text.head? = some '~' || text.head? = some '#' then singleQuoted text
  else text

/-! Escapes that commands resolve. -/

/-- What the escapes of a text stand for. The second value tells whether the text asked for an end
of all output. Octal digits need a zero in front where `needsZero` is set. -/
def unescape (needsZero : Bool) : (fuel : Nat) → Text → (before : Text) → Text × Bool
  | 0, _, before | _ + 1, [], before => (before.reverse, false)
  | fuel + 1, '\\' :: behind, before =>
      match behind with
      | [] => (('\\' :: before).reverse, false)
      | c :: rest =>
          let octal (digits rest : Text) : Text × Bool :=
            unescape needsZero fuel rest (Format.octalOctet digits :: before)
          if c = 'c' then (before.reverse, true)
          else if c = '0' && needsZero then
            let digits := (rest.take 3).takeWhile isOctalDigit
            octal digits (rest.drop digits.length)
          else if isOctalDigit c && !needsZero then
            let digits := (behind.take 3).takeWhile isOctalDigit
            octal digits (behind.drop digits.length)
          else if c = 'x' || c = 'u' || c = 'U' then
            let most := if c = 'x' then 2 else if c = 'u' then 4 else 8
            let digits := (rest.take most).takeWhile isHexDigit
            if digits.isEmpty then unescape needsZero fuel rest (c :: '\\' :: before)
            else
              let code := digitsIn 16 digits
              let written : Text := if c = 'x' then [Char.ofNat code] else writtenCode code
              unescape needsZero fuel (rest.drop digits.length) (written.reverse ++ before)
          else
            let letters := ('E', '\x1b') :: Format.escapeLetters
            match letters.lookup c with
            | some octet => unescape needsZero fuel rest (octet :: before)
            | none => unescape needsZero fuel rest (c :: '\\' :: before)
  | fuel + 1, c :: rest, before => unescape needsZero fuel rest (c :: before)

def unescaped (needsZero : Bool) (text : Text) : Text × Bool :=
  unescape needsZero (text.length + 1) text []

end ShaderCost.Script.Forms
