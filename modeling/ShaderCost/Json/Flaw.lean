import ShaderCost.Json.Reader
import ShaderCost.Text.Octets

/-!
What is wrong with a text that is not JSON, and where. The place is the one up to which the text
was read when the first thing that does not fit was met; columns count octets.
-/

namespace ShaderCost.JsonValue

/-- What does not fit. -/
inductive Complaint where
  | endsInList
  | endsInObject
  | endsInString
  | endsInValue
  | noColon
  | noEndOfList
  | noEndOfObject
  | noIdentifier
  | noValue
  | badEscape
  | badNumber
  | numberTooLarge
  | controlCharacter
  | keyIsNoString
  | loneSurrogate
  | endOfEscape
  | commaAtEnd
  | charactersBehind
  | tooDeep
  deriving DecidableEq

def Complaint.wording : Complaint → Text
  | endsInList => "EOF while parsing a list"
  | endsInObject => "EOF while parsing an object"
  | endsInString => "EOF while parsing a string"
  | endsInValue => "EOF while parsing a value"
  | noColon => "expected `:`"
  | noEndOfList => "expected `,` or `]`"
  | noEndOfObject => "expected `,` or `\x7d`"
  | noIdentifier => "expected ident"
  | noValue => "expected value"
  | badEscape => "invalid escape"
  | badNumber => "invalid number"
  | numberTooLarge => "number out of range"
  | controlCharacter => "control character (\\u0000-\\u001F) found while parsing a string"
  | keyIsNoString => "key must be a string"
  | loneSurrogate => "lone leading surrogate in hex escape"
  | endOfEscape => "unexpected end of hex escape"
  | commaAtEnd => "trailing comma"
  | charactersBehind => "trailing characters"
  | tooDeep => "recursion limit exceeded"

/-- What does not fit, with the place: so many octets behind the point from which the rest of the
text goes on. -/
structure Flaw where
  complaint : Complaint
  rest : Text
  past : Nat

namespace Flaw

/-- A flaw that was met right before the rest of the text. -/
def here {α : Type} (complaint : Complaint) (rest : Text) : Except Flaw α :=
  .error ⟨complaint, rest, 0⟩

/-- A flaw in the first character of the rest of the text. -/
def next {α : Type} (complaint : Complaint) (rest : Text) : Except Flaw α :=
  .error ⟨complaint, rest, 1⟩

def message (flaw : Flaw) (text : Text) : Text :=
  let octets := (Text.toOctets text).toList
  let start := octets.length - (Text.toOctets flaw.rest).size
  let before := octets.take (start + flaw.past)
  let line := before.count 10 + 1
  let column := (before.reverse.takeWhile (· != 10)).length
  flaw.complaint.wording ++ " at line ".toList ++ Nat.toDigits 10 line ++ " column ".toList ++
    Nat.toDigits 10 column

end Flaw

/-- Passes over a word whose first letter was read. -/
def passWord : Text → Text → Except Flaw Text
  | [], rest => .ok rest
  | _ :: _, [] => Flaw.here .endsInValue []
  | letter :: letters, c :: rest =>
      if c = letter then passWord letters rest else Flaw.here .noIdentifier rest

/-- Passes over four hexadecimal digits and gives the unit that they spell. Four octets are taken,
whatever they are. -/
def passUnit (text : Text) : Except Flaw (Nat × Text) :=
  if (Text.toOctets text).size < 4 then Flaw.here .endsInString []
  else match text with
    | a :: b :: c :: d :: rest =>
        match unit? a b c d with
        | some unit => .ok (unit, rest)
        | none => .error ⟨.badEscape, text, 4⟩
    | _ => .error ⟨.badEscape, text, 4⟩

/-- Passes over the digits of an escape, and over those of the lower surrogate that an upper one
needs behind it. -/
def passEscape (text : Text) : Except Flaw Text := do
  let (first, rest) ← passUnit text
  if 0xdc00 ≤ first && first < 0xe000 then Flaw.here .loneSurrogate rest
  else if first < 0xd800 || 0xe000 ≤ first then return rest
  else match rest with
    | '\\' :: 'u' :: rest =>
        let (second, rest) ← passUnit rest
        if second < 0xdc00 || 0xe000 ≤ second then Flaw.here .loneSurrogate rest
        else return rest
    | '\\' :: [] => Flaw.here .endsInString []
    | '\\' :: rest => Flaw.next .endOfEscape rest
    | [] => Flaw.here .endsInString []
    | rest => Flaw.next .endOfEscape rest

/-- Passes over a string behind its opening quote. -/
def passString : (fuel : Nat) → Text → Except Flaw Text
  | 0, _ | _, [] => Flaw.here .endsInString []
  | fuel + 1, c :: rest =>
      if c = '"' then .ok rest
      else if c = '\\' then
        match rest with
        | [] => Flaw.here .endsInString []
        | 'u' :: rest => do passString fuel (← passEscape rest)
        | c :: rest => if (shortEscape? c).isSome then passString fuel rest else Flaw.here .badEscape rest
      else if c.toNat < 32 then Flaw.here .controlCharacter rest
      else passString fuel rest

/-- Passes over digits of which there has to be one. -/
def passDigits (text : Text) : Except Flaw Text :=
  match text with
  | [] => Flaw.here .endsInValue []
  | c :: rest =>
      if c.isDigit then .ok (rest.dropWhile Char.isDigit) else Flaw.here .badNumber rest

/-- What is left once digits spell more than a power of ten can be. -/
def behindGreatestPower? : (power : Nat) → Text → Option Text
  | _, [] => none
  | power, c :: rest =>
      if !c.isDigit then none
      else
        let power := 10 * power + (c.toNat - '0'.toNat)
        if twoTo 31 ≤ power then some rest else behindGreatestPower? power rest

/-- Passes over a numeral. -/
def passNumeral (text : Text) : Except Flaw Text := do
  let unsigned := if text.head? = some '-' then text.drop 1 else text
  let rest ← match unsigned with
    | '0' :: c :: rest =>
        if c.isDigit then Flaw.next .badNumber (c :: rest) else pure (c :: rest)
    | unsigned => passDigits unsigned
  let rest ← match rest with
    | '.' :: c :: behind =>
        if c.isDigit then pure (behind.dropWhile Char.isDigit)
        else Flaw.next .badNumber (c :: behind)
    | ['.'] => Flaw.here .endsInValue []
    | rest => pure rest
  let isPowered := rest.head? = some 'e' || rest.head? = some 'E'
  let power := if isPowered then rest.drop 1 else []
  let digits := if power.head? = some '+' || power.head? = some '-' then power.drop 1 else power
  let rest ← if isPowered then passDigits digits else pure rest
  match takeNumeral? text with
  | some (numeral, _) =>
      if numeral.value?.isSome then return rest
      else match behindGreatestPower? 0 digits with
        | some rest => Flaw.here .numberTooLarge rest
        | none => Flaw.here .numberTooLarge rest
  | none => return rest

mutual

/-- Passes over a value. `fuel` bounds the calls, `depth` the nesting left. -/
def passValue : (fuel depth : Nat) → Text → Except Flaw Text
  | 0, _, rest => Flaw.here .endsInValue rest
  | fuel + 1, depth, text =>
      match skipSpace text with
      | [] => Flaw.here .endsInValue []
      | 'n' :: rest => passWord "ull" rest
      | 't' :: rest => passWord "rue" rest
      | 'f' :: rest => passWord "alse" rest
      | '"' :: rest => passString (rest.length + 1) rest
      | '[' :: rest =>
          match depth with
          | 0 => Flaw.next .tooDeep ('[' :: rest)
          | depth + 1 =>
              match skipSpace rest with
              | [] => Flaw.here .endsInList []
              | ']' :: rest => .ok rest
              | rest => passItems fuel depth rest
      | '\x7b' :: rest =>
          match depth with
          | 0 => Flaw.next .tooDeep ('\x7b' :: rest)
          | depth + 1 =>
              match skipSpace rest with
              | [] => Flaw.here .endsInObject []
              | '\x7d' :: rest => .ok rest
              | rest => passMembers fuel depth rest
      | c :: rest =>
          if c = '-' || c.isDigit then passNumeral (c :: rest) else Flaw.next .noValue (c :: rest)

/-- Passes over the items of a list up to its end, at least one. -/
def passItems : (fuel depth : Nat) → Text → Except Flaw Text
  | 0, _, rest => Flaw.here .endsInList rest
  | fuel + 1, depth, text => do
      match skipSpace (← passValue fuel depth text) with
      | [] => Flaw.here .endsInList []
      | ']' :: rest => return rest
      | ',' :: rest =>
          match skipSpace rest with
          | [] => Flaw.here .endsInValue []
          | ']' :: rest => Flaw.next .commaAtEnd (']' :: rest)
          | rest => passItems fuel depth rest
      | rest => Flaw.next .noEndOfList rest

/-- Passes over the members of an object up to its end, at least one. -/
def passMembers : (fuel depth : Nat) → Text → Except Flaw Text
  | 0, _, rest => Flaw.here .endsInObject rest
  | fuel + 1, depth, text => do
      let behind ← match text with
        | '"' :: rest => passString (rest.length + 1) rest
        | rest => Flaw.next .keyIsNoString rest
      let behind ← match skipSpace behind with
        | [] => Flaw.here .endsInObject []
        | ':' :: rest => passValue fuel depth rest
        | rest => Flaw.next .noColon rest
      match skipSpace behind with
      | [] => Flaw.here .endsInObject []
      | '\x7d' :: rest => return rest
      | ',' :: rest =>
          match skipSpace rest with
          | [] => Flaw.here .endsInValue []
          | '\x7d' :: rest => Flaw.next .commaAtEnd ('\x7d' :: rest)
          | rest => passMembers fuel depth rest
      | rest => Flaw.next .noEndOfObject rest

end

/-- The first flaw of a text, if it has any. -/
def flaw? (text : Text) : Option Flaw :=
  let result := do
    match skipSpace (← passValue (2 * text.length + 2) deepest text) with
    | [] => return ()
    | rest => Flaw.next .charactersBehind rest
  match result with
  | .error flaw => some flaw
  | .ok _ => none

end ShaderCost.JsonValue
