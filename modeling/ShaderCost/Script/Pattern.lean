import ShaderCost.Text.Basic

/-!
Patterns: a star stands for any text, a question mark for any character, brackets for one of a
set. A quoted character stands for itself.
-/

namespace ShaderCost.Script

structure PatternChar where
  char : Char
  isQuoted : Bool
  deriving DecidableEq

abbrev Pattern := List PatternChar

namespace PatternChar

/-- Whether a character has a special meaning and is this one. -/
def isMark (mark : Char) (c : PatternChar) : Bool := c.char = mark && !c.isQuoted

end PatternChar

/-- The classes of characters that have a name, each with its test. -/
def characterClasses : List (Text × (Char → Bool)) := [
  ("alnum", fun c => c.isAlphanum),
  ("alpha", fun c => c.isAlpha),
  ("blank", fun c => c == ' ' || c == '\t'),
  ("cntrl", fun c => c.toNat < 32 || c.toNat == 127),
  ("digit", fun c => c.isDigit),
  ("graph", fun c => 32 < c.toNat && c.toNat < 127),
  ("lower", fun c => c.isLower),
  ("print", fun c => 32 ≤ c.toNat && c.toNat < 127),
  ("punct", fun c => 32 < c.toNat && c.toNat < 127 && !c.isAlphanum),
  ("space", fun c => c == ' ' || ('\t' ≤ c && c ≤ '\r')),
  ("upper", fun c => c.isUpper),
  ("xdigit", fun c => c.isDigit || ('a' ≤ c && c ≤ 'f') || ('A' ≤ c && c ≤ 'F'))]

namespace Pattern

def quoted (text : Text) : Pattern := text.map fun c => ⟨c, true⟩

def bare (text : Text) : Pattern := text.map fun c => ⟨c, false⟩

/-- The text of a pattern whose characters stand for themselves. -/
def text (pattern : Pattern) : Text := pattern.map PatternChar.char

/-- Whether any character may have a special meaning. -/
def isActive (pattern : Pattern) : Bool :=
  pattern.any fun c => c.isMark '*' || c.isMark '?' || c.isMark '['

/-- The test of a class whose name follows a bracket and a colon, and the rest of the set. -/
def takeClass? (pattern : Pattern) : Option ((Char → Bool) × Pattern) := do
  let name := (pattern.takeWhile fun c => !c.isMark ':').map PatternChar.char
  match pattern.drop name.length with
  | _ :: closing :: rest =>
      if closing.isMark ']' then return (← characterClasses.lookup name, rest) else none
  | _ => none

/-- Reads members of a set up to its closing bracket, and tells whether one of them is the
character. The rest of the pattern follows. -/
def takeMembers? (isFirst : Bool) (found : Bool) (c : Char) :
    (fuel : Nat) → Pattern → Option (Bool × Pattern)
  | 0, _ | _ + 1, [] => none
  | fuel + 1, member :: rest =>
      if member.isMark ']' && !isFirst then some (found, rest)
      else
        let range : Option (Bool × Pattern) := match rest with
          | dash :: high :: behind =>
              if dash.isMark '-' && !high.isMark ']' then
                let within := member.char.toNat ≤ c.toNat && c.toNat ≤ high.char.toNat
                some (within, behind)
              else none
          | _ => none
        let named : Option (Bool × Pattern) := match rest with
          | colon :: behind =>
              if member.isMark '[' && colon.isMark ':' then
                (takeClass? behind).map fun (test, behind) => (test c, behind)
              else none
          | [] => none
        match named, range with
        | some (holds, behind), _ => takeMembers? false (found || holds) c fuel behind
        | none, some (holds, behind) => takeMembers? false (found || holds) c fuel behind
        | none, none => takeMembers? false (found || member.char = c) c fuel rest

/-- Whether a set, whose opening bracket came before, allows a character; the rest of the pattern
follows. A set that is not closed is none. -/
def takeSet? (c : Char) (pattern : Pattern) : Option (Bool × Pattern) :=
  match pattern with
  | first :: rest =>
      if first.isMark '!' then
        (takeMembers? true false c (rest.length + 1) rest).map fun (holds, behind) =>
          (!holds, behind)
      else takeMembers? true false c (pattern.length + 1) pattern
  | [] => none

/-- Whether a pattern accepts a whole text. Where it does not, the last star is tried again with one
character more, as far as there was one; `resume` holds what follows that star. -/
def acceptsWithin : (fuel : Nat) → (resume : Option (Pattern × Text)) → Pattern → Text → Bool
  | 0, _, _, _ => false
  | fuel + 1, resume, pattern, text =>
      let again (_ : Unit) : Bool := match resume with
        | some (after, _ :: behind) => acceptsWithin fuel (some (after, behind)) after behind
        | _ => false
      match pattern, text with
      | [], [] => true
      | [], _ :: _ => again ()
      | first :: rest, text =>
          if first.isMark '*' then acceptsWithin fuel (some (rest, text)) rest text
          else match text with
            | [] => false
            | c :: behind =>
                if first.isMark '?' then acceptsWithin fuel resume rest behind
                else if first.isMark '[' then
                  match takeSet? c rest with
                  | some (allows, rest) =>
                      if allows then acceptsWithin fuel resume rest behind else again ()
                  | none =>
                      if first.char = c then acceptsWithin fuel resume rest behind else again ()
                else if first.char = c then acceptsWithin fuel resume rest behind
                else again ()

/-- A pattern in which each backslash that quotes another character was taken away. -/
def unescaped : Pattern → Pattern
  | first :: second :: rest =>
      if first.isMark '\\' then ⟨second.char, true⟩ :: unescaped rest
      else first :: unescaped (second :: rest)
  | pattern => pattern

def accepts (pattern : Pattern) (text : Text) : Bool :=
  acceptsWithin ((pattern.length + 2) * (text.length + 2)) none pattern.unescaped text

/-- A text without what a pattern accepts at one end, as much or as little of it as can be. Of
texts with zeros between them the pattern sees the first one. -/
def trim (pattern : Pattern) (atEnd longest : Bool) (text : Text) : Text :=
  let accepts (part : Text) : Bool := pattern.accepts (part.takeWhile (· != '\x00'))
  if '\x00' ∈ text || pattern.isActive || pattern.any fun c => c.isMark '\\' then
    let cuts := List.range (text.length + 1)
    let cuts := if longest then cuts.reverse else cuts
    if atEnd then
      match cuts.find? fun cut => accepts (text.drop (text.length - cut)) with
      | some cut => text.take (text.length - cut)
      | none => text
    else
      match cuts.find? fun cut => accepts (text.take cut) with
      | some cut => text.drop cut
      | none => text
  else if atEnd then
    if Text.endsWith pattern.text text then text.take (text.length - pattern.length) else text
  else (Text.after? pattern.text text).getD text

end Pattern

end ShaderCost.Script

/-!
Fields: the parts into which values fall at separators. Blanks among the separators count less:
those around a field are dropped, and any number of them, with one other separator among them, is
one border.
-/

namespace ShaderCost.Script

/-- A part of an expanded word. -/
inductive Piece where
  | chars (pattern : Pattern)
  /-- A value that falls into fields. -/
  | value (text : Text)
  /-- A border between two fields. -/
  | gap
  /-- Quotes, which make a field even of nothing. -/
  | mark
  deriving DecidableEq

namespace Piece

/-- All pieces as one pattern. -/
def joined (pieces : List Piece) : Pattern :=
  pieces.flatMap fun piece => match piece with
    | .chars pattern => pattern
    | .value text => Pattern.bare text
    | .gap => Pattern.quoted " "
    | .mark => []

end Piece

namespace Fields

def isBlank (c : Char) : Bool := c == ' ' || c == '\t' || c == '\n'

/-- Fields that are being made, with the last field and character first. -/
structure State where
  complete : List Pattern
  current : Pattern
  /-- Whether the current field is one even if it is empty. -/
  hasBegun : Bool

namespace State

def add (state : State) (c : PatternChar) : State :=
  { state with current := c :: state.current, hasBegun := true }

def close (state : State) : State :=
  { complete := state.current.reverse :: state.complete, current := [], hasBegun := false }

def finish (state : State) : List Pattern :=
  (if state.hasBegun then state.close else state).complete.reverse

end State

/-- Splits a value. `afterBlank` tells whether a blank just ended a field. -/
def splitValue (separators : Text) : Text → (afterBlank : Bool) → State → State
  | [], _, state => state
  | c :: rest, afterBlank, state =>
      if !separators.elem c then splitValue separators rest false (state.add ⟨c, false⟩)
      else if afterBlank then splitValue separators rest (isBlank c) state
      else if isBlank c && !state.hasBegun then splitValue separators rest false state
      else splitValue separators rest (isBlank c) state.close

def ofPieces (separators : Text) : List Piece → State → State
  | [], state => state
  | .chars pattern :: rest, state => ofPieces separators rest (pattern.foldl State.add state)
  | .value text :: rest, state =>
      ofPieces separators rest (splitValue separators text false state)
  | .gap :: rest, state =>
      ofPieces separators rest (if state.hasBegun then state.close else state)
  | .mark :: rest, state => ofPieces separators rest { state with hasBegun := true }

/-- The fields that pieces make. -/
def make (separators : Text) (pieces : List Piece) : List Pattern :=
  (ofPieces separators pieces ⟨[], [], false⟩).finish

/-- Fields of a line, whose last one takes all that is left. -/
structure Reading where
  complete : List Text
  current : Text
  /-- How many more fields there may be after the current one. -/
  left : Nat
  /-- The last field if what came since is left out. -/
  trimmed : Option Text
  afterBlank : Bool

/-- Reads a character into the fields of a line. A character that does not separate fields comes
with `splits` off. -/
def Reading.take (separators : Text) (reading : Reading) (c : Char) (splits : Bool) : Reading :=
  let grown := { reading with current := c :: reading.current }
  if !splits then grown
  else
    let parts := separators.elem c
    let isBlank := parts && isBlank c
    if reading.left = 0 then
      if isBlank then { grown with trimmed := some (reading.trimmed.getD reading.current) }
      else
        { grown with
          trimmed := if parts && reading.afterBlank then reading.trimmed else none
          afterBlank := false }
    else if !parts then { grown with afterBlank := false }
    else if reading.afterBlank then
      { reading with current := [], afterBlank := isBlank }
    else if isBlank && reading.current.isEmpty then reading
    else if reading.left = 1 then
      { grown with left := 0, trimmed := some reading.current, afterBlank := isBlank }
    else
      { reading with
        complete := reading.current.reverse :: reading.complete, current := []
        left := reading.left - 1, afterBlank := isBlank }

/-- The fields of a line, at most as many as asked for. -/
def ofLine (separators : Text) (count : Nat) (line : List (Char × Bool)) : List Text :=
  let reading := line.foldl (fun reading (c, splits) => reading.take separators c splits)
    (⟨[], [], count, none, false⟩ : Reading)
  let last := (reading.trimmed.getD reading.current).reverse
  (if last.isEmpty then reading.complete else last :: reading.complete).reverse

end Fields

end ShaderCost.Script
