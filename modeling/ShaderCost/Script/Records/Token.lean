import ShaderCost.Script.Basic
import ShaderCost.Text.Numeral

/-!
Tokens of programs on records. A slash begins an expression unless the token before it is an
operand,
which the slash then divides.
-/

namespace ShaderCost.Script.Records

inductive Kind where
  | number
  | text
  | expression
  | name
  /-- A name with a parenthesis behind it at once. -/
  | called
  /-- A function that every program has. -/
  | feature
  /-- A word of the notation. -/
  | word
  | mark
  | lineEnd
  | finish
  /-- What is wrong with the text here; reading goes on behind it. -/
  | remark
  /-- What is wrong with the text here; there are no tokens behind it. -/
  | fault
  deriving DecidableEq

structure Token where
  kind : Kind
  /-- How it is written or, for texts, what it stands for. -/
  text : Text
  line : Nat
  /-- How many parentheses are open before it. -/
  depth : Nat

instance : Inhabited Token := ⟨⟨.finish, [], 0, 0⟩⟩

namespace Token

def words : List Text := [
  "BEGIN", "END", "function", "if", "else", "while", "for", "do", "break", "continue", "next",
  "nextfile", "exit", "return", "delete", "in", "getline", "print", "printf"]

def features : List Text := [
  "length", "index", "substr", "sprintf", "match", "tolower", "toupper", "close", "system",
  "fflush", "sin", "cos", "atan2", "exp", "log", "int", "sqrt", "rand", "srand", "systime",
  "split", "sub", "gsub", "strftime", "mktime"]

/-- Marks of several characters, longer ones first. -/
def longMarks : List Text := [
  "&&", "||", "++", "--", "+=", "-=", "*=", "/=", "%=", "^=", "==", "!=", "<=", ">=", "!~", ">>"]

/-- Marks of one character. -/
def shortMarks : Text := "\x7b\x7d()[];,+-*/%^!<>|?:~$="

/-- Whether a slash behind such a token divides. -/
def isOperand (kind : Kind) (text : Text) : Bool :=
  match kind with
  | .number | .text | .expression | .name | .feature => true
  | .word => text = "getline"
  | .mark => [")".toList, "]".toList, "$".toList, "++".toList, "--".toList].elem text
  | _ => false

/-- Letters behind a backslash in a text. -/
def letters : List (Char × Char) := [
  ('"', '"'), ('\\', '\\'), ('a', '\x07'), ('b', '\x08'), ('f', '\x0c'), ('n', '\n'),
  ('r', '\r'), ('t', '\t'), ('v', '\x0b')]

/-- What is written behind a backslash in a text, and what follows it. -/
def escaped (behind : Text) : Text × Text :=
  match behind with
  | [] => (['\\'], [])
  | c :: rest =>
      if isOctalDigit c then
        let digits := (behind.take 3).takeWhile isOctalDigit
        ([Char.ofNat (digitsIn 8 digits % 256)], behind.drop digits.length)
      else if c = 'x' && rest.head?.any isHexDigit then
        let digits := (rest.take 2).takeWhile isHexDigit
        ([Char.ofNat (digitsIn 16 digits)], rest.drop digits.length)
      else if c = '\n' then ([], rest)
      else match letters.lookup c with
        | some octet => ([octet], rest)
        | none => (['\\', c], rest)

/-- A text with its escapes resolved. -/
def unescaped : (fuel : Nat) → Text → Text
  | 0, text => text
  | _ + 1, [] => []
  | fuel + 1, '\\' :: behind =>
      let (octets, rest) := escaped behind
      octets ++ unescaped fuel rest
  | fuel + 1, c :: rest => c :: unescaped fuel rest

/-- The text up to a quote, what follows it, and how many lines it has. Without a closing quote on
its line there is none. -/
def takeText : (fuel : Nat) → Text → (before : Text) → (lines : Nat) → Option (Text × Text × Nat)
  | 0, _, _, _ | _ + 1, [], _, _ => none
  | fuel + 1, c :: rest, before, lines =>
      if c = '"' then some (before.reverse, rest, lines)
      else if c = '\n' then none
      else if c = '\\' then
        let lines := if rest.head? = some '\n' then lines + 1 else lines
        let (octets, rest) := escaped rest
        takeText fuel rest (octets.reverse ++ before) lines
      else takeText fuel rest (c :: before) lines

/-- The expression up to a slash, and what follows it. A slash inside brackets does not end it. -/
def takeExpression : (fuel : Nat) → Text → (inSet : Bool) → (before : Text) → Option (Text × Text)
  | 0, _, _, _ | _ + 1, [], _, _ => none
  | fuel + 1, c :: rest, inSet, before =>
      if c = '\n' then none
      else if c = '/' && !inSet then some (before.reverse, rest)
      else if c = '\\' then
        match rest with
        | '/' :: rest => takeExpression fuel rest inSet ('/' :: before)
        | d :: rest => takeExpression fuel rest inSet (d :: '\\' :: before)
        | [] => none
      else if c = '[' && !inSet then
        let (lead, rest) : Text × Text := match rest with
          | '^' :: ']' :: rest => ("]^[", rest)
          | ']' :: rest => ("][", rest)
          | rest => (['['], rest)
        takeExpression fuel rest true (lead ++ before)
      else if c = '[' then
        match rest with
        | ':' :: rest =>
            let name := rest.takeWhile Char.isAlpha
            takeExpression fuel (rest.drop name.length) inSet (name.reverse ++
              (':' :: '[' :: before))
        | _ => takeExpression fuel rest inSet (c :: before)
      else if c = ':' && inSet && rest.head? = some ']' then
        takeExpression fuel rest.tail inSet (']' :: ':' :: before)
      else if c = ']' then takeExpression fuel rest false (c :: before)
      else takeExpression fuel rest inSet (c :: before)

/-- The numeral at the front of a text. -/
def numeral (text : Text) : Text :=
  let whole := text.takeWhile Char.isDigit
  let places : Text := match text.drop whole.length with
    | '.' :: rest => '.' :: rest.takeWhile Char.isDigit
    | _ => []
  let mantissa := whole ++ places
  match text.drop mantissa.length with
  | mark :: rest =>
      if mark = 'e' || mark = 'E' then
        let sign : Text := match rest with
          | '-' :: _ => ['-']
          | '+' :: _ => ['+']
          | _ => []
        let digits := (rest.drop sign.length).takeWhile Char.isDigit
        if digits.isEmpty then mantissa else mantissa ++ mark :: sign ++ digits
      else mantissa
  | [] => mantissa

/-- Where the reading of tokens stands. -/
structure Progress where
  line : Nat
  depth : Nat
  braces : Nat
  /-- Names that were called or used otherwise, which they are from there on. -/
  routines : List Text
  others : List Text
  /-- The last token that was read. -/
  last : Token
  /-- The tokens, the last one first. -/
  before : List Token

namespace Progress

def add (progress : Progress) (kind : Kind) (text : Text) : Progress :=
  let token : Token := ⟨kind, text, progress.line, progress.depth⟩
  { progress with last := token, before := token :: progress.before }

/-- A text without blanks and one semicolon at its front. -/
def withoutSemicolon (text : Text) : Text :=
  match text.dropWhile fun c => c = ' ' || c = '\t' with
  | ';' :: rest => rest
  | _ => text

/-- Adds a mark, and notes what it opens or closes. -/
def addMark (progress : Progress) (mark rest : Text) : Progress × Text :=
  if mark = "(" then
    let progress := progress.add .mark mark
    ({ progress with depth := progress.depth + 1 }, rest)
  else if mark = ")" then
    if progress.depth = 0 then (progress.add .remark "extra ')'", rest)
    else
      let progress := progress.add .mark mark
      ({ progress with depth := progress.depth - 1 }, rest)
  else if mark = "\x7b" then
    let progress := progress.add .mark mark
    ({ progress with braces := progress.braces + 1 }, rest)
  else if mark = "\x7d" then
    if progress.braces = 0 then
      let progress := progress.add .remark "extra '\x7d'"
      let rest := withoutSemicolon rest
      if rest.head? = some '\n' then (progress.add .remark "syntax error at or near end of line",
        rest)
      else (progress, rest)
    else
      let progress := progress.add .mark mark
      let rest := if progress.braces = 1 then withoutSemicolon rest else rest
      ({ progress with braces := progress.braces - 1, depth := 0 }, rest)
  else (progress.add .mark mark, rest)

end Progress

/-- Reads tokens up to the end of a text. -/
def read : (fuel : Nat) → Text → Progress → List Token
  | 0, _, progress => progress.before.reverse
  | _ + 1, [], progress => (progress.add .finish "end of file").before.reverse
  | fuel + 1, c :: rest, progress =>
      if c = ' ' || c = '\t' || c = '\r' || c = '\x0c' || c = '\x0b' then read fuel rest progress
      else if c = '\n' then
        let progress := progress.add .lineEnd "end of line"
        read fuel rest { progress with line := progress.line + 1 }
      else if c = '#' then read fuel (rest.dropWhile (· != '\n')) progress
      else if c = '\\' && rest.head? = some '\n' then
        read fuel rest.tail { progress with line := progress.line + 1 }
      else if c = '"' then
        match takeText (rest.length + 1) rest [] 0 with
        | some (text, behind, lines) =>
            let progress := progress.add .text text
            read fuel behind { progress with line := progress.line + lines }
        | none =>
            let shown := (rest.takeWhile (· != '\n')).take 10
            (progress.add .fault ("runaway string constant \"".toList ++ shown ++ " ...".toList)
              ).before.reverse
      else if isNameStart c then
        let name := (c :: rest).takeWhile isNameChar
        let behind := (c :: rest).drop name.length
        let isCalled := behind.head? = some '(' || progress.routines.elem name
        let kind : Kind :=
          if words.elem name then .word
          else if features.elem name then .feature
          else if isCalled && !progress.others.elem name then .called
          else .name
        let progress := match kind with
          | .called => { progress with routines := name :: progress.routines }
          | .name => { progress with others := name :: progress.others }
          | _ => progress
        read fuel behind (progress.add kind name)
      else if c.isDigit || (c = '.' && rest.head?.any Char.isDigit) then
        let numeral := numeral (c :: rest)
        read fuel ((c :: rest).drop numeral.length) (progress.add .number numeral)
      else if c = '/' && !isOperand progress.last.kind progress.last.text then
        match takeExpression (rest.length + 1) rest false [] with
        | some (text, behind) => read fuel behind (progress.add .expression text)
        | none =>
            let shown := (rest.takeWhile (· != '\n')).take 10
            (progress.add .fault ("runaway regular expression /".toList ++ shown ++ " ...".toList)
              ).before.reverse
      else
        match longMarks.find? fun mark => mark.isPrefixOf (c :: rest) with
        | some mark => read fuel (rest.drop 1) (progress.add .mark mark)
        | none =>
            if shortMarks.elem c then
              let (progress, rest) := progress.addMark [c] rest
              read fuel rest progress
            else
              let line := Text.ofNat progress.line
              (progress.add .fault
                (line ++ ": unexpected character '".toList ++ [c] ++ ['\''])).before.reverse

/-- The tokens of a text, whose last line has an end of its own. -/
def ofText (text : Text) : List Token :=
  read (text.length + 2) (text ++ ['\n']) ⟨1, 0, 0, [], [], default, []⟩

end Token

end ShaderCost.Script.Records
