import ShaderCost.Script.Basic
import ShaderCost.Script.Format

/-!
Programs whose blocks are told by how far their lines are indented: terms, statements, and the
routines that a program is made of.
-/

namespace ShaderCost.Script.Indented

/-- What is written as it is. -/
inductive Literal where
  | none
  | ellipsis
  | bool (value : Bool)
  | integer (value : Int)
  | real (value : Float)
  | text (value : Text)
  | octets (value : Text)

instance : Inhabited Literal := ⟨.none⟩

inductive Operation where
  | add
  | subtract
  | multiply
  | divide
  | divideWhole
  | remainder
  | power
  | shiftUp
  | shiftDown
  | bothBits
  | eitherBits
  | differingBits
  | matrix
  deriving DecidableEq

inductive Comparison where
  | less
  | atMost
  | same
  | different
  | greater
  | atLeast
  | isThat (wanted : Bool)
  | isIn (wanted : Bool)
  deriving DecidableEq

/-- What stands in front of one value. -/
inductive Sign where
  | minus
  | plus
  | complement
  deriving DecidableEq

/-- What a comprehension makes. -/
inductive Collecting where
  | list
  | set
  | table
  | series
  deriving DecidableEq

mutual

inductive Term where
  | literal (value : Literal)
  | name (name : Text)
  /-- A text with values put in. -/
  | joined (parts : List Term)
  /-- A value that is put into a text: how it is written first, and its format. -/
  | shown (term : Term) (conversion : Option Char) (format : Option Term)
  | list (items : List Term)
  | tuple (items : List Term)
  | set (items : List Term)
  /-- Keys with their values; without a key the value is a table whose entries are put in. -/
  | table (entries : List Entry)
  | starred (term : Term)
  | attribute (object : Term) (name : Text)
  | subscript (object index : Term)
  | slice (first last step : Option Term)
  /-- A call with the values of its arguments and those that have names; a void name stands for a
  table of them. -/
  | call (line : Nat) (code : Term) (arguments : List Term) (named : List Argument)
  | signed (sign : Sign) (term : Term)
  | compute (operation : Operation) (left right : Term)
  | both (left right : Term)
  | either (left right : Term)
  | not (term : Term)
  | compare (first : Term) (rest : List Compared)
  | choose (condition yes no : Term)
  | routine (number : Nat)
  | comprehension (collecting : Collecting) (element : Term) (value : Option Term)
      (clauses : List Clause)
  | assigned (name : Text) (value : Term)
  | yields (value : Option Term)
  | yieldsFrom (values : Term)

inductive Entry where
  | entry (key : Option Term) (value : Term)

inductive Argument where
  | argument (name : Text) (value : Term)

inductive Compared where
  | compared (comparison : Comparison) (term : Term)

/-- What a comprehension goes through, and the conditions on that. -/
inductive Clause where
  | clause (target values : Term) (conditions : List Term)

end

instance : Inhabited Term := ⟨.literal .none⟩

/-- What a value is taken for by a choice between patterns. -/
inductive Shape where
  | any
  | capture (name : Text)
  | value (term : Term)
  | either (shapes : List Shape)
  | named (shape : Shape) (name : Text)
  /-- Values one after the other; a name in between stands for all that are not told. -/
  | sequence (before : List Shape) (rest : Option Text) (behind : List Shape)
  | table (keys : List Term) (shapes : List Shape) (rest : Option Text)
  | member (type : Term) (shapes : List Shape) (names : List Text) (named : List Shape)

instance : Inhabited Shape := ⟨.any⟩

mutual

inductive Statement where
  | evaluate (line : Nat) (term : Term)
  | assign (line : Nat) (targets : List Term) (value : Term)
  | annotate (line : Nat) (target annotation : Term) (value : Option Term)
  | update (line : Nat) (operation : Operation) (target value : Term)
  | giveBack (line : Nat) (value : Option Term)
  | delete (line : Nat) (targets : List Term)
  | pass
  | breakOff
  | goOn
  | raise (line : Nat) (value cause : Option Term)
  | assertion (line : Nat) (condition : Term) (message : Option Term)
  /-- Modules with the names that they get here. -/
  | take (line : Nat) (modules : List (Text × Option Text))
  /-- Names of a module with those that they get here; a star stands for all of them. -/
  | takeNames (line : Nat) (module : Text) (names : List (Text × Option Text))
  | choose (line : Nat) (condition : Term) (yes no : List Statement)
  | loop (line : Nat) (condition : Term) (body otherwise : List Statement)
  | forEach (line : Nat) (target values : Term) (body otherwise : List Statement)
  | attempt (line : Nat) (body : List Statement) (handlers : List Handler)
      (otherwise finally_ : List Statement)
  | within (line : Nat) (managers : List Term) (targets : List (Option Term))
      (body : List Statement)
  | define (line : Nat) (name : Text) (number : Nat) (decorators : List Term)
  | type (line : Nat) (name : Text) (bases : List Term) (named : List Argument)
      (body : List Statement) (decorators : List Term)
  | select (line : Nat) (subject : Term) (cases : List Case)
  /-- Names that belong to the whole module, or to a routine around. -/
  | scope (isGlobal : Bool) (names : List Text)

/-- What is done about a failure of some types, which may get a name. -/
inductive Handler where
  | handler (line : Nat) (types : Option Term) (name : Option Text) (body : List Statement)

/-- What is done for a value of some shape. -/
inductive Case where
  | case (line : Nat) (shape : Shape) (condition : Option Term) (body : List Statement)

end

instance : Inhabited Statement := ⟨.pass⟩

/-- How a parameter gets its value. -/
inductive Passing where
  | plain
  /-- Only without its name, or only with it. -/
  | placed
  | named
  /-- All that are left, without names or with them. -/
  | rest
  | restNamed
  deriving DecidableEq

structure Parameter where
  name : Text
  passing : Passing
  usual : Option Term

structure Routine where
  name : Text
  /-- The name with those of what is around it. -/
  fullName : Text
  parameters : List Parameter
  body : List Statement
  /-- The names that belong to each call. -/
  own : List Text
  /-- Whether calls give values one after the other. -/
  isSeries : Bool
  line : Nat

instance : Inhabited Routine := ⟨⟨[], [], [], [], [], false, 0⟩⟩

structure Program where
  body : List Statement
  routines : Array Routine

end ShaderCost.Script.Indented

/-!
Tokens of programs whose blocks are told by indentation: names, numbers, texts and signs, with the
ends of lines and the places where blocks begin and end.
-/

namespace ShaderCost.Script.Indented

/-- How a text between quotes is meant. -/
structure Quoting where
  isOctets : Bool
  isRaw : Bool
  isFormat : Bool

inductive Token where
  | name (text : Text)
  | number (value : Literal)
  /-- What stands between quotes. -/
  | quoted (quoting : Quoting) (body : Text)
  | sign (text : Text)
  | newline
  | indent
  | dedent
  | ending

structure Lexeme where
  token : Token
  line : Nat
  /-- How many characters of the line are before the token, and how many it has. -/
  column : Nat
  width : Nat

instance : Inhabited Lexeme := ⟨⟨.ending, 0, 0, 0⟩⟩

/-- What is wrong with a program: of what kind that is, in so many words, and where. -/
structure Flaw where
  kind : Text
  message : Text
  line : Nat
  column : Nat
  width : Nat

def Flaw.atLine (message : Text) (line column width : Nat) : Flaw :=
  ⟨"SyntaxError", message, line, column, width⟩

namespace Token

def isNameFront (c : Char) : Bool := c.isAlpha || c = '_' || 127 < c.toNat

def isNamePart (c : Char) : Bool := isNameFront c || c.isDigit

def signs : List Text := [
  "**=", "//=", ">>=", "<<=", "...", "!=", "->", ":=", "==", "<=", ">=", "**", "//", "<<", ">>",
  "+=", "-=", "*=", "/=", "%=", "&=", "|=", "^=", "@="]

def singleSigns : Text := "+-*/%@&|^~<>()[]\x7b\x7d,:.;=!".toList

/-! Numbers. -/

def digitsOf (isDigit : Char → Bool) (text : Text) : Text × Text :=
  let shown := text.takeWhile fun c => isDigit c || c = '_'
  (shown.filter (· != '_'), text.drop shown.length)

/-- The number at the front of a text, and what follows it. -/
def takeNumber (text : Text) : Literal × Text :=
  let based (base : Nat) (isDigit : Char → Bool) (text : Text) : Literal × Text :=
    let (digits, rest) := digitsOf isDigit text
    (.integer (digitsIn base digits), rest)
  let real : Literal × Text :=
    let (whole, rest) := digitsOf Char.isDigit text
    let (places?, rest) : Option Text × Text := match rest with
      | '.' :: behind =>
          let (places, rest) := digitsOf Char.isDigit behind
          (some places, rest)
      | _ => (none, rest)
    let (exponent, rest) : Text × Text := match rest with
      | c :: behind =>
          let sign : Text := (behind.take 1).filter fun c => c = '-' || c = '+'
          let (digits, behind) := digitsOf Char.isDigit (behind.drop sign.length)
          if (c = 'e' || c = 'E') && !digits.isEmpty then ('e' :: sign ++ digits, behind)
          else ([], rest)
      | [] => ([], rest)
    if places?.isNone && exponent.isEmpty then (.integer (digitsIn 10 whole), rest)
    else
      match Floating.read? (whole ++ '.' :: places?.getD [] ++ exponent) with
      | some reading => (.real (Float.ofBits reading.value.bits), rest)
      | none => (.real 0, rest)
  match text with
  | '0' :: c :: rest =>
      if c = 'x' || c = 'X' then based 16 isHexDigit rest
      else if c = 'o' || c = 'O' then based 8 isOctalDigit rest
      else if c = 'b' || c = 'B' then based 2 (fun c => c = '0' || c = '1') rest
      else real
  | _ => real

/-! Texts between quotes. -/

/-- The letters in front of a quote, if they say how the text is meant. -/
def quotingOf? (letters : Text) : Option Quoting :=
  let letters := letters.map Char.toLower
  let known : List Text := ["", "r", "u", "b", "f", "br", "rb", "fr", "rf"]
  if known.elem letters then some ⟨letters.elem 'b', letters.elem 'r', letters.elem 'f'⟩ else none

/-- The text up to a mark, which is not inside braces where these hold terms. The text before it
comes with its last character first. -/
def takeQuoted (mark : Text) (isFormat : Bool) : (fuel : Nat) → (depth : Nat) →
    (inner : Option Char) → Text → (before : Text) → Option (Text × Text)
  | 0, _, _, _, _ | _ + 1, _, _, [], _ => none
  | fuel + 1, depth, inner, c :: rest, before =>
      match inner with
      | some quote =>
          takeQuoted mark isFormat fuel depth (if c = quote then none else inner) rest (c :: before)
      | none =>
          if depth = 0 && mark.isPrefixOf (c :: rest) then
            some (before.reverse, (c :: rest).drop mark.length)
          else if c = '\n' && mark.length = 1 then none
          else if c = '\\' && depth = 0 then
            match rest with
            | d :: rest => takeQuoted mark isFormat fuel depth none rest (d :: c :: before)
            | [] => none
          else if !isFormat then takeQuoted mark isFormat fuel depth none rest (c :: before)
          else if c = '\x7b' then
            match rest, depth with
            | '\x7b' :: rest, 0 => takeQuoted mark isFormat fuel 0 none rest (c :: c :: before)
            | rest, depth => takeQuoted mark isFormat fuel (depth + 1) none rest (c :: before)
          else if c = '\x7d' then
            takeQuoted mark isFormat fuel (depth - 1) none rest (c :: before)
          else if (c = '"' || c = '\'') && depth != 0 then
            takeQuoted mark isFormat fuel depth (some c) rest (c :: before)
          else takeQuoted mark isFormat fuel depth none rest (c :: before)

/-- The mark that a quote at the front of a text is part of. -/
def markOf (text : Text) : Text :=
  match text with
  | a :: b :: c :: _ => if a = b && b = c then [a, b, c] else [a]
  | a :: _ => [a]
  | [] => []

end Token

/-- A text on the way to its tokens. -/
structure Scanner where
  rest : Text
  line : Nat
  column : Nat
  /-- How many brackets are open. -/
  depth : Nat
  /-- How far the blocks around are indented, the innermost one first. -/
  indents : List Nat
  /-- Whether a line begins. -/
  isFront : Bool
  /-- The tokens before, the last one first. -/
  made : List Lexeme

namespace Scanner

def add (scanner : Scanner) (token : Token) (width : Nat) : Scanner :=
  { scanner with made := ⟨token, scanner.line, scanner.column, width⟩ :: scanner.made }

/-- Goes behind as many characters of a line. -/
def skip (scanner : Scanner) (count : Nat) : Scanner :=
  { scanner with rest := scanner.rest.drop count, column := scanner.column + count }

/-- How far blanks indent. -/
def indentOf (blanks : Text) : Nat :=
  blanks.foldl (fun width c => if c = '\t' then (width / 8 + 1) * 8 else
    if c = '\x0c' then 0 else width + 1) 0

/-- Ends blocks that are indented further. -/
def endBlocks (width : Nat) (scanner : Scanner) : List Nat → Except Flaw Scanner
  | [] => .ok { scanner with indents := [0] }
  | indent :: outer =>
      if indent = width then .ok { scanner with indents := indent :: outer }
      else if indent < width then
        .error ⟨"IndentationError", "unindent does not match any outer indentation level",
          scanner.line, scanner.column, 0⟩
      else endBlocks width (scanner.add .dedent 0) outer

/-- The front of a line. -/
def takeFront (scanner : Scanner) : Except Flaw Scanner :=
  let blanks := scanner.rest.takeWhile fun c => c = ' ' || c = '\t' || c = '\x0c'
  let behind := scanner.rest.drop blanks.length
  let isVoid := match behind with
    | [] => true
    | c :: _ => c = '\n' || c = '\r' || c = '#'
  let scanner := { scanner.skip blanks.length with isFront := false }
  if isVoid then .ok scanner
  else
    let width := indentOf blanks
    let indent := scanner.indents.headD 0
    if indent < width then
      .ok { scanner.add .indent 0 with indents := width :: scanner.indents }
    else endBlocks width scanner scanner.indents

/-- Whether a line has tokens so far. -/
def hasTokens (scanner : Scanner) : Bool :=
  match scanner.made with
  | [] => false
  | lexeme :: _ => match lexeme.token with
      | .newline | .indent | .dedent => false
      | _ => true

/-- Goes to the next line. -/
def nextLine (scanner : Scanner) (count : Nat) : Scanner :=
  { scanner with rest := scanner.rest.drop count, line := scanner.line + 1, column := 0 }

/-- A text between quotes behind some letters. -/
def takeText (scanner : Scanner) (letters : Text) (quoting : Quoting) : Except Flaw Scanner :=
  let text := scanner.rest.drop letters.length
  let mark := Token.markOf text
  let behind := text.drop mark.length
  match Token.takeQuoted mark quoting.isFormat (behind.length + 1) 0 none behind [] with
  | none =>
      .error (Flaw.atLine
        (if mark.length = 3 then "unterminated triple-quoted string literal"
          else "unterminated string literal (detected at line ".toList ++
            Text.ofNat scanner.line ++ [')'])
        scanner.line scanner.column 0)
  | some (body, rest) =>
      let length := scanner.rest.length - rest.length
      let passed := scanner.rest.take length
      let lines := (passed.filter (· == '\n')).length
      let scanner := scanner.add (.quoted quoting body) length
      if lines = 0 then .ok (scanner.skip length)
      else .ok { scanner with
        rest, line := scanner.line + lines
        column := (passed.reverse.takeWhile (· != '\n')).length }

/-- A sign. -/
def takeSign (scanner : Scanner) : Except Flaw Scanner :=
  match Token.signs.find? fun sign => sign.isPrefixOf scanner.rest with
  | some sign => .ok ((scanner.add (.sign sign) sign.length).skip sign.length)
  | none =>
      match scanner.rest with
      | [] => .ok scanner
      | c :: _ =>
          if !Token.singleSigns.elem c then
            let problem : Text :=
              if c = '$' || c = '?' || c = '\x60' then "invalid syntax"
              else "invalid character '".toList ++ c :: "' (U+".toList ++
                (let digits := (Nat.toDigits 16 c.toNat).map Char.toUpper
                List.replicate (4 - digits.length) '0' ++ digits) ++ [')']
            .error (Flaw.atLine problem scanner.line scanner.column 1)
          else
            let opens := c = '(' || c = '[' || c = '\x7b'
            let closes := c = ')' || c = ']' || c = '\x7d'
            if closes && scanner.depth = 0 then
              .error (Flaw.atLine ("unmatched '".toList ++ [c, '\'']) scanner.line scanner.column 1)
            else
              let depth := if opens then scanner.depth + 1
                else if closes then scanner.depth - 1 else scanner.depth
              .ok { (scanner.add (.sign [c]) 1).skip 1 with depth }

/-- One step through a text. -/
def step (scanner : Scanner) : Except Flaw Scanner :=
  if scanner.isFront && scanner.depth = 0 then scanner.takeFront
  else match scanner.rest with
    | [] => .ok scanner
    | '\n' :: _ =>
        if scanner.depth != 0 then .ok (scanner.nextLine 1)
        else
          let scanner := if scanner.hasTokens then scanner.add .newline 0 else scanner
          .ok { scanner.nextLine 1 with isFront := true }
    | '\\' :: '\n' :: _ => .ok (scanner.nextLine 2)
    | '\\' :: _ =>
        .error (Flaw.atLine "unexpected character after line continuation character" scanner.line
          (scanner.column + 1) 0)
    | '#' :: rest => .ok (scanner.skip (1 + (rest.takeWhile (· != '\n')).length))
    | c :: rest =>
        if c = ' ' || c = '\t' || c = '\r' || c = '\x0c' then .ok (scanner.skip 1)
        else if c = '"' || c = '\'' then scanner.takeText [] ⟨false, false, false⟩
        else if Token.isNameFront c then
          let word := (c :: rest).takeWhile Token.isNamePart
          let behind := (c :: rest).drop word.length
          let isQuote := behind.head?.any fun d => d = '"' || d = '\''
          match if isQuote then Token.quotingOf? word else none with
          | some quoting => scanner.takeText word quoting
          | none => .ok ((scanner.add (.name word) word.length).skip word.length)
        else if c.isDigit || (c = '.' && rest.head?.any Char.isDigit) then
          let (value, behind) := Token.takeNumber (c :: rest)
          let length := rest.length + 1 - behind.length
          if behind.head?.any Token.isNameFront &&
              !(behind.take 2 |>.any fun d => d = 'i' || d = 'o'
              || d = 'a' || d = 'f') then
            .error (Flaw.atLine "invalid decimal literal" scanner.line (scanner.column + length - 1)
              1)
          else .ok ((scanner.add (.number value) length).skip length)
        else scanner.takeSign

/-- All steps through a text. -/
def scan : (fuel : Nat) → Scanner → Except Flaw Scanner
  | 0, scanner => .ok scanner
  | fuel + 1, scanner => do
      if scanner.rest.isEmpty && !scanner.isFront then return scanner
      if scanner.rest.isEmpty then return { scanner with isFront := false }
      scan fuel (← scanner.step)

end Scanner

/-- The tokens of a text. -/
def tokensOf (text : Text) : Except Flaw (List Lexeme) := do
  let scanner ← Scanner.scan (2 * text.length + 2) ⟨text, 1, 0, 0, [0], true, []⟩
  if scanner.depth != 0 then
    let opening := (scanner.made.find? fun lexeme => match lexeme.token with
      | .sign sign => sign = ['('] || sign = ['['] || sign = ['\x7b']
      | _ => false).getD default
    let shown : Text := match opening.token with
      | .sign sign => sign
      | _ => []
    throw (Flaw.atLine ("'".toList ++ shown ++ "' was never closed".toList) opening.line
      opening.column 1)
  let scanner := if scanner.hasTokens then scanner.add .newline 0 else scanner
  let dedents := scanner.indents.filter (· != 0)
  let scanner := dedents.foldl (fun scanner _ => scanner.add .dedent 0) scanner
  return (scanner.add .ending 0).made.reverse

end ShaderCost.Script.Indented
