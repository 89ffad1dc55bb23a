import ShaderCost.Script.Command
import ShaderCost.Text.Numeral

/-!
Reading scripts. A script is read one complete command at a time, so that what comes before a
fault is carried out first. Words are read character by character, because what a character means
depends on the quotes and braces around it; commands are read token by token.
-/

namespace ShaderCost.Script

/-- Why a script cannot be read on, and where. -/
structure Fault where
  problem : Text
  line : Nat
  deriving DecidableEq

inductive Token where
  | word (word : Word)
  /-- A reserved word, in a place where such words are looked for. -/
  | keyword (name : Text)
  | symbol (text : Text)
  /-- The beginning of a redirection. -/
  | redirection (stream : Option Nat) (symbol : Text)
  | newline
  | finish

namespace Token

def isKeyword (name : Text) : Token → Bool
  | keyword found => found = name
  | _ => false

def isSymbol (text : Text) : Token → Bool
  | symbol found => found = text
  | _ => false

/-- What messages call a token. -/
def title : Token → Text
  | word _ => "word"
  | keyword name => "\"" ++ name ++ "\""
  | symbol text => "\"" ++ text ++ "\""
  | redirection _ _ => "redirection"
  | newline => "newline"
  | finish => "end of file"

def keywords : List Text :=
  ["!", "case", "do", "done", "elif", "else", "esac", "fi", "for", "if", "in", "then", "until",
    "while", "\x7b", "\x7d"]

/-- The reserved words of a language. -/
def keywordsOf : Dialect → List Text
  | .plain => keywords
  | .extended => keywords ++ ["[[".toList, "function".toList, "time".toList]

/-- Reserved words that end a list of commands. -/
def closingKeywords : List Text :=
  ["do", "done", "elif", "else", "esac", "fi", "then", "\x7d"]

/-- Whether a list of commands ends before a token. -/
def endsList : Token → Bool
  | keyword name => closingKeywords.contains name
  | symbol text => text = ")" || text = ";;" || text = ";&" || text = ";;&"
  | finish => true
  | _ => false

end Token

/-- A text that a redirection asks for and that stands below the line of the redirection. -/
structure Attachment where
  place : Nat
  /-- What the line after the text consists of. -/
  delimiter : Text
  dropsTabs : Bool
  /-- Whether the text is taken as it stands. -/
  isPlain : Bool
  /-- The line that asks for it. -/
  line : Nat

/-- What is left of a script. -/
structure Source where
  dialect : Dialect
  rest : Text
  line : Nat
  aliases : List (Text × Text)
  /-- The attached texts, which redirections refer to by their places. -/
  texts : Array Word
  /-- The aliases whose text is being read, each with how much comes after it. -/
  unfolding : List (Text × Nat)
  /-- A token that was read ahead. -/
  ahead : Option Token
  /-- The attachments that are still to be read. -/
  attachments : List Attachment
  /-- The attachment that is being read. -/
  attachment : Option Attachment
  /-- What stands behind the attachment, once its end was found. -/
  behind : Text
  isDelimited : Bool
  /-- Whether patterns may have groups of alternatives. -/
  hasGroups : Bool
  /-- What is worth a warning, with its line. -/
  warnings : List (Nat × Text)

namespace Source

def ofText (dialect : Dialect) (text : Text) (line : Nat) (aliases : List (Text × Text))
    (texts : Array Word) : Source where
  dialect
  rest := text
  line
  aliases
  texts
  unfolding := []
  ahead := none
  attachments := []
  attachment := none
  behind := []
  isDelimited := false
  hasGroups := false
  warnings := []

/-- Whether, between two states of a source, the end of an alias was passed whose text ends with a
blank. The word behind such an alias may be one as well. -/
def leavesBlankAlias (before after : Source) : Bool :=
  before.unfolding.any fun (name, behind) =>
    ((before.aliases.lookup name).bind List.getLast?).any (fun c => c = ' ' || c = '\t') &&
      behind < before.rest.length && after.rest.length ≤ behind

end Source

abbrev Reader := StateT Source (Except Fault)

namespace Reader

def fault {α : Type} (problem : Text) : Reader α := do
  throw ⟨problem, (← get).line⟩

def isExtended : Reader Bool := do return (← get).dialect = .extended

/-- Complains in the words of the language. -/
def faultIn {α : Type} (plain extended : Text) : Reader α := do
  fault (if ← isExtended then extended else plain)

/-- What is said where a text ends inside of something that a mark closes. -/
def openEnd (mark : Text) : Text :=
  "unexpected EOF while looking for matching \x60".toList ++ mark ++ ['\'']

/-- The readers go a bounded number of steps deep for each character; this message is never
seen. -/
def exhausted {α : Type} : Reader α := fault "script too long"

/-- Takes out backslashes that join a line to the next one. -/
def joinLines : Reader Unit := modify fun source => go source.rest source
where
  go : Text → Source → Source
    | '\\' :: '\n' :: rest, source =>
        go rest { source with rest, line := source.line + 1 }
    | _, source => source

/-- The next character, which stays there. -/
def peek : Reader (Option Char) := do
  joinLines
  return (← get).rest.head?

/-- Takes a character, whatever it is. -/
def take? : Reader (Option Char) := do
  let source ← get
  match source.rest with
  | [] => return none
  | c :: rest =>
      set { source with rest, line := if c = '\n' then source.line + 1 else source.line }
      return some c

def drop : Reader Unit := do
  let _ ← take?

/-- Takes a character that is no part of anything; the lines are not counted here. -/
def swallow : Reader Unit := modify fun source => { source with rest := source.rest.drop 1 }

/-- Takes a character if it is the expected one. -/
def takeIf (expected : Char) : Reader Bool := do
  if (← peek) = some expected then
    drop
    return true
  else return false

/-- Takes the characters at the front that satisfy a test, which no line feed does. -/
def takeWhile (test : Char → Bool) : Reader Text := do
  let source ← get
  let run := source.rest.takeWhile test
  if run.isEmpty then return run
  set { source with rest := source.rest.drop run.length }
  return run

/-- Complains of quotes that are not closed. In an attached text this is the lack of what is around
them, because outside braces quotes have no meaning there. -/
def unterminated {α : Type} (mark : Char) : Reader α := do
  if (← get).attachment.isSome then faultIn "Missing '\x7d'" (openEnd "\x7d")
  else faultIn "Unterminated quoted string" (openEnd [mark])

/-- Takes characters up to a closing one, which may be lines further down. -/
def upTo (closing : Char) : Reader Text := do
  let source ← get
  let run := source.rest.takeWhile (· != closing)
  let next := { source with line := source.line + run.count '\n' }
  match source.rest.drop run.length with
  | [] =>
      if (← isExtended) then unterminated closing
      set { next with rest := [] }
      unterminated closing
  | _ :: rest =>
      set { next with rest }
      return run

def isBlank (c : Char) : Bool := c == ' ' || c == '\t'

/-- Characters that end a word where they stand outside quotes. -/
def isDelimiter (c : Char) : Bool := " \t\n;&|<>()".toList.contains c

/-- Skips blanks, joined lines and a comment. -/
def skipBlanks (fuel : Nat) : Reader Unit :=
  match fuel with
  | 0 => exhausted
  | fuel + 1 => do
      let _ ← takeWhile isBlank
      match ← peek with
      | some c =>
          if isBlank c then skipBlanks fuel
          else if c = '#' then
            let _ ← takeWhile (· != '\n')
      | none => pure ()

/-- What is around the characters of a word that is being read. -/
inductive Surroundings where
  | nothing
  | braces
  | quotes
  /-- Braces between double quotes; further quotes may be open inside. -/
  | quotedBraces (inQuotes : Bool)
  /-- An arithmetic expression with this many open parentheses. -/
  | expression (depth : Nat)
  /-- A text in the lines of a script. -/
  | lines
  /-- A part of what stands between braces, up to one of some characters or the closing brace. -/
  | part (stops : Text)
  /-- A subscript with this many open brackets. -/
  | subscript (depth : Nat)
  /-- An operand of a condition with this many open parentheses. -/
  | operand (depth : Nat)
  deriving DecidableEq

namespace Surroundings

def isQuoted : Surroundings → Bool
  | nothing | braces | part _ | subscript _ | operand _ => false
  | _ => true

/-- Whether a character stands for itself and the word goes on. -/
def isPlain (around : Surroundings) (c : Char) : Bool :=
  if c == '\\' || c == '$' || c == '\x60' || c == '\n' then false
  else match around with
    | nothing => !isDelimiter c && c != '\'' && c != '"'
    | braces => c != '}' && c != '\'' && c != '"'
    | quotes => c != '"'
    | quotedBraces _ => c != '"' && c != '}'
    | expression _ => c != '(' && c != ')'
    | lines => true
    | part stops => c != '}' && c != '\'' && c != '"' && !stops.elem c
    | subscript _ => c != '[' && c != ']' && c != '\'' && c != '"'
    | operand depth => c != '(' && c != ')' && c != '\'' && c != '"' &&
        !(depth = 0 && isDelimiter c)

/-- Characters as a part of a word. -/
def segment (around : Surroundings) (text : Text) : Segment :=
  if around.isQuoted then .literal text else .bare text

/-- The text of a character with a backslash before it. -/
def escaped (around : Surroundings) (c : Char) : Text :=
  let drops := match around with
    | nothing | braces | part _ | subscript _ | operand _ => true
    | quotes | expression _ => "\\$\x60\"".toList.contains c
    | quotedBraces _ => "\\$\x60\"\x7d".toList.contains c
    | lines => "\\$\x60".toList.contains c
  if drops then [c] else ['\\', c]

/-- What is around the word inside braces. Patterns have quotes of their own. -/
def inBraces (around : Surroundings) (isPattern : Bool) : Surroundings :=
  if around.isQuoted && !isPattern then quotedBraces false else braces

end Surroundings

/-- Reads what a mark closes. In the extended language its lack is a fault of the line that opens
it. -/
def opened {α : Type} (mark : Text) (line : Nat) (reader : Reader α) : Reader α := fun source =>
  match reader source with
  | .error fault =>
      if fault.problem = openEnd mark then .error { fault with line } else .error fault
  | .ok result => .ok result

/-- Complains of what is missing where a word ends before its surroundings do. -/
def complainOfEnd : Surroundings → Reader Unit
  | .nothing | .lines | .operand _ => pure ()
  | .braces | .part _ => faultIn "Missing '\x7d'" (openEnd "\x7d")
  | .quotes | .quotedBraces _ => unterminated '"'
  | .expression _ => faultIn "Missing '))'" (openEnd ")")
  | .subscript _ => fault (openEnd "]")

/-- The commands between backquotes, where a backslash may stand before a special character. -/
def upToBackquote (isQuoted : Bool) (fuel : Nat) (before : Text) : Reader Text :=
  match fuel with
  | 0 => exhausted
  | fuel + 1 => do
      joinLines
      match ← take? with
      | none => faultIn "EOF in backquote substitution" (openEnd "\x60")
      | some c =>
          if c = '\x60' then return before.reverse
          else if c = '\\' then
            match ← take? with
            | none => faultIn "EOF in backquote substitution" (openEnd "\x60")
            | some d =>
                let drops := "\\\x60$".toList.contains d || (isQuoted && d = '"')
                upToBackquote isQuoted fuel (if drops then d :: before else d :: '\\' :: before)
          else upToBackquote isQuoted fuel (c :: before)

/-- The name of a parameter inside braces, and whether its size is asked for. A character that
cannot be one is lost. -/
def takeName : Reader (Option (Text × Bool)) := do
  match ← peek with
  | none => return none
  | some c =>
      if isNameStart c then return some (← takeWhile isNameChar, false)
      else if c.isDigit then return some (← takeWhile Char.isDigit, false)
      else if c = '#' then
        drop
        match ← peek with
        | none => return some (['#'], false)
        | some d =>
            if isNameStart d then return some (← takeWhile isNameChar, true)
            else if d.isDigit then return some (← takeWhile Char.isDigit, true)
            else if d != '}' && (← get).rest[1]? == some '}' then
              swallow
              return if isSpecialParameter d then some ([d], true) else none
            else return some (['#'], false)
      else if isSpecialParameter c then
        drop
        return some ([c], false)
      else
        if c != '}' then swallow
        return none

/-- What is to be done with a parameter inside braces. -/
inductive Usage where
  | value
  | fallback (orEmpty : Bool)
  | alternative (orEmpty : Bool)
  | initial (orEmpty : Bool)
  | demanded (orEmpty : Bool)
  | trimmed (atEnd longest : Bool)
  | invalid

def Usage.ofMark? (orEmpty : Bool) (mark : Char) : Option Usage :=
  if mark = '-' then some (.fallback orEmpty)
  else if mark = '+' then some (.alternative orEmpty)
  else if mark = '=' then some (.initial orEmpty)
  else if mark = '?' then some (.demanded orEmpty)
  else none

def Usage.segment (usage : Usage) (name : Text) (isQuoted : Bool) (word : Word) : Segment :=
  match usage with
  | .value => .value name isQuoted
  | .fallback orEmpty => .fallback name orEmpty word isQuoted
  | .alternative orEmpty => .alternative name orEmpty word isQuoted
  | .initial orEmpty => .initial name orEmpty word isQuoted
  | .demanded orEmpty => .demanded name orEmpty word isQuoted
  | .trimmed atEnd longest => .trimmed name atEnd longest word isQuoted
  | .invalid => .invalid []

/-- Takes the mark after the name of a parameter. -/
def takeUsage : Reader Usage := do
  match ← peek with
  | none => return .invalid
  | some c =>
      if c = '}' then
        drop
        return .value
      else if c = ':' then
        drop
        let mark ← peek
        swallow
        if mark = some '}' then return .fallback true
        return (mark.bind (Usage.ofMark? true)).getD .invalid
      else if c = '#' || c = '%' then
        drop
        return .trimmed (c = '%') (← takeIf c)
      else
        swallow
        return (Usage.ofMark? false c).getD .invalid

/-- Begins a line of an attached text, which ends here if the line is its delimiter. The result is
what stands for itself at the front of the line: no lines are joined behind tabs that are
dropped. -/
def startLine : Reader Text := do
  let source ← get
  match source.attachment with
  | none => return []
  | some attachment =>
      let isTab (c : Char) : Bool := attachment.dropsTabs && c == '\t'
      let line := source.rest.dropWhile isTab
      let behind := line.drop attachment.delimiter.length
      if attachment.delimiter.isPrefixOf line && behind.head?.all (· == '\n') then
        set { source with
          rest := [], behind := behind.drop 1, isDelimited := true, line := source.line + 1 }
        return []
      else
        set { source with rest := line }
        let isBehindTabs := source.rest.head?.any isTab
        if isBehindTabs && !attachment.isPlain && ['\\', '\n'].isPrefixOf line then
          set { source with rest := line.drop 2 }
          return ['\\', '\n']
        else return []

/-- The lines of an attached text that is taken as it stands, after those before. -/
def takeLines : (fuel : Nat) → (before : List Text) → Reader Text
  | 0, _ => exhausted
  | fuel + 1, before => do
      let front ← startLine
      let text ← takeWhile (· != '\n')
      let line := front ++ text
      match ← take? with
      | none => return (line :: before).reverse.flatten
      | some c => takeLines fuel ((line ++ [c]) :: before)

/-- The delimiter of an attached text, and whether a part of it is quoted. Nothing is expanded
in it. -/
def takeDelimiter : (fuel : Nat) → (inQuotes isQuoted : Bool) → (before : Text) →
    Reader (Text × Bool)
  | 0, _, _, _ => exhausted
  | fuel + 1, inQuotes, isQuoted, before => do
      match ← peek with
      | none => if inQuotes then unterminated '"' else return (before.reverse, isQuoted)
      | some c =>
          if isDelimiter c && !inQuotes then return (before.reverse, isQuoted)
          drop
          if c = '"' then takeDelimiter fuel (!inQuotes) true before
          else if c = '\'' && !inQuotes then
            let text ← upTo '\''
            takeDelimiter fuel inQuotes true (text.reverse ++ before)
          else if c = '\\' then
            match ← take? with
            | none => takeDelimiter fuel inQuotes isQuoted (c :: before)
            | some d =>
                let drops := !inQuotes || Surroundings.quotes.escaped d == [d]
                takeDelimiter fuel inQuotes true (d :: if drops then before else c :: before)
          else takeDelimiter fuel inQuotes isQuoted (c :: before)

/-- Asks for an attached text, which is read at the end of the line. -/
def attach (delimiter : Text) (dropsTabs isPlain : Bool) : Reader Nat := do
  let source ← get
  let place := source.texts.size
  let attachment : Attachment := ⟨place, delimiter, dropsTabs, isPlain, source.line⟩
  set { source with
    texts := source.texts.push [], attachments := source.attachments ++ [attachment] }
  return place

/-- A token as it is written. -/
def written : Token → Text
  | .word word => (bareText? word).getD "word"
  | .keyword name => name
  | .symbol text => text
  | .redirection _ symbol => symbol
  | .newline | .finish => "newline"

def unexpected {α : Type} (token : Token) (wanted : Option Text) : Reader α := do
  if ← isExtended then
    match token with
    | .finish => fault "syntax error: unexpected end of file"
    | .newline =>
        throw ⟨"syntax error near unexpected token \x60newline'", (← get).line - 1⟩
    | token =>
        fault ("syntax error near unexpected token \x60".toList ++ written token ++ ['\''])
  else match wanted with
    | none => fault (token.title ++ " unexpected")
    | some wanted => fault (token.title ++ " unexpected (expecting \"" ++ wanted ++ "\")")

/-- Complains of a token in a condition. -/
def unexpectedIn {α : Type} (problem : Text) (token : Token) : Reader α := do
  match token with
  | .finish => fault "syntax error: unexpected end of file"
  | token => fault (problem ++ "\nsyntax error near \x60".toList ++ written token ++ ['\''])

def putBack (token : Token) : Reader Unit :=
  modify fun source => { source with ahead := some token }

/-- Puts the text of an alias where its name stood, unless that text is being read already. -/
def openAlias (name : Text) : Reader Bool := do
  let source ← get
  match source.aliases.lookup name with
  | none => return false
  | some value =>
      let left := source.rest.length
      let unfolding := source.unfolding.filter fun (_, behind) => behind < left
      if (unfolding.lookup name).isSome then return false
      set { source with rest := value ++ source.rest, unfolding := (name, left) :: unfolding }
      return true

/-- The symbol of a redirection. -/
def takeRedirectionSymbol : Reader Text := do
  if ← takeIf '>' then
    if ← takeIf '>' then return ">>"
    else if ← takeIf '|' then return ">|"
    else if ← takeIf '&' then return ">&"
    else return ">"
  else
    drop
    if ← takeIf '<' then
      if ← takeIf '-' then return "<<-"
      else if (← isExtended) && (← peek) = some '<' then
        drop
        return "<<<"
      else return "<<"
    else if ← takeIf '&' then return "<&"
    else if ← takeIf '>' then return "<>"
    else return "<"

/-- Which commands may be named like a function. -/
def isFunctionName (dialect : Dialect) (name : Text) : Bool :=
  dialect = .extended || (isName name && !specialCommands.contains name)

/-- Whether a word is the beginning of an assignment whose value is still to come. -/
def awaitsValue : Word → Bool
  | [.bare text] => match assignment? text with
    | some (_, value) => value.isEmpty
    | none => false
  | [.place ..] => true
  | _ => false

/-- The letters that a backslash gives another meaning in quotes behind a dollar sign. -/
def escapeLetters : List (Char × Char) := [
  ('a', '\x07'), ('b', '\x08'), ('e', '\x1b'), ('E', '\x1b'), ('f', '\x0c'), ('n', '\n'),
  ('r', '\x0d'), ('t', '\t'), ('v', '\x0b'), ('\\', '\\'), ('\'', '\''), ('"', '"'), ('?', '?')]

/-- The text between quotes behind a dollar sign, where backslashes write characters. -/
def takeEscaped : (fuel : Nat) → (before : Text) → Reader Text
  | 0, _ => exhausted
  | fuel + 1, before => do
      match ← take? with
      | none => unterminated '\''
      | some '\'' => return before.reverse
      | some '\\' =>
          let rest := (← get).rest
          match rest with
          | [] => unterminated '\''
          | c :: behind =>
              match escapeLetters.lookup c with
              | some written =>
                  drop
                  takeEscaped fuel (written :: before)
              | none =>
                  let digits (isDigit : Char → Bool) (most : Nat) (text : Text) : Text :=
                    (text.take most).takeWhile isDigit
                  let skip (count : Nat) : Reader Unit := modify fun source =>
                    { source with rest := source.rest.drop count }
                  if isOctalDigit c then
                    let found := digits isOctalDigit 3 rest
                    skip found.length
                    takeEscaped fuel (Char.ofNat (digitsIn 8 found % 256) :: before)
                  else if c = 'x' || c = 'u' || c = 'U' then
                    let most := if c = 'x' then 2 else if c = 'u' then 4 else 8
                    let found := digits isHexDigit most behind
                    if found.isEmpty then
                      drop
                      takeEscaped fuel (c :: '\\' :: before)
                    else
                      skip (found.length + 1)
                      let written : Text := if c = 'x' then [Char.ofNat (digitsIn 16 found)]
                        else writtenCode (digitsIn 16 found)
                      takeEscaped fuel (written.reverse ++ before)
                  else match c, behind with
                    | 'c', control :: _ =>
                        skip 2
                        takeEscaped fuel (Char.ofNat (control.toNat % 32) :: before)
                    | _, _ =>
                        drop
                        takeEscaped fuel (c :: '\\' :: before)
      | some c => takeEscaped fuel (c :: before)

/-- Operators of conditions that take one operand. -/
def soleOperators : List Text := ["-a", "-b", "-c", "-d", "-e", "-f", "-g", "-h", "-k", "-p", "-r",
  "-s", "-t", "-u", "-w", "-x", "-G", "-L", "-N", "-O", "-S", "-z", "-n", "-o", "-v",
  "-R"].map String.toList

/-- Operators of conditions that stand between two operands. -/
def pairOperators : List Text := ["=", "==", "!=", "=~", "-eq", "-ne", "-lt", "-le", "-gt", "-ge",
  "-nt", "-ot", "-ef"].map String.toList

/-- The mark behind a parameter of the extended language. -/
inductive Mark where
  | closing
  | whenUnset (orEmpty : Bool) (mark : Char)
  | slice
  | trimmed (atEnd longest : Bool)
  | replaced (anchor : Anchor)
  | recased (isUpper isWhole : Bool)
  | transformed (letter : Char)
  | unknown

/-- Takes the mark behind a parameter. -/
def takeMark : Reader Mark := do
  match (← get).rest with
  | '}' :: _ =>
      drop
      return .closing
  | ':' :: mark :: _ =>
      drop
      if "-=+?".toList.elem mark then
        drop
        return .whenUnset true mark
      else return .slice
  | c :: _ =>
      if "-=+?".toList.elem c then
        drop
        return .whenUnset false c
      else if c = '#' || c = '%' then
        drop
        return .trimmed (c = '%') (← takeIf c)
      else if c = '^' || c = ',' then
        drop
        return .recased (c = '^') (← takeIf c)
      else if c = '/' then
        drop
        if ← takeIf '/' then return .replaced .everywhere
        else if ← takeIf '#' then return .replaced .front
        else if ← takeIf '%' then return .replaced .back
        else return .replaced .first
      else if c = '@' then
        drop
        match ← take? with
        | some letter => if ← takeIf '}' then return .transformed letter else return .unknown
        | none => return .unknown
      else return .unknown
  | [] => return .unknown

/-- Whether the parenthesis that closes a text is at once followed by another one. -/
def closesTwice : Text → (depth : Nat) → Bool
  | [], _ => false
  | '(' :: rest, depth => closesTwice rest (depth + 1)
  | ')' :: rest, 0 => rest.head? = some ')'
  | ')' :: rest, depth + 1 => closesTwice rest depth
  | _ :: rest, depth => closesTwice rest depth

def standardErrorNumber : Nat := 2

/-- The parts of an expression between semicolons. -/
def splitAtSemicolons : Word → (current : Word) → List Word
  | [], current => [current.reverse]
  | .literal text :: rest, current =>
      match text.splitOn ';' with
      | [] | [_] => splitAtSemicolons rest (.literal text :: current)
      | first :: others =>
          let middle := others.dropLast.map fun part => [Segment.literal part]
          (.literal first :: current).reverse :: middle ++
            splitAtSemicolons rest [.literal (others.getLast?.getD [])]
  | segment :: rest, current => splitAtSemicolons rest (segment :: current)

end Reader

end ShaderCost.Script
