import ShaderCost.Script.Reader.Words

/-!
Reading commands from tokens. Commands may stand inside the words of other commands, so they are
read for a depth of such nesting.
-/

namespace ShaderCost.Script.Reader

/-- How far a list of commands goes. -/
inductive Extent where
  /-- To the end of a line. -/
  | line
  /-- To a token that no list goes on with, with one command at least. -/
  | body
  /-- To such a token, which may come at once. -/
  | arm
  deriving DecidableEq

/-- The ways to read what commands are made of. -/
structure Tools where
  word : Surroundings → Word → Reader Word
  token : (skipsLines keywords unfolds : Bool) → Reader Token
  /-- Reads a token before reserved words are looked for. -/
  raw : Reader Token
  /-- Reads the texts that were asked for. -/
  texts : Reader Unit

/-- Ways to read, with a way to read the commands that words hold. -/
def Tools.within (inner : Reader (List Command)) (fuel : Nat) : Tools where
  word := takeWord inner fuel
  token := takeToken inner fuel
  raw := takeRawToken inner fuel
  texts := takeTexts inner fuel

variable (tools : Tools)

/-! Conditions. -/

mutual

/-- A condition up to the word that closes it. -/
def takeTest (fuel : Nat) : Reader Test :=
  match fuel with
  | 0 => exhausted
  | fuel + 1 => do
      let test ← takeEither fuel
      match ← tools.token true false false with
      | .word [.bare [']', ']']] => return test
      | token => unexpectedIn "syntax error in conditional expression" token

def takeEither (fuel : Nat) : Reader Test :=
  match fuel with
  | 0 => exhausted
  | fuel + 1 => do
      let left ← takeBoth fuel
      let token ← tools.token true false false
      if token.isSymbol "||" then return .either left (← takeEither fuel)
      else
        putBack token
        return left

def takeBoth (fuel : Nat) : Reader Test :=
  match fuel with
  | 0 => exhausted
  | fuel + 1 => do
      let left ← takeCondition fuel
      let token ← tools.token true false false
      if token.isSymbol "&&" then return .both left (← takeBoth fuel)
      else
        putBack token
        return left

/-- An operand of a comparison, which may be a pattern with parentheses. -/
def takeOperand (fuel : Nat) : Reader Word :=
  match fuel with
  | 0 => exhausted
  | fuel + 1 => do
      skipBlanks fuel
      let word := joinSegments (← tools.word (.operand 0) [])
      match word with
      | [] | [.bare [']', ']']] =>
          unexpectedIn "unexpected argument \x60]]' to conditional binary operator"
            (.word [.bare "]]"])
      | word => return word

/-- One comparison, one property, a negation or a group. -/
def takeCondition (fuel : Nat) : Reader Test :=
  match fuel with
  | 0 => exhausted
  | fuel + 1 => do
      match ← tools.token true false false with
      | .symbol ['('] =>
          let test ← takeEither fuel
          let closing ← tools.token true false false
          if !closing.isSymbol ")" then unexpected closing (some ")")
          return test
      | .word [.bare ['!']] => return .negation (← takeCondition fuel)
      | .word word =>
          let next ← tools.token false false false
          let endsHere : Bool := match next with
            | .word [.bare [']', ']']] => true
            | .word _ | .redirection .. => false
            | _ => true
          match endsHere, bareText? word with
          | true, some operator =>
              if soleOperators.elem operator && !next.isSymbol ")" then
                unexpectedIn ("unexpected argument \x60".toList ++ written next ++
                  "' to conditional unary operator".toList) next
              putBack next
              return .word word
          | true, none =>
              putBack next
              return .word word
          | false, some operator =>
              match soleOperators.elem operator, next with
              | true, .word operand => return .one operator operand
              | _, _ => takeComparison fuel word next
          | false, none => takeComparison fuel word next
      | token => unexpectedIn "syntax error in conditional expression" token

/-- A comparison whose operator was read. -/
def takeComparison (fuel : Nat) (left : Word) (operator : Token) : Reader Test :=
  match fuel with
  | 0 => exhausted
  | fuel + 1 => do
      match operator with
      | .redirection none ['<'] => return .two left ['<'] (← takeOperand fuel)
      | .redirection none ['>'] => return .two left ['>'] (← takeOperand fuel)
      | .word word =>
          match (bareText? word).filter pairOperators.elem with
          | some operator => return .two left operator (← takeOperand fuel)
          | none => unexpectedIn "conditional binary operator expected" operator
      | _ => unexpectedIn "conditional binary operator expected" operator

end

/-! Commands. -/

def expectKeyword (name : Text) : Reader Unit := do
  let token ← tools.token false false false
  if token.isKeyword name then pure () else unexpected token (some name)

mutual

/-- The commands of a list, after those before. -/
def takeList (fuel : Nat) (extent : Extent) (isFirst : Bool) (before : List Command) :
    Reader (List Command) :=
  match fuel with
  | 0 => exhausted
  | fuel + 1 => do
      let token ← tools.token (extent != .line) true true
      match token with
      | .newline =>
          tools.texts
          return before.reverse
      | .finish =>
          tools.texts
          putBack token
          return before.reverse
      | _ =>
          putBack token
          if token.endsList && (extent = .arm || (extent = .body && !isFirst)) then
            return before.reverse
          else
            let line := (← get).line
            let command ← takeChain fuel
            let next ← tools.token false false false
            let command := if next.isSymbol "&" then .background line command else command
            let commands := command :: before
            match next with
            | .newline | .finish =>
                putBack next
                takeList fuel extent false commands
            | _ =>
                if next.isSymbol "&" || next.isSymbol ";" then
                  takeList fuel extent false commands
                else if extent = .line then unexpected next none
                else
                  putBack next
                  return commands.reverse

/-- A list that a compound command is made of. -/
def takeBody (fuel : Nat) : Reader Command :=
  match fuel with
  | 0 => exhausted
  | fuel + 1 => do
      match ← takeList fuel .body true [] with
      | [command] => return command
      | commands => return .sequence commands

/-- Pipelines that depend on how the one before ended. -/
def takeChain (fuel : Nat) : Reader Command :=
  match fuel with
  | 0 => exhausted
  | fuel + 1 => do continueChain fuel (← takePipeline fuel)

/-- Chains grow to the left. -/
def continueChain (fuel : Nat) (first : Command) : Reader Command :=
  match fuel with
  | 0 => exhausted
  | fuel + 1 => do
      let token ← tools.token false false false
      if token.isSymbol "&&" then
        putBack (← tools.token true true true)
        continueChain fuel (.andThen first (← takePipeline fuel))
      else if token.isSymbol "||" then
        putBack (← tools.token true true true)
        continueChain fuel (.orElse first (← takePipeline fuel))
      else
        putBack token
        return first

def takePipeline (fuel : Nat) : Reader Command :=
  match fuel with
  | 0 => exhausted
  | fuel + 1 => do
      let token ← tools.token false false false
      if token.isKeyword "time" then
        let next ← tools.token false true true
        match (← isExtended), next with
        | true, .newline | true, .finish =>
            putBack next
            return .timed .nothing
        | _, .word [.bare ['-', 'p']] =>
            putBack (← tools.token false true true)
            return .timed (← takePipeline fuel)
        | _, next =>
            putBack next
            return .timed (← takePipeline fuel)
      let negates := token.isKeyword "!"
      putBack (← if negates then tools.token false true true else pure token)
      if negates && (← isExtended) then
        let next ← tools.token false true true
        putBack next
        let isAlone : Bool := match next with
          | .newline | .finish => true
          | .symbol text => text = ";"
          | _ => false
        if isAlone then return .negation .nothing
      let command ← match ← takePiped fuel [] with
        | [command] => pure command
        | commands => pure (.pipeline commands)
      return if negates then .negation command else command

/-- The commands of a pipeline, after those before. -/
def takePiped (fuel : Nat) (before : List Command) : Reader (List Command) :=
  match fuel with
  | 0 => exhausted
  | fuel + 1 => do
      let commands := (← takeCommand fuel) :: before
      let token ← tools.token false false false
      if token.isSymbol "|" then
        putBack (← tools.token true true true)
        takePiped fuel commands
      else if token.isSymbol "|&" then
        putBack (← tools.token true true true)
        let joined : List Command := match commands with
          | command :: before =>
              .redirected 0 command [.duplicate standardErrorNumber [.bare ['1']]] :: before
          | [] => []
        takePiped fuel joined
      else
        putBack token
        return commands.reverse

def takeCommand (fuel : Nat) : Reader Command :=
  match fuel with
  | 0 => exhausted
  | fuel + 1 => do
      let line := (← get).line
      let token ← tools.token false false false
      match token with
      | .word _ | .redirection _ _ =>
          putBack token
          takeSimple fuel line [] [] []
      | .symbol text =>
          if text = "(" then
            let before ← get
            if before.rest.head? = some '(' && before.dialect = .extended then
              if closesTwice (before.rest.drop 1) 0 then
                drop
                let expression ← tools.word (.expression 0) []
                return ← takeComputation fuel line (joinSegments expression)
            let body ← takeBody fuel
            let closing ← tools.token false false false
            if !closing.isSymbol ")" then unexpected closing (some ")")
            return .subshell line body (← takeRedirections fuel true [])
          else unexpected token none
      | .keyword name =>
          let whole (command : Command) : Reader Command := do
            match ← takeRedirections fuel true [] with
            | [] => return command
            | redirections => return .redirected line command redirections
          match String.ofList name with
          | "if" => whole (← takeConditional fuel)
          | "while" | "until" =>
              let condition ← takeBody fuel
              let body ← takeDo fuel
              whole (.loop (name = "while".toList) condition body)
          | "for" => whole (← takeEach fuel line)
          | "case" => whole (← takeChoice fuel line)
          | "[[" => whole (.judged line (← takeTest tools fuel))
          | "function" => takeFunction fuel
          | "\x7b" =>
              let body ← takeBody fuel
              expectKeyword tools "\x7d"
              whole body
          | _ => unexpected token none
      | _ => unexpected token none

/-- An expression as a command, with its redirections. -/
def takeComputation (fuel line : Nat) (expression : Word) : Reader Command :=
  match fuel with
  | 0 => exhausted
  | fuel + 1 => do
      match ← takeRedirections fuel true [] with
      | [] => return .compute line expression
      | redirections => return .redirected line (.compute line expression) redirections

/-- A definition after the word that starts it. -/
def takeFunction (fuel : Nat) : Reader Command :=
  match fuel with
  | 0 => exhausted
  | fuel + 1 => do
      match ← tools.token false false false with
      | .word word =>
          match bareText? word with
          | none => fault ("\x60".toList ++ "word': not a valid identifier".toList)
          | some name =>
              let token ← tools.token true true true
              let token ←
                if token.isSymbol "(" then
                  let closing ← tools.token false false false
                  if !closing.isSymbol ")" then unexpected closing (some ")")
                  tools.token true true true
                else pure token
              putBack token
              let line := (← get).line
              return .function line name (← takeCommand fuel)
      | token => unexpected token none

/-- The commands between the words that enclose the body of a loop. -/
def takeDo (fuel : Nat) : Reader Command :=
  match fuel with
  | 0 => exhausted
  | fuel + 1 => do
      expectKeyword tools "do"
      let body ← takeBody fuel
      expectKeyword tools "done"
      return body

/-- A conditional after the word that starts it. -/
def takeConditional (fuel : Nat) : Reader Command :=
  match fuel with
  | 0 => exhausted
  | fuel + 1 => do
      let condition ← takeBody fuel
      expectKeyword tools "then"
      let body ← takeBody fuel
      let token ← tools.token false false false
      if token.isKeyword "elif" then
        return .conditional condition body (← takeConditional fuel)
      else if token.isKeyword "else" then
        let otherwise ← takeBody fuel
        expectKeyword tools "fi"
        return .conditional condition body otherwise
      else if token.isKeyword "fi" then return .conditional condition body .nothing
      else unexpected token (some "fi")

/-- A loop over words, after the word that starts it. Without words it goes over the
parameters. -/
def takeEach (fuel line : Nat) : Reader Command :=
  match fuel with
  | 0 => exhausted
  | fuel + 1 => do
      skipBlanks fuel
      let before ← get
      if before.dialect = .extended && ['(', '('].isPrefixOf before.rest then
        set { before with rest := before.rest.drop 2 }
        return ← takeCounted fuel line
      let name ← match ← tools.token false false false with
        | .word word =>
            match (bareText? word).filter fun name => isName name || before.dialect = .extended with
            | some name => pure name
            | none => faultIn "Bad for loop variable" "syntax error near unexpected token \x60('"
        | token => if ← isExtended then unexpected token none else fault "Bad for loop variable"
      let token ← tools.token true true true
      let words ←
        if token.isKeyword "in" then do
          let words ← takeWords fuel []
          match ← tools.token false false false with
          | .newline => pure ()
          | ending => if !ending.isSymbol ";" then unexpected ending none
          pure words
        else do
          if !token.isSymbol ";" then putBack token
          pure [[Segment.value ['@'] true]]
      putBack (← tools.token true true true)
      return .each line name words (← takeDo fuel)

/-- A loop that expressions count, after its opening parentheses. -/
def takeCounted (fuel line : Nat) : Reader Command :=
  match fuel with
  | 0 => exhausted
  | fuel + 1 => do
      let before ← get
      let inside ← opened ")" line (tools.word (.expression 0) [])
      let after ← get
      let text := before.rest.take (before.rest.length - after.rest.length - 2)
      let refuse : Reader (Word × Word × Word) :=
        fault ("syntax error: arithmetic expression required\n".toList ++
          "syntax error: \x60((".toList ++ text ++ "))'".toList)
      let (first, condition, step) ← match splitAtSemicolons (joinSegments inside) [] with
        | [first, condition, step] => pure (first, condition, step)
        | _ => refuse
      let token ← tools.token true true true
      putBack (← if token.isSymbol ";" then tools.token true true true else pure token)
      let body ←
        if token.isKeyword "\x7b" then do
          let _ ← tools.token false false false
          let body ← takeBody fuel
          expectKeyword tools "\x7d"
          pure body
        else takeDo fuel
      return .counted line (joinSegments first) (joinSegments condition) (joinSegments step) body

/-- The words that come next, after those before. -/
def takeWords (fuel : Nat) (before : List Word) : Reader (List Word) :=
  match fuel with
  | 0 => exhausted
  | fuel + 1 => do
      match ← tools.token false false false with
      | .word word => takeWords fuel (word :: before)
      | token =>
          putBack token
          return before.reverse

/-- A choice after the word that starts it. -/
def takeChoice (fuel line : Nat) : Reader Command :=
  match fuel with
  | 0 => exhausted
  | fuel + 1 => do
      match ← tools.token false false false with
      | .word subject =>
          let token ← tools.token true true true
          if !token.isKeyword "in" then unexpected token (some "in")
          return .choice line subject (← takeArms fuel [])
      | token => fault (token.title ++ " unexpected (expecting word)")

/-- The arms of a choice up to its end, after those before. -/
def takeArms (fuel : Nat) (before : List (List Word × Command × Ending)) :
    Reader (List (List Word × Command × Ending)) :=
  match fuel with
  | 0 => exhausted
  | fuel + 1 => do
      let token ← tools.token true true false
      if token.isKeyword "esac" then return before.reverse
      else
        let token ← if token.isSymbol "(" then tools.token false false false else pure token
        let patterns ← takePatterns fuel token []
        let body := Command.sequence (← takeList fuel .arm true [])
        let ending ← tools.token true true false
        if ending.isKeyword "esac" then return ((patterns, body, .leaves) :: before).reverse
        else if ending.isSymbol ";;" then takeArms fuel ((patterns, body, .leaves) :: before)
        else if ending.isSymbol ";&" then takeArms fuel ((patterns, body, .fallsThrough) :: before)
        else if ending.isSymbol ";;&" then takeArms fuel ((patterns, body, .goesOn) :: before)
        else unexpected ending (some ";;")

/-- The patterns of an arm from a token on, up to the closing parenthesis. -/
def takePatterns (fuel : Nat) (token : Token) (before : List Word) : Reader (List Word) :=
  match fuel with
  | 0 => exhausted
  | fuel + 1 => do
      let pattern : Word := match token with
        | .word word => word
        | .keyword name => [.bare name]
        | _ => []
      let next ← tools.token false false false
      if next.isSymbol "|" then
        takePatterns fuel (← tools.token false false false) (pattern :: before)
      else if next.isSymbol ")" then return (pattern :: before).reverse
      else unexpected next (some ")")

/-- A redirection after its symbol. -/
def takeTarget (fuel : Nat) (stream : Option Nat) (symbol : Text) : Reader Redirection :=
  match fuel with
  | 0 => exhausted
  | fuel + 1 => do
      let input := stream.getD 0
      let output := stream.getD 1
      if symbol = "<<" || symbol = "<<-" then
        skipBlanks fuel
        if (← peek).all isDelimiter then unexpected (← tools.raw) none
        let (delimiter, isQuoted) ← takeDelimiter fuel false false []
        return .text input (← attach delimiter (symbol = "<<-".toList) isQuoted)
      match ← tools.token false false false with
      | .word target =>
          match String.ofList symbol with
          | "<<<" => return .given input target
          | "&>" => return .both .writing target
          | "&>>" => return .both .appending target
          | ">" => return .file output .writing target
          | ">|" => return .file output .replacing target
          | ">>" => return .file output .appending target
          | ">&" => return .duplicate output target
          | "<&" => return .duplicate input target
          | "<>" => return .file input .both target
          | _ => return .file input .reading target
      | token => unexpected token none

/-- Redirections after a compound command, after those before. -/
def takeRedirections (fuel : Nat) (isFirst : Bool) (before : List Redirection) :
    Reader (List Redirection) :=
  match fuel with
  | 0 => exhausted
  | fuel + 1 => do
      match ← tools.token false isFirst isFirst with
      | .redirection stream symbol =>
          let redirection ← takeTarget fuel stream symbol
          takeRedirections fuel false (redirection :: before)
      | token =>
          putBack token
          return before.reverse

/-- A simple command or a definition, after what was read of it before. Assignments stand before
the first word. -/
def takeSimple (fuel line : Nat) (assignments words : List Word)
    (redirections : List Redirection) : Reader Command :=
  match fuel with
  | 0 => exhausted
  | fuel + 1 => do
      let token ← tools.token false false words.isEmpty
      match token with
      | .word word =>
          if words.isEmpty && isAssignment word then
            takeSimple fuel line (word :: assignments) words redirections
          else takeSimple fuel line assignments (word :: words) redirections
      | .redirection stream symbol =>
          let redirection ← takeTarget fuel stream symbol
          takeSimple fuel line assignments words (redirection :: redirections)
      | _ =>
          match token.isSymbol "(", words, assignments, redirections with
          | true, [name], [], [] =>
              let closing ← tools.token false false false
              if !closing.isSymbol ")" then unexpected closing (some ")")
              match (bareText? name).filter (isFunctionName (← get).dialect) with
              | none => fault "Bad function name"
              | some name =>
                  putBack (← tools.token true true true)
                  let line := (← get).line
                  return .function line name (← takeCommand fuel)
          | _, _, _, _ =>
              putBack token
              return .simple line assignments.reverse words.reverse redirections.reverse

end

/-- How commands are read in which others lie at most that many levels deep inside words. -/
def listWithin (fuel : Nat) : (depth : Nat) → Reader (List Command)
  | 0 => exhausted
  | depth + 1 => fun source =>
      takeList (Tools.within (listWithin fuel depth) fuel) fuel .arm true [] source

/-- How deep reading a script may go. -/
def depthFor (script : Text) : Nat := 16 * script.length + 64

/-- The ways to read a script. -/
def Tools.ofDepth (depth : Nat) : Tools := .within (listWithin depth depth) depth

/-- A text as a word in which only expansions have a meaning. -/
def wordOf? (dialect : Dialect) (text : Text) : Option Word :=
  match ((Tools.ofDepth (depthFor text)).word .lines []).run
      (Source.ofText dialect text 1 [] #[]) with
  | .ok (word, _) => some (joinSegments word)
  | .error _ => none

/-- The next complete command, unless the script is at its end. -/
def command? (depth : Nat) : Reader (Option Command) := do
  let tools := Tools.ofDepth depth
  let token ← tools.token false true true
  match token with
  | .finish => return none
  | .newline => return some .nothing
  | _ =>
      putBack token
      match ← takeList tools depth .line true [] with
      | [command] => return some command
      | commands => return some (.sequence commands)

end ShaderCost.Script.Reader
