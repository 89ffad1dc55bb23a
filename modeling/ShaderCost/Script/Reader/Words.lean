import ShaderCost.Script.Reader

/-!
Reading words and tokens. Words may hold commands, which are read the way that is handed in.
-/

namespace ShaderCost.Script.Reader

/-! The argument `inner` reads the commands that a word holds. -/

variable (inner : Reader (List Command))

/-- The commands that a text begins with, up to where they cannot be read on as a list. -/
def takeScript (script : Text) : Reader Command := do
  let outer ← get
  set (Source.ofText outer.dialect script 1 outer.aliases outer.texts)
  let commands ← inner
  set { outer with texts := (← get).texts, warnings := outer.warnings ++ (← get).warnings }
  return .sequence commands

mutual

/-- Reads a word on, up to where its surroundings end. -/
def takeWord (fuel : Nat) (around : Surroundings) (before : Word) : Reader Word :=
  match fuel with
  | 0 => exhausted
  | fuel + 1 => do
      joinLines
      let run ← takeWhile around.isPlain
      let before := if run.isEmpty then before else around.segment run :: before
      let finish : Reader Word := return before.reverse
      match (← get).rest with
      | [] =>
          complainOfEnd around
          finish
      | '\\' :: '\n' :: _ => takeWord fuel around before
      | '\\' :: [] => do
          drop
          takeWord fuel around (.literal ['\\'] :: before)
      | '\\' :: c :: _ => do
          drop
          drop
          takeWord fuel around (.literal (around.escaped c) :: before)
      | c :: behind =>
          if c = '$' then do
            drop
            let segment ← takeExpansion fuel around
            takeWord fuel around (segment :: before)
          else if around = .nothing && (c = '<' || c = '>') && behind.head? = some '(' &&
              (← isExtended) then do
            drop
            drop
            let commands ← takeEnclosed fuel
            takeWord fuel around (.stream (c = '<') commands :: before)
          else if c = '\x60' then do
            drop
            let isQuoted := around.isQuoted
            let line := (← get).line
            let script ← opened "\x60" line (upToBackquote isQuoted fuel [])
            let commands ← takeScript inner script
            takeWord fuel around (.output commands isQuoted :: before)
          else if c = '\n' && around != .nothing && around != .operand 0 then do
            drop
            joinLines
            let front ← startLine
            takeWord fuel around (around.segment (c :: front) :: before)
          else match around with
            | .nothing | .braces | .part _ | .subscript _ | .operand _ =>
                if c = '\'' then do
                  drop
                  let text ← upTo '\''
                  takeWord fuel around (.mark :: .literal text :: .mark :: before)
                else if c = '"' then do
                  drop
                  let line := (← get).line
                  let inner ← opened "\"" line (takeWord fuel .quotes [])
                  match inner with
                  | [.value ['@'] _] => takeWord fuel around (.value ['@'] true :: before)
                  | [.parameter (.all name false) treatment _] =>
                      let isCount := match treatment with
                        | .size => true
                        | _ => false
                      let segment := .parameter (.all name false) treatment true
                      takeWord fuel around
                        (if isCount then .mark :: segment :: .mark :: before else segment :: before)
                  | _ => takeWord fuel around (.mark :: inner.reverse ++ .mark :: before)
                else match around with
                  | .braces => do
                      drop
                      if c = '}' then finish else takeWord fuel around (.bare [c] :: before)
                  | .subscript depth => do
                      drop
                      if c = '[' then takeWord fuel (.subscript (depth + 1)) (.bare [c] :: before)
                      else match depth with
                        | depth + 1 => takeWord fuel (.subscript depth) (.bare [c] :: before)
                        | 0 => finish
                  | .operand depth =>
                      if c = '(' then do
                        drop
                        takeWord fuel (.operand (depth + 1)) (.bare [c] :: before)
                      else match depth with
                        | depth + 1 => do
                            drop
                            takeWord fuel (.operand depth) (.bare [c] :: before)
                        | 0 =>
                            if c = '|' && behind.head? != some '|' then do
                              drop
                              takeWord fuel (.operand 0) (.bare [c] :: before)
                            else finish
                  | .nothing => do
                      let marks : Bool := match before with
                        | .bare text :: _ => (text.getLast?).any ("?*+@!".toList.elem ·)
                        | _ => false
                      if c = '(' && marks && (← get).hasGroups then do
                        drop
                        takeWord fuel (.operand 1) (.bare [c] :: before)
                      else finish
                  | _ => finish
            | .quotes => do
                drop
                if c = '"' then finish else takeWord fuel around (.literal [c] :: before)
            | .quotedBraces inQuotes => do
                drop
                if c = '"' then takeWord fuel (.quotedBraces !inQuotes) before
                else if c = '}' && !inQuotes then finish
                else takeWord fuel around (.literal [c] :: before)
            | .expression depth => do
                drop
                if c = '(' then takeWord fuel (.expression (depth + 1)) (.literal [c] :: before)
                else if c = ')' then
                  match depth with
                  | depth + 1 => takeWord fuel (.expression depth) (.literal [c] :: before)
                  | 0 =>
                      if ← takeIf ')' then finish
                      else takeWord fuel around (.literal [c] :: before)
                else takeWord fuel around (.literal [c] :: before)
            | .lines => do
                drop
                takeWord fuel around (.literal [c] :: before)

/-- What a dollar sign starts. One that starts nothing stands for itself. -/
def takeExpansion (fuel : Nat) (around : Surroundings) : Reader Segment :=
  match fuel with
  | 0 => exhausted
  | fuel + 1 => do
      let isQuoted := around.isQuoted
      match ← peek with
      | none => return around.segment ['$']
      | some c =>
          if c = '(' then
            drop
            let source ← get
            let isExpression := source.dialect = .plain || closesTwice (source.rest.drop 1) 0
            if isExpression && (← peek) = some '(' then
              drop
              let expression ← opened ")" source.line (takeWord fuel (.expression 0) [])
              return .arithmetic (joinSegments expression) isQuoted
            else return .output (← takeEnclosed fuel) isQuoted
          else if c = '{' && (← isExtended) then
            let { rest := before, line, .. } ← get
            drop
            let segment? ← opened "\x7d" line (takeParameter fuel around)
            match segment? with
            | some segment => return segment
            | none =>
                let _ ← opened "\x7d" line (takeWord fuel .braces [])
                let length := before.length - (← get).rest.length
                return .invalid ('$' :: before.take length)
          else if c = '\'' && !isQuoted && (← isExtended) then
            drop
            let text ← takeEscaped fuel []
            return if text.isEmpty then .mark else .literal text
          else if c = '"' && !isQuoted && (← isExtended) then return .mark
          else if c = '[' && (← isExtended) then
            drop
            let line := (← get).line
            let expression ← opened "]" line (takeWord fuel (.subscript 0) [])
            return .arithmetic (joinSegments expression) isQuoted
          else if c = '{' then
            drop
            match ← takeName with
            | none =>
                let _ ← takeWord fuel (around.inBraces false) []
                return .invalid []
            | some (name, true) =>
                if ← takeIf '}' then return .size name isQuoted
                else
                  let _ ← takeWord fuel (around.inBraces false) []
                  return .invalid []
            | some (name, false) =>
                match ← takeUsage with
                | .value => return .value name isQuoted
                | usage =>
                    let isPattern := match usage with
                      | .trimmed _ _ => true
                      | _ => false
                    let word ← takeWord fuel (around.inBraces isPattern) []
                    return usage.segment name isQuoted (joinSegments word)
          else if isNameStart c then return .value (← takeWhile isNameChar) isQuoted
          else if c.isDigit || isSpecialParameter c then
            drop
            return .value [c] isQuoted
          else return around.segment ['$']

/-- Commands up to a closing parenthesis. -/
def takeEnclosed (fuel : Nat) : Reader Command :=
  match fuel with
  | 0 => exhausted
  | fuel + 1 => do
      let outer ← get
      set { outer with attachments := [], attachment := none }
      let commands ← inner
      let token ← takeToken fuel false false false
      if !token.isSymbol ")" then
        match token, outer.dialect with
        | .finish, .extended =>
            if outer.rest.head? = some '(' then throw ⟨openEnd ")", outer.line⟩
            fault (openEnd ")")
        | _, _ => unexpected token (some ")")
      modify fun source => { source with
        attachments := outer.attachments, attachment := outer.attachment }
      return .sequence commands

/-- The parameter that a name inside braces stands for, with its subscript. -/
def takeTarget? (fuel : Nat) : Reader (Option Target) :=
  match fuel with
  | 0 => exhausted
  | fuel + 1 => do
      match (← get).rest with
      | c :: behind =>
          if isNameStart c then
            let name ← takeWhile isNameChar
            match (← get).rest with
            | '[' :: '@' :: ']' :: _ | '[' :: '*' :: ']' :: _ =>
                drop
                let mark ← take?
                drop
                return some (.all name (mark = some '*'))
            | '[' :: _ =>
                drop
                let subscript ← takeWord fuel (.subscript 0) []
                return some (.element name (joinSegments subscript))
            | _ => return some (.named name)
          else if c.isDigit then return some (.named (← takeWhile Char.isDigit))
          else if c = '@' || c = '*' then
            drop
            return some (.all [] (c = '*'))
          else if isSpecialParameter c && !(c = '#' && behind.head? = some '}' && false) then
            drop
            return some (.named [c])
          else return none
      | [] => return none

/-- A parameter of the extended language after the opening brace. -/
def takeParameter (fuel : Nat) (around : Surroundings) : Reader (Option Segment) :=
  match fuel with
  | 0 => exhausted
  | fuel + 1 => do
      let isQuoted := around.isQuoted
      let startsTarget (c : Char) : Bool := isNameStart c || c.isDigit || "@*#?!$-".toList.elem c
      match (← get).rest with
      | '#' :: '}' :: _ =>
          drop
          drop
          return some (.value ['#'] isQuoted)
      | '#' :: c :: behind =>
          if startsTarget c && !(c = '-' && behind.head? != some '}') &&
              !(c = '?' && behind.head? != some '}') && !(c = '#' && behind.head? != some '}') then
            drop
            match ← takeTarget? fuel with
            | some (.named name) =>
                if ← takeIf '}' then return some (.size name isQuoted) else return none
            | some target =>
                if ← takeIf '}' then return some (.parameter target .size isQuoted)
                else return none
            | none => return none
          else takeTreated fuel around id
      | '!' :: c :: _ =>
          if isNameStart c || c.isDigit || c = '@' || c = '*' || c = '#' then
            drop
            let name := (← get).rest.takeWhile isNameChar
            let behind := (← get).rest.drop name.length
            match behind with
            | '*' :: '}' :: _ | '@' :: '}' :: _ =>
                modify fun source => { source with rest := behind.drop 2 }
                return some (.parameter (.namesWith name (behind.head? = some '*')) .value isQuoted)
            | _ => takeTreated fuel around Target.indirect
          else takeTreated fuel around id
      | _ => takeTreated fuel around id

/-- A parameter with what is done with it. -/
def takeTreated (fuel : Nat) (around : Surroundings) (wrap : Target → Target) :
    Reader (Option Segment) :=
  match fuel with
  | 0 => exhausted
  | fuel + 1 => do
      let isQuoted := around.isQuoted
      match ← takeTarget? fuel with
      | none => return none
      | some found =>
          let target := wrap found
          let keysOf? : Option Segment := match target with
            | .indirect (.all name isJoined) =>
                some (.parameter (.all name isJoined) .keys isQuoted)
            | _ => none
          let name? : Option Text := match target with
            | .named name => some name
            | .all [] isJoined => some [if isJoined then '*' else '@']
            | _ => none
          let word (isPattern : Bool) : Reader Word := do
            return joinSegments (← takeWord fuel (around.inBraces isPattern) [])
          let part (stops : Text) : Reader Word := do
            return joinSegments (← takeWord fuel (.part stops) [])
          let made (treatment : Treatment) : Reader (Option Segment) :=
            return some (.parameter target treatment isQuoted)
          match ← takeMark with
          | .closing =>
              match keysOf?, name? with
              | some segment, _ => return some segment
              | none, some name => return some (.value name isQuoted)
              | none, none => made .value
          | .whenUnset orEmpty mark =>
              let word ← word false
              match name?, mark with
              | some name, '-' => return some (.fallback name orEmpty word isQuoted)
              | some name, '+' => return some (.alternative name orEmpty word isQuoted)
              | some name, '=' => return some (.initial name orEmpty word isQuoted)
              | some name, _ => return some (.demanded name orEmpty word isQuoted)
              | none, '-' => made (.fallback orEmpty word)
              | none, '+' => made (.alternative orEmpty word)
              | none, '=' => made (.initial orEmpty word)
              | none, _ => made (.demanded orEmpty word)
          | .trimmed atEnd longest =>
              let word ← word true
              match name? with
              | some name => return some (.trimmed name atEnd longest word isQuoted)
              | none => made (.trimmed atEnd longest word)
          | .slice =>
              let start ← part ":"
              if ← takeIf ':' then
                let length ← part []
                drop
                made (.slice start length true)
              else
                drop
                made (.slice start [] false)
          | .replaced anchor =>
              let pattern ← part "/"
              if ← takeIf '/' then
                let replacement ← part []
                drop
                made (.replaced anchor pattern replacement)
              else
                drop
                made (.replaced anchor pattern [])
          | .recased isUpper isWhole =>
              let pattern ← part []
              drop
              made (.recased isUpper isWhole pattern)
          | .transformed letter => made (.transformed letter)
          | .unknown => return none

/-- The front of an assignment to an element of a list, or of one that adds to a value. In a list a
subscript may stand alone. -/
def takePlace? (fuel : Nat) (inList : Bool) : Reader (Option Segment) :=
  match fuel with
  | 0 => exhausted
  | fuel + 1 => do
      let before ← get
      let name := before.rest.takeWhile isNameChar
      let behind := before.rest.drop name.length
      let startsName := name.head?.any isNameStart && !inList
      match behind with
      | '+' :: '=' :: rest =>
          if startsName then
            set { before with rest }
            return some (.place name [] false true)
          else return none
      | '[' :: rest =>
          if !(startsName || (inList && name.isEmpty)) then return none
          else if !rest.contains ']' then return none
          else
            set { before with rest }
            let subscript ← takeWord fuel (.subscript 0) []
            let after ← get
            match after.rest with
            | '=' :: rest =>
                set { after with rest }
                return some (.place name (joinSegments subscript) true false)
            | '+' :: '=' :: rest =>
                set { after with rest }
                return some (.place name (joinSegments subscript) true true)
            | _ =>
                set before
                return none
      | _ => return none

/-- The words of a list up to a closing parenthesis, after those before. -/
def takeElements (fuel : Nat) (before : List Word) : Reader (List Word) :=
  match fuel with
  | 0 => exhausted
  | fuel + 1 => do
      skipBlanks fuel
      match ← peek with
      | none => fault (openEnd ")")
      | some c =>
          if c = '\n' then
            drop
            takeElements fuel before
          else if c = ')' then
            drop
            return before.reverse
          else if c = '(' || c = ';' || c = '&' || c = '|' then
            fault ("syntax error near unexpected token \x60".toList ++ [c] ++ ['\''])
          else
            let place? ← if c = '[' then takePlace? fuel true else pure none
            let word ← takeWord fuel .nothing place?.toList
            takeElements fuel (joinSegments word :: before)

/-- Reads the texts that were asked for. -/
def takeTexts (fuel : Nat) : Reader Unit :=
  match fuel with
  | 0 => exhausted
  | fuel + 1 => do
      let outer ← get
      match outer.attachments with
      | [] => pure ()
      | attachment :: attachments =>
          set { outer with attachment := some attachment, isDelimited := false }
          let text ←
            if attachment.isPlain then do
              let text ← takeLines fuel []
              pure [Segment.literal text]
            else do
              joinLines
              let front ← startLine
              takeWord fuel .lines [.literal front]
          let { behind, line, texts, isDelimited, warnings, .. } ← get
          let warning : Text :=
            "warning: here-document at line ".toList ++ Text.ofNat attachment.line ++
              " delimited by end-of-file (wanted \x60".toList ++ attachment.delimiter ++
              "')".toList
          set { outer with
            rest := behind
            line
            warnings := if isDelimited || outer.dialect = Dialect.plain then warnings
              else warnings ++ [(line - 1, warning)]
            texts := texts.setIfInBounds attachment.place (joinSegments text)
            attachments }
          takeTexts fuel

/-- The next token before reserved words are looked for. -/
def takeRawToken (fuel : Nat) : Reader Token :=
  match fuel with
  | 0 => exhausted
  | fuel + 1 => do
      match (← get).ahead with
      | some token =>
          modify fun source => { source with ahead := none }
          return token
      | none =>
          skipBlanks fuel
          match ← peek with
          | none => return .finish
          | some c =>
              if c = '\n' then
                drop
                return .newline
              else if c = '&' then
                drop
                if ← takeIf '&' then return .symbol "&&"
                else if (← isExtended) && (← get).rest.head? = some '>' then
                  drop
                  if ← takeIf '>' then return .redirection none "&>>"
                  else return .redirection none "&>"
                else return .symbol "&"
              else if c = '|' then
                drop
                if ← takeIf '|' then return .symbol "||"
                else if (← isExtended) && (← get).rest.head? = some '&' then
                  drop
                  return .symbol "|&"
                else return .symbol "|"
              else if c = ';' then
                drop
                if ← takeIf ';' then
                  if (← isExtended) && (← get).rest.head? = some '&' then
                    drop
                    return .symbol ";;&"
                  else return .symbol ";;"
                else if (← isExtended) && (← get).rest.head? = some '&' then
                  drop
                  return .symbol ";&"
                else return .symbol ";"
              else if c = '(' || c = ')' then
                drop
                return .symbol [c]
              else if (c = '<' || c = '>') &&
                  !((← get).rest[1]? = some '(' && (← get).dialect = .extended) then
                return .redirection none (← takeRedirectionSymbol)
              else
                let isRich ← isExtended
                let place? ← if isRich then takePlace? fuel false else pure none
                let word := joinSegments (← takeWord fuel .nothing place?.toList)
                let next := (← get).rest.head?
                if isRich && next = some '(' && awaitsValue word then
                  drop
                  let line := (← get).line
                  let words ← opened ")" line (takeElements fuel [])
                  return .word (word ++ [.list words])
                match word with
                | [.bare digits] =>
                    if digits.all Char.isDigit && (next == some '<' || next == some '>') &&
                        (isRich || digits.length = 1) then
                      return .redirection (some (digitsIn 10 digits)) (← takeRedirectionSymbol)
                    else return .word word
                | _ => return .word word

/-- The next token, with line feeds skipped, reserved words looked for and aliases unfolded as
asked. -/
def takeToken (fuel : Nat) (skipsLines keywords unfolds : Bool) : Reader Token :=
  match fuel with
  | 0 => exhausted
  | fuel + 1 => do
      let before ← get
      match ← takeRawToken fuel with
      | .newline =>
          if skipsLines then
            takeTexts fuel
            takeToken fuel skipsLines keywords unfolds
          else return .newline
      | .word word =>
          match bareText? word with
          | none => return .word word
          | some text =>
              if keywords && (Token.keywordsOf before.dialect).elem text then return .keyword text
              else if unfolds || before.leavesBlankAlias (← get) then
                match ← openAlias text with
                | true => takeToken fuel skipsLines keywords unfolds
                | false => return .word word
              else return .word word
      | token => return token

end

end ShaderCost.Script.Reader
