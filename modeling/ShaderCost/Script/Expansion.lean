import ShaderCost.Script.Extended.Forms
import ShaderCost.Script.Extended.Reckoning
import ShaderCost.Script.Pattern

/-!
Words become texts: parameters are replaced by their values, commands by what they print,
expressions by numbers, and patterns by the paths that they accept.
-/

namespace ShaderCost.Script.Expansion

/-- What words are expanded for. -/
structure Context where
  /-- What commands print. -/
  capture : Command → Step Text
  /-- Whether values fall into fields. -/
  splits : Bool
  /-- Whether the word stands inside braces outside quotes, where what is written falls into
  fields as well. -/
  isInner : Bool

/-- Characters of a value. -/
def valuePieces (splits isQuoted : Bool) (text : Text) : List Piece :=
  if isQuoted then [.chars (Pattern.quoted text)]
  else if splits then [.value text]
  else [.chars (Pattern.bare text)]

/-- All parameters, each as a field of its own. -/
def parameterPieces (isQuoted : Bool) (parameters : List Text) : List Piece :=
  (parameters.map fun parameter =>
    if isQuoted then [Piece.mark, .chars (Pattern.quoted parameter)] else [.value parameter])
    |>.intersperse [.gap] |>.flatten

/-- The value of a parameter as pieces. -/
def parameterValue (shell : Shell) (splits isQuoted : Bool) (name value : Text) : List Piece :=
  if splits && (name = "@" || (name = "*" && !isQuoted)) then
    parameterPieces isQuoted shell.parameters
  else valuePieces splits isQuoted value

def isEmptyOr (orEmpty : Bool) (value : Option Text) : Bool :=
  match value with
  | some value => orEmpty && value.isEmpty
  | none => true

/-- Complains of a parameter without a value where the script asks for that. -/
def checkSet (name : Text) (value : Option Text) : Step Unit := do
  let shell ← get
  if value.isNone && shell.hasOption 'u' && name != "@" && name != "*" then
    failDemand (name ++ if shell.isExtended then ": unbound variable" else ": parameter not set")

/-- The home of a user, or of the one who runs the script. -/
def home? (shell : Shell) (user : Text) : Option Text :=
  if user.isEmpty then (shell.binding? "HOME").bind Binding.value
  else if user = "root" then some "/root"
  else none

/-- A text that begins with a tilde, with the home in the tilde's place. The name of the user ends
at a slash or, in assignments, at a colon; what is written behind the text is no part of it. -/
def tilde? (shell : Shell) (isAssignment isLast : Bool) (text : Text) :
    Option (List Segment × Text) := do
  match text with
  | '~' :: behind =>
      let user := behind.takeWhile fun c => c != '/' && !(isAssignment && c = ':')
      if user.length = behind.length && !isLast then none
      else
        let home ← home? shell user
        return ([.literal home], behind.drop user.length)
  | _ => none

/-- Puts homes in the place of tildes after an equals sign or, once one came, after colons. -/
def assignmentTildes (shell : Shell) (isLast : Bool) : (fuel : Nat) → (sawEquals : Bool) →
    Text → (before : Text) → List Segment × Bool
  | 0, sawEquals, text, before => ([.bare (before.reverse ++ text)], sawEquals)
  | _ + 1, sawEquals, [], before => ([.bare before.reverse], sawEquals)
  | fuel + 1, sawEquals, c :: rest, before =>
      if (c = '=' && !sawEquals) || (c = ':' && sawEquals) then
        match tilde? shell true isLast rest with
        | some (home, behind) =>
            let (segments, saw) := assignmentTildes shell isLast fuel true behind []
            (.bare (c :: before).reverse :: home ++ segments, saw)
        | none => assignmentTildes shell isLast fuel true rest (c :: before)
      else assignmentTildes shell isLast fuel sawEquals rest (c :: before)

/-- A word of an assignment with homes in the place of tildes. -/
def withAssignmentTildes (shell : Shell) (sawEquals : Bool) : Word → Word
  | [] => []
  | .bare text :: rest =>
      let (segments, sawEquals) :=
        assignmentTildes shell rest.isEmpty (text.length + 1) sawEquals text []
      segments ++ withAssignmentTildes shell sawEquals rest
  | segment :: rest => segment :: withAssignmentTildes shell sawEquals rest

/-- A word with the home in the place of a tilde at its front. -/
def withTilde (shell : Shell) : Word → Word
  | .bare text :: rest =>
      match tilde? shell false rest.isEmpty text with
      | some (home, behind) => home ++ if behind.isEmpty then rest else .bare behind :: rest
      | none => .bare text :: rest
  | word => word

/-- The value of an expression, whose assignments are carried out. -/
def evaluate (expression : Text) : Step Text := do
  if (← get).isExtended then return Text.ofInt (← Reckoning.evaluate expression).toInt
  match Arithmetic.evaluate (← get).value expression with
  | .error problem => fail (problem.message expression)
  | .ok (value, changed) =>
      for (name, value) in changed do assign name (Text.ofInt value)
      return Text.ofInt value

/-! Parameters of the extended language. -/

/-- A parameter of the extended language, as it was found. -/
inductive Found where
  /-- One value, with the place that another one can be given to. -/
  | single (title : Text) (value : Option Text) (place : Option (Text × Option Text))
  /-- All elements of a list or, without a name, all parameters; each with its subscript. -/
  | many (name : Text) (entries : List (Text × Text)) (isJoined : Bool)

def Found.title : Found → Text
  | single title _ _ => title
  | many name _ isJoined =>
      let mark : Text := if isJoined then ['*'] else ['@']
      if name.isEmpty then mark else name ++ '[' :: mark ++ [']']

/-- Whether there is nothing to a parameter. -/
def Found.isMissing (orEmpty : Bool) : Found → Bool
  | single _ value _ => isEmptyOr orEmpty value
  | many _ entries _ => entries.isEmpty || (orEmpty && entries.all fun entry => entry.2.isEmpty)

def findNamed (name : Text) : Step Found := do
  return .single name ((← get).value? name) (if isName name then some (name, none) else none)

def findElement (name subscript : Text) : Step Found := do
  let value ← Reckoning.element? Reckoning.evaluate name subscript
  return .single (name ++ '[' :: subscript ++ [']']) value (some (name, some subscript))

def findAll (name : Text) (isJoined : Bool) : Step Found := do
  let shell ← get
  let entries : List (Text × Text) :=
    if name.isEmpty then
      shell.parameters.zipIdx.map fun (parameter, place) => (Text.ofNat (place + 1), parameter)
    else match shell.list? name, shell.value? name with
      | some list, _ => list.entries
      | none, some value => [(['0'], value)]
      | none, none => []
  return .many name entries isJoined

/-- The parameter that a text names. -/
def findTitled (title : Text) : Step Found := do
  let name := title.takeWhile fun c => c != '['
  match title.drop name.length with
  | [] =>
      if isName title || title.all Char.isDigit || title.length = 1 then findNamed title
      else fail (title ++ ": invalid variable name")
  | '[' :: '@' :: ']' :: [] => findAll name false
  | '[' :: '*' :: ']' :: [] => findAll name true
  | _ :: subscript =>
      if isName name then findElement name subscript.dropLast
      else fail (title ++ ": invalid variable name")

/-- Several texts as pieces. -/
def listPieces (shell : Shell) (splits isQuoted isJoined : Bool) (texts : List Text) :
    List Piece :=
  if splits && !(isQuoted && isJoined) then parameterPieces isQuoted texts
  else if texts.isEmpty then if isQuoted then [.mark] else []
  else valuePieces splits isQuoted
    (List.intercalate (if isJoined then shell.joint else [' ']) texts)

def Found.pieces (shell : Shell) (splits isQuoted : Bool) (change : Text → Text) :
    Found → List Piece
  | single _ value _ => valuePieces splits isQuoted (change (value.getD []))
  | many _ entries isJoined =>
      listPieces shell splits isQuoted isJoined (entries.map fun entry => change entry.2)

/-- The letters of the marks that a variable has. -/
def traitLetters (binding : Binding) : Text :=
  let list : Text := match binding.list with
    | some (.keyed _) => ['A']
    | some (.numbered _) => ['a']
    | none => []
  list ++ (if binding.traits.elem 'i' then ['i'] else []) ++
    (if binding.traits.elem 'n' then ['n'] else []) ++
    (if binding.isReadonly then ['r'] else []) ++ (if binding.isExported then ['x'] else []) ++
    (if binding.traits.elem 'l' then ['l'] else []) ++
    (if binding.traits.elem 'u' then ['u'] else [])

/-- A list as it would be written in a script. -/
def shownList (list : Listing) : Text :=
  let shown := list.entries.map fun (key, text) =>
    let key := if list.isKeyed && (key.isEmpty || key.any Forms.isMeta) then
      Forms.doubleQuoted key else key
    '[' :: key ++ "]=".toList ++ Forms.doubleQuoted text
  '(' :: List.intercalate [' '] shown ++ if list.isKeyed && list.size != 0 then " )" else ")"

/-- The assignment that makes a variable what it is. -/
def definition (name : Text) (binding : Binding) : Text :=
  let letters := traitLetters binding
  let value : Text := match binding.list, binding.value with
    | some list, _ => '=' :: shownList list
    | none, some value => '=' :: Forms.reusable value
    | none, none => []
  if letters.isEmpty then name ++ value
  else "declare -".toList ++ letters ++ ' ' :: name ++ value

/-- Another form of a value, which a letter names. -/
def transformed (shell : Shell) (letter : Char) (name text : Text) : Text :=
  match letter with
  | 'Q' => Forms.reusable text
  | 'U' => text.map Char.toUpper
  | 'L' => text.map Char.toLower
  | 'u' => Forms.recased true false (.ofPattern []) text
  | 'E' => (Forms.unescaped false text).1
  | 'A' => match shell.binding? (shell.resolve name) with
      | some binding => definition name { binding with value := some text }
      | none => []
  | 'a' => ((shell.binding? (shell.resolve name)).map traitLetters).getD []
  | _ => text

/-- A pattern with the settings that say what it accepts. -/
def matcherOf (shell : Shell) (pattern : Pattern) : Matcher :=
  if shell.isExtended then
    ⟨pattern.withCarets, shell.settings.elem "extglob".toList, false⟩
  else .ofPattern pattern

mutual

def ofSegment (context : Context) (segment : Segment) : Step (List Piece) := do
  let splits := context.splits
  match segment with
  | .bare text =>
      return [if context.isInner && splits then .value text else .chars (Pattern.bare text)]
  | .literal text => return [.chars (Pattern.quoted text)]
  | .mark => return [.mark]
  | .invalid text => failIn "Bad substitution" (text ++ ": bad substitution".toList)
  | .value name isQuoted =>
      let shell ← get
      let value := shell.value? name
      checkSet name value
      return parameterValue shell splits isQuoted name (value.getD [])
  | .size name isQuoted =>
      let value := (← get).value? name
      checkSet name value
      return valuePieces splits isQuoted (Text.ofNat (value.getD []).length)
  | .fallback name orEmpty otherwise isQuoted =>
      let shell ← get
      let value := shell.value? name
      if isEmptyOr orEmpty value then inner context isQuoted otherwise
      else return parameterValue shell splits isQuoted name (value.getD [])
  | .alternative name orEmpty replacement isQuoted =>
      if isEmptyOr orEmpty ((← get).value? name) then return valuePieces splits isQuoted []
      else inner context isQuoted replacement
  | .initial name orEmpty first isQuoted =>
      let shell ← get
      let value := shell.value? name
      if isEmptyOr orEmpty value then
        let pieces ← inner { context with splits := false } isQuoted first
        let value := (Piece.joined pieces).text
        if !isName name then
          failIn (name ++ ": bad variable name")
            ('$' :: name ++ ": cannot assign in this way".toList)
        Reckoning.setValue Reckoning.evaluate name value false
        return valuePieces splits isQuoted value
      else return parameterValue shell splits isQuoted name (value.getD [])
  | .demanded name orEmpty message isQuoted =>
      let shell ← get
      let value := shell.value? name
      if isEmptyOr orEmpty value then complainOfLack context name orEmpty message
      else return parameterValue shell splits isQuoted name (value.getD [])
  | .trimmed name atEnd longest pattern isQuoted =>
      let shell ← get
      let value := shell.value? name
      checkSet name value
      if value.isNone && name != "@" && name != "*" then return valuePieces splits isQuoted []
      let pieces ← inner { context with splits := false } false pattern
      let matcher := matcherOf shell (Piece.joined pieces)
      if shell.isExtended && (name = "@" || name = "*") then
        return listPieces shell splits isQuoted (name = "*")
          (shell.parameters.map (matcher.trim atEnd longest))
      else if splits && (name = "@" || (name = "*" && !isQuoted)) then
        let joined := List.intercalate ['\x00'] shell.parameters
        return parameterPieces isQuoted ((matcher.trim atEnd longest joined).splitOn '\x00')
      else return valuePieces splits isQuoted (matcher.trim atEnd longest (value.getD []))
  | .arithmetic expression isQuoted =>
      let pieces ← ofWord { context with splits := false, isInner := false } expression
      return valuePieces splits isQuoted (← evaluate (Piece.joined pieces).text)
  | .output commands isQuoted => return valuePieces splits isQuoted (← context.capture commands)
  | .parameter target treatment isQuoted =>
      treat context isQuoted (← find context target) treatment
  | .list _ => return []
  | .place name subscript hasSubscript appends =>
      let inside ← if hasSubscript then ofWord context subscript else pure []
      let bare (text : Text) : Piece := .chars (Pattern.bare text)
      let ending : Text := if appends then "+=" else "="
      return if hasSubscript then
        bare (name ++ ['[']) :: inside ++ [bare (']' :: ending)]
        else [bare (name ++ ending)]
  | .stream isInput commands =>
      return [.chars (Pattern.quoted (← context.capture (.streamed isInput commands)))]
termination_by (sizeOf segment, 0)

/-- Complains of a parameter without a value, with the message that a script gives. -/
def complainOfLack (context : Context) (name : Text) (orEmpty : Bool) (message : List Segment) :
    Step (List Piece) := do
  let pieces ← inner { context with splits := false } true message
  let text := (Piece.joined pieces).text
  let isExtended := (← get).isExtended
  let standard : Text :=
    if !orEmpty then "parameter not set"
    else if isExtended then "parameter null or not set"
    else "parameter not set or null"
  failDemand (name ++ ": " ++ if message.isEmpty then standard else text)
termination_by (sizeOf message, 2)

/-- The text of a word without any splitting. -/
def plainText (context : Context) (word : List Segment) : Step Text := do
  return (Piece.joined (← ofWord { context with splits := false, isInner := false } word)).text
termination_by (sizeOf word, 1)

/-- Finds a parameter of the extended language. -/
def find (context : Context) (target : Target) : Step Found := do
  match target with
  | .named name => findNamed name
  | .element name subscript => findElement name (← plainText context subscript)
  | .all name isJoined => findAll name isJoined
  | .namesWith front isJoined =>
      let names := ((← get).bindings.map Prod.fst).filter fun name => front.isPrefixOf name
      return .many [] ((names.mergeSort Text.atMost).map fun name => (name, name)) isJoined
  | .indirect target =>
      match ← find context target with
      | .single title (some value) _ =>
          if value.isEmpty then fail (title ++ ": invalid indirect expansion")
          else findTitled value
      | found => fail (found.title ++ ": invalid indirect expansion")
termination_by (sizeOf target, 0)

/-- What is done with a parameter of the extended language. -/
def treat (context : Context) (isQuoted : Bool) (found : Found) (treatment : Treatment) :
    Step (List Piece) := do
  let shell ← get
  let splits := context.splits
  let check : Step Unit := match found with
    | .single title value _ => checkSet title value
    | .many _ _ _ => pure ()
  let changed (change : Text → Text) : List Piece := found.pieces shell splits isQuoted change
  match treatment with
  | .value =>
      check
      return changed id
  | .size =>
      check
      let size := match found with
        | .single _ value _ => (value.getD []).length
        | .many _ entries _ => entries.length
      return valuePieces splits isQuoted (Text.ofNat size)
  | .keys =>
      match found with
      | .many _ entries isJoined =>
          return listPieces shell splits isQuoted isJoined (entries.map Prod.fst)
      | .single _ _ _ => return []
  | .fallback orEmpty otherwise =>
      if found.isMissing orEmpty then inner context isQuoted otherwise else return changed id
  | .alternative orEmpty replacement =>
      if found.isMissing orEmpty then return valuePieces splits isQuoted []
      else inner context isQuoted replacement
  | .initial orEmpty first =>
      if found.isMissing orEmpty then
        let pieces ← inner { context with splits := false } isQuoted first
        let value := (Piece.joined pieces).text
        match found with
        | .single _ _ (some (name, none)) =>
            Reckoning.setValue Reckoning.evaluate name value false
        | .single _ _ (some (name, some subscript)) =>
            Reckoning.setElement Reckoning.evaluate name subscript value false
        | found => fail (found.title ++ ": cannot assign in this way")
        return valuePieces splits isQuoted value
      else return changed id
  | .demanded orEmpty message =>
      if found.isMissing orEmpty then complainOfLack context found.title orEmpty message
      else return changed id
  | .trimmed atEnd longest pattern =>
      check
      let pieces ← inner { context with splits := false } false pattern
      return changed ((matcherOf shell (Piece.joined pieces)).trim atEnd longest)
  | .slice start length hasLength =>
      check
      let startText ← plainText context start
      let start := (← Reckoning.evaluate startText).toInt
      let lengthText ← plainText context length
      let length? ← if hasLength then do
          let length ← Reckoning.evaluate lengthText
          pure (some length.toInt)
        else pure none
      let refuse : Step (List Piece) := fail (lengthText ++ ": substring expression < 0")
      match found with
      | .single _ value _ =>
          match Forms.slice? (value.getD []) start length? with
          | some part => return valuePieces splits isQuoted part
          | none => refuse
      | .many name entries isJoined =>
          if length?.any fun length => decide (length < 0) then refuse
          else
            let texts : List Text :=
              if name.isEmpty then
                (Forms.slice? (shell.name :: entries.map Prod.snd) start length?).getD []
              else match shell.list? name with
                | some (.numbered elements) =>
                    let next : Int := (Listing.numbered elements).next
                    let start := if start < 0 then start + next else start
                    let behind := elements.filter fun entry =>
                      decide (0 ≤ start) && decide (start ≤ (entry.1 : Int))
                    let taken := match length? with
                      | some length => behind.take length.toNat
                      | none => behind
                    taken.map Prod.snd
                | _ => (Forms.slice? (entries.map Prod.snd) start length?).getD []
            return listPieces shell splits isQuoted isJoined texts
  | .replaced anchor pattern replacement =>
      check
      let pieces ← inner { context with splits := false } false pattern
      let matcher := matcherOf shell (Piece.joined pieces)
      let pieces ← inner { context with splits := false } isQuoted replacement
      let replacement := Piece.joined pieces
      return changed (Forms.replaced anchor matcher replacement)
  | .recased isUpper isWhole pattern =>
      check
      let pieces ← inner { context with splits := false } false pattern
      return changed (Forms.recased isUpper isWhole (matcherOf shell (Piece.joined pieces)))
  | .transformed letter =>
      match found, letter with
      | .single title value _, 'a' | .single title value _, 'A' =>
          let name := title.takeWhile isNameChar
          if letter = 'A' && value.isNone then return []
          return valuePieces splits isQuoted (transformed shell letter name (value.getD []))
      | .many name entries _, 'A' =>
          match shell.binding? (shell.resolve name) with
          | some binding => return valuePieces splits isQuoted (definition name binding)
          | none =>
              let words : List Text := if entries.isEmpty then [] else ["set", "--"]
              return listPieces shell splits isQuoted false
                (words ++ entries.map fun entry => Forms.reusable entry.2)
      | .many _ entries isJoined, 'K' | .many _ entries isJoined, 'k' =>
          if letter = 'k' then
            return listPieces shell splits isQuoted isJoined
              (entries.flatMap fun (key, text) => [key, text])
          else return valuePieces splits isQuoted (List.intercalate [' ']
            (entries.flatMap fun (key, text) => [key, Forms.doubleQuoted text]))
      | .single _ none _, _ => return valuePieces splits isQuoted []
      | found, _ =>
          let name := found.title.takeWhile isNameChar
          return found.pieces shell splits isQuoted (transformed shell letter name)
termination_by (sizeOf treatment, 3)

/-- A word inside braces. -/
def inner (context : Context) (isQuoted : Bool) (word : List Segment) : Step (List Piece) := do
  let context := { context with isInner := true }
  match word with
  | .bare text :: rest =>
      let shell ← get
      let home := if isQuoted then none else tilde? shell false rest.isEmpty text
      match home with
      | some (home, behind) =>
          let front := home.map fun segment => match segment with
            | .literal text => Piece.chars (Pattern.quoted text)
            | _ => .mark
          let behind := if context.splits then .value behind else .chars (Pattern.bare behind)
          return front ++ [behind] ++ (← ofWord context rest)
      | none =>
          let front ← ofSegment context (.bare text)
          return front ++ (← ofWord context rest)
  | word => ofWord context word
termination_by (sizeOf word, 1)

def ofWord (context : Context) (word : List Segment) : Step (List Piece) := do
  match word with
  | [] => return []
  | segment :: rest =>
      let pieces ← ofSegment context segment
      if rest.isEmpty then return pieces
      return pieces ++ (← ofWord context rest)
termination_by (sizeOf word, 0)

end

/-! Paths that patterns accept. -/

/-- Where names of a directory go on. -/
def entriesOf (tree : FileTree) (directory : Text) : List Text :=
  match tree.find (if directory.isEmpty then "." else shownText directory) with
  | .ok (.directory entries) =>
      ".".toList :: "..".toList :: entries.map fun entry => spreadText entry.1
  | _ => []

/-- Whether the names that a pattern accepts may begin with a dot. -/
def showsDots : Pattern → Bool
  | first :: _ => first.char = '.'
  | [] => false

/-- The paths that begin with a text and go on as components of a pattern say. Each component
comes with the slashes after it. -/
def pathsFrom (shell : Shell) (tree : FileTree) :
    List (Pattern × Text) → (before : Text) → List Text
  | [], before => if tree.exists? (shownText before) then [before] else []
  | (component, slashes) :: rest, before =>
      let matcher := matcherOf shell component
      if matcher.isActive then
        let mayHide := shell.settings.elem "dotglob".toList || showsDots component
        let names := (entriesOf tree before).filter fun (name : Text) =>
          (name.head? != some '.' || (mayHide && name != "." && name != "..") ||
            (showsDots component && !shell.isExtended)) && matcher.accepts name
        names.flatMap fun name => pathsFrom shell tree rest (before ++ name ++ slashes)
      else pathsFrom shell tree rest (before ++ component.text ++ slashes)

/-- The components of a pattern, each with the slashes after it. -/
def components : (fuel : Nat) → Pattern → List (Pattern × Text)
  | 0, _ | _ + 1, [] => []
  | fuel + 1, pattern =>
      let component := pattern.takeWhile fun c => c.char != '/'
      let behind := pattern.drop component.length
      let slashes := behind.takeWhile fun c => c.char = '/'
      (component, slashes.map PatternChar.char) ::
        components fuel (behind.drop slashes.length)

/-- The paths that a pattern accepts in order or, where there are none, its text. -/
def paths (shell : Shell) (pattern : Pattern) : List Text :=
  if !(matcherOf shell pattern).isActive || shell.hasOption 'f' then [pattern.text]
  else
    match pathsFrom shell shell.tree (components (pattern.length + 1) pattern) [] with
    | [] => if shell.settings.elem "nullglob".toList then [] else [pattern.text]
    | found => found.mergeSort Text.atMost

/-- A word as one pattern. -/
def pattern (capture : Command → Step Text) (word : Word) : Step Pattern := do
  return Piece.joined (← ofWord ⟨capture, false, false⟩ (withTilde (← get) word))

/-- A word as one text. -/
def text (capture : Command → Step Text) (word : Word) : Step Text := do
  return (← pattern capture word).text

/-- A text of the lines of a script. -/
def lines (capture : Command → Step Text) (word : Word) : Step Text := do
  return (Piece.joined (← ofWord ⟨capture, false, false⟩ word)).text

/-- A word of an assignment as one text. -/
def assignment (capture : Command → Step Text) (word : Word) : Step Text := do
  let word := withAssignmentTildes (← get) false word
  return (Piece.joined (← ofWord ⟨capture, false, false⟩ word)).text

/-- A word as what it accepts. -/
def matcher (capture : Command → Step Text) (word : Word) : Step Matcher := do
  let pattern ← pattern capture word
  return matcherOf (← get) pattern

/-- A word without braces as fields. -/
def fieldsOf (capture : Command → Step Text) (word : Word) : Step (List Text) := do
  match word with
  | [.bare text] =>
      let shell ← get
      let isActive := (matcherOf shell (Pattern.bare text)).isActive
      if text.head? != some '~' && !isActive then return [text]
      else
        let pieces ← ofWord ⟨capture, true, false⟩ (withTilde shell word)
        return (Fields.make shell.separators pieces).flatMap (paths shell)
  | _ =>
      let pieces ← ofWord ⟨capture, true, false⟩ (withTilde (← get) word)
      let shell ← get
      return (Fields.make shell.separators pieces).flatMap (paths shell)

/-- A word as fields. -/
def fields (capture : Command → Step Text) (word : Word) : Step (List Text) := do
  if (← get).isExtended then
    match Braces.words word with
    | [word] => fieldsOf capture word
    | words =>
        spend words.length
        words.flatMapM (fieldsOf capture)
  else fieldsOf capture word

/-! Assignments of the extended language. -/

/-- An element of a list that is given, with the subscript that it is given for. -/
structure Element where
  subscript : Option Text
  appends : Bool
  text : Text

/-- What is given to a variable. -/
inductive Given where
  | value (name : Text) (subscript : Option Text) (appends : Bool) (text : Text)
  | list (name : Text) (appends : Bool) (elements : List Element)

/-- The value of an assignment whose front was taken off. -/
def assignedText (capture : Command → Step Text) (word : Word) : Step Text := do
  let text ← assignment capture (joinSegments (.bare "=" :: word))
  return text.drop 1

def elementsOf (capture : Command → Step Text) : List Word → Step (List Element)
  | [] => return []
  | word :: words => do
      let elements ← match word with
        | .place _ subscript true appends :: value => do
            let subscript ← text capture subscript
            let value ← assignedText capture value
            pure [⟨some subscript, appends, value⟩]
        | word => do
            let fields ← fields capture word
            pure (fields.map fun field => ⟨none, false, field⟩)
      return elements ++ (← elementsOf capture words)

/-- What a word of an assignment gives. -/
def given? (capture : Command → Step Text) (word : Word) : Step (Option Given) := do
  let ofRest (name : Text) (subscript : Option Text) (appends : Bool) (rest : Word) :
      Step (Option Given) := do
    match rest, subscript with
    | [.list words], none => return some (.list name appends (← elementsOf capture words))
    | rest, subscript => return some (.value name subscript appends (← assignedText capture rest))
  match word with
  | .place name subscript hasSubscript appends :: rest =>
      let subscript? ← if hasSubscript then some <$> text capture subscript else pure none
      ofRest name subscript? appends rest
  | .bare front :: rest =>
      match assignment? front with
      | some (name, value) =>
          ofRest name none false (if value.isEmpty then rest else .bare value :: rest)
      | none => return none
  | _ => return none

end ShaderCost.Script.Expansion
