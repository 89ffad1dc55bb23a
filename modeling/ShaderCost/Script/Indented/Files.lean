import ShaderCost.Script.Indented.Comparing

/-!
Files: how octets and characters stand for one another, what is held back, and how files are
opened, read, written and closed. A file of characters holds back texts for the file of octets
below it, which holds back octets for the system.
-/

namespace ShaderCost.Script.Indented

/-! Faults of the system. -/

/-- The type of the fault that the system numbers. -/
def systemFaultType (number : Int) : Text :=
  match number with
  | 1 | 13 => "PermissionError"
  | 2 => "FileNotFoundError"
  | 3 => "ProcessLookupError"
  | 4 => "InterruptedError"
  | 10 => "ChildProcessError"
  | 11 => "BlockingIOError"
  | 17 => "FileExistsError"
  | 20 => "NotADirectoryError"
  | 21 => "IsADirectoryError"
  | 32 => "BrokenPipeError"
  | 110 => "TimeoutError"
  | _ => "OSError"

def systemWords : List (Nat × Text) := [
  (1, "Operation not permitted"), (2, "No such file or directory"), (3, "No such process"),
  (4, "Interrupted system call"), (5, "Input/output error"), (8, "Exec format error"),
  (9, "Bad file descriptor"), (10, "No child processes"), (11, "Resource temporarily unavailable"),
  (12, "Cannot allocate memory"), (13, "Permission denied"), (17, "File exists"),
  (20, "Not a directory"), (21, "Is a directory"), (22, "Invalid argument"),
  (25, "Inappropriate ioctl for device"), (28, "No space left on device"), (29, "Illegal seek"),
  (32, "Broken pipe"), (36, "File name too long"), (39, "Directory not empty"),
  (40, "Too many levels of symbolic links"), (110, "Connection timed out")]

def systemWordsFor (number : Int) : Text :=
  (systemWords.lookup number.toNat).getD ("Unknown error ".toList ++ Text.ofInt number)

/-- Raises the fault for a number of the system. -/
def failSystem {α : Type} (number : Int) (file : Option Value) : Run α := do
  let place ← makeFault (.type (systemFaultType number))
    [.whole number, .text (systemWordsFor number)]
  match file with
  | some file =>
      onContent place fun content => match content with
        | .fault fault =>
            ((), .fault { fault with attributes := fault.attributes.insert "filename" file })
        | content => ((), content)
  | none => pure ()
  raiseFault place

def failFile {α : Type} (error : FileError) (path : Text) : Run α := do
  match error.system? with
  | some (_, number) => failSystem number (some (.text path))
  | none => failValue "embedded null byte"

/-! Characters and octets. -/

/-- What is wrong with octets: how many there are of that, and why. -/
structure Misfit where
  length : Nat
  reason : Text

def isContinuation (c : Char) : Bool := 128 ≤ c.toNat && c.toNat < 192

/-- The character at the front of octets, with how many octets it has. -/
def takeChar (octet : Char) (rest : Text) : Except Misfit (Char × Nat) :=
  let code := octet.toNat
  let wrong (length : Nat) (more : Nat) : Misfit :=
    ⟨length, if rest.length < more then "unexpected end of data" else "invalid continuation byte"⟩
  let second := (rest.head?.map Char.toNat).getD 0
  let fits (low high : Nat) : Bool := low ≤ second && second ≤ high
  let bits (c : Option Char) : Nat := (c.map fun c => c.toNat % 64).getD 0
  if code < 128 then .ok (octet, 1)
  else if code < 194 || 244 < code then .error ⟨1, "invalid start byte"⟩
  else if code < 224 then
    if fits 128 191 then .ok (Char.ofNat ((code - 192) * 64 + second % 64), 2)
    else .error (wrong 1 1)
  else if code < 240 then
    if !fits (if code = 224 then 160 else 128) (if code = 237 then 159 else 191) then
      .error (wrong 1 1)
    else match rest[1]? with
      | some third =>
          if isContinuation third then
            .ok (Char.ofNat ((code - 224) * 4096 + second % 64 * 64 + third.toNat % 64), 3)
          else .error (wrong 2 2)
      | none => .error (wrong 2 2)
  else if !fits (if code = 240 then 144 else 128) (if code = 244 then 143 else 191) then
    .error (wrong 1 1)
  else if !rest[1]?.any isContinuation then .error (wrong 2 2)
  else if !rest[2]?.any isContinuation then .error (wrong 3 3)
  else
    .ok (Char.ofNat ((code - 240) * 262144 + second % 64 * 4096 + bits rest[1]? * 64 +
      bits rest[2]?), 4)

/-- The characters of octets. What is wrong is dealt with as is said; without that the first of it
is the answer. The text before it comes with its last character first. -/
def charsOf (deal : Option (Text → Text)) : (fuel : Nat) → Text → (position : Nat) →
    (before : Text) → Except (Nat × Misfit) Text
  | 0, _, _, before | _ + 1, [], _, before => .ok before.reverse
  | fuel + 1, octet :: rest, position, before =>
      match takeChar octet rest with
      | .ok (c, length) =>
          charsOf deal fuel (rest.drop (length - 1)) (position + length) (c :: before)
      | .error misfit =>
          match deal with
          | none => .error (position, misfit)
          | some deal =>
              let made := deal ((octet :: rest).take misfit.length)
              charsOf deal fuel (rest.drop (misfit.length - 1)) (position + misfit.length)
                (made.reverse ++ before)

/-- The plain name of an encoding. -/
def encodingOf (name : Text) : Text :=
  let name := (name.map Char.toLower).map fun c => if c = '_' then '-' else c
  match String.ofList name with
  | "utf8" | "u8" | "utf" | "cp65001" => "utf-8"
  | "latin1" | "latin-1" | "iso8859-1" | "iso-8859-1" | "l1" | "8859" | "cp819" => "iso8859-1"
  | "us-ascii" | "646" => "ascii"
  | _ => name

/-- What is done about what is wrong, by the name of that. -/
def dealOf? (errors : Text) : Option (Text → Text) :=
  match String.ofList errors with
  | "ignore" => some fun _ => []
  | "replace" => some fun _ => [Text.replacement]
  | "surrogateescape" => some fun octets => octets.map strayChar
  | "backslashreplace" => some fun octets => octets.flatMap fun c => "\\x".toList ++ hexOf 2 c.toNat
  | _ => none

def unknownEncoding {α : Type} (name : Text) : Run α :=
  fail "LookupError" ("unknown encoding: ".toList ++ name)

/-- The characters that octets stand for. -/
def decodeOctets (encoding errors octets : Text) : Run Text := do
  liftM (n := Run) (spend (octets.length / charactersPerTurn))
  let refuse (name : Text) (position : Nat) (misfit : Misfit) : Run Text :=
    raiseWith "UnicodeDecodeError" [.text name, .octets octets, .ofNat position,
      .ofNat (position + misfit.length), .text misfit.reason]
  let decodeWhole (octets : Text) : Run Text := do
    match charsOf (dealOf? errors) (octets.length + 1) octets 0 [] with
    | .ok text => return text
    | .error (position, misfit) => refuse "utf-8" position misfit
  match String.ofList (encodingOf encoding) with
  | "utf-8" => decodeWhole octets
  | "utf-8-sig" => decodeWhole ((Text.after? "\u00ef\u00bb\u00bf" octets).getD octets)
  | "iso8859-1" => return octets
  | "ascii" =>
      match octets.findIdx? fun c => 127 < c.toNat with
      | none => return octets
      | some position =>
          match dealOf? errors with
          | some deal => return octets.flatMap fun c => if c.toNat < 128 then [c] else deal [c]
          | none => refuse "ascii" position ⟨1, "ordinal not in range(128)"⟩
  | _ => unknownEncoding encoding

/-- The octets that characters stand for; stray octets are themselves. -/
def plainOctets (text : Text) : Text :=
  if text.any fun c => (strayOctet? c).isSome then
    text.flatMap fun c => match strayOctet? c with
      | some octet => [octet]
      | none => spreadText [c]
  else spreadText text

def encodeText (encoding errors text : Text) : Run Text := do
  liftM (n := Run) (spend (text.length / charactersPerTurn))
  let within (name : Text) (least : Nat) : Run Text := do
    match text.findIdx? fun c => least ≤ c.toNat with
    | none => return text
    | some position =>
        let instead (deal : Char → Text) : Text :=
          text.flatMap fun c => if c.toNat < least then [c] else deal c
        match String.ofList errors with
        | "ignore" => return instead fun _ => []
        | "replace" => return instead fun _ => ['?']
        | "backslashreplace" => return instead fun c => plainlyWritten [c]
        | "xmlcharrefreplace" => return instead fun c =>
            "&#".toList ++ Text.ofNat c.toNat ++ [';']
        | _ =>
            let written := plainlyWritten ((text.drop position).take 1)
            fail "UnicodeEncodeError" ('\'' :: name ++ "' codec can't encode character '".toList ++
              written ++ "' in position ".toList ++ Text.ofNat position ++
              ": ordinal not in range(".toList ++ Text.ofNat least ++ [')'])
  match String.ofList (encodingOf encoding) with
  | "utf-8" =>
      match text.findIdx? fun c => (strayOctet? c).isSome, String.ofList errors with
      | none, _ | _, "surrogateescape" => return plainOctets text
      | _, "ignore" => return plainOctets (text.filter fun c => (strayOctet? c).isNone)
      | _, "replace" =>
          return plainOctets (text.map fun c => if (strayOctet? c).isSome then '?' else c)
      | _, "backslashreplace" =>
          return plainOctets (text.flatMap fun c =>
            if (strayOctet? c).isSome then plainlyWritten [c] else [c])
      | some position, _ =>
          let written := plainlyWritten ((text.drop position).take 1)
          fail "UnicodeEncodeError" ("'utf-8' codec can't encode character '".toList ++ written ++
            "' in position ".toList ++ Text.ofNat position ++ ": surrogates not allowed".toList)
  | "utf-8-sig" => return "\u00ef\u00bb\u00bf".toList ++ plainOctets text
  | "iso8859-1" => within "latin-1" 256
  | "ascii" => within "ascii" 128
  | _ => unknownEncoding encoding

/-! Files of octets. -/

def handleAt? (place : Nat) : Run (Option Handle) := do
  match ← contentAt place with
  | .handle handle => return some handle
  | _ => return none

def setWay (place : Nat) (way : Way) : Run Unit :=
  onContent place fun content => match content with
    | .handle handle => ((), .handle { handle with way })
    | content => ((), content)

/-- How much is held back at most. -/
def mostHeld : Nat := 8192

def unsupported {α : Type} (problem : Text) : Run α := fail "io.UnsupportedOperation" problem

/-- Does something with an output whose readers may be gone, which is a fault here. What the output
holds back is lost then. -/
def unlessBroken {α : Type} (place : Nat) (stream : Stream) (action : Step α) : Run α := do
  let outcome : Option α ← liftM (n := Run) (m := Step) fun shell => match action shell with
    | (.ok result, after) => (.ok (some result), after)
    | (.error (.killed 13), after) => (.ok none, after)
    | (.error halt, after) => (.error halt, after)
  match outcome with
  | some result => return result
  | none =>
      setWay place (.stream { stream with held := [], heldLength := 0 })
      failSystem 32 none

/-- Holds octets back, or puts them out where they are too many. -/
def putOctets (place : Nat) (octets : Text) : Run Unit := do
  match ← handleAt? place with
  | none => pure ()
  | some handle =>
      if !handle.mayWrite then unsupported "not writable"
      match handle.way with
      | .closed => failValue "write to closed file"
      | .memory content position =>
          let lead := content.take position ++ List.replicate (position - content.length) '\x00'
          let position := position + octets.length
          setWay place (.memory (lead ++ octets ++ content.drop position) position)
      | .stream stream =>
          let length := octets.length
          if stream.most = 0 then
            let _ ← unlessBroken place stream (write stream.number octets)
          else if stream.heldLength + length ≤ mostHeld && length < mostHeld then
            setWay place (.stream { stream with
              held := octets :: stream.held, heldLength := stream.heldLength + length })
          else
            let (_, stream) ← unlessBroken place stream stream.flush
            if mostHeld < length then
              let _ ← unlessBroken place stream (write stream.number octets)
              setWay place (.stream stream)
            else setWay place (.stream { stream with held := [octets], heldLength := length })

def flushHandle (place : Nat) : Run Unit := do
  match ← handleAt? place with
  | some { way := .stream stream, .. } =>
      let (_, stream) ← unlessBroken place stream stream.flush
      setWay place (.stream stream)
  | _ => pure ()

/-- Takes octets by a way to do that from a stream or from what is left of a text in memory. -/
def takeBy (place : Nat) (fromStream : Stream → Step (Text × Stream)) (fromText : Text → Text) :
    Run Text := do
  match ← handleAt? place with
  | none => return []
  | some handle =>
      if !handle.mayRead then
        unsupported (if handle.isText then "not readable" else "read")
      match handle.way with
      | .closed => failValue "read of closed file"
      | .memory content position =>
          let text := fromText (content.drop position)
          setWay place (.memory content (position + text.length))
          return text
      | .stream stream =>
          let (text, stream) ← liftM (n := Run) (do
            let (_, stream) ← stream.flush
            fromStream stream)
          setWay place (.stream stream)
          return text

def takeAllOctets (place : Nat) : Run Text := takeBy place Stream.takeAll id

def takeOctets (place count : Nat) : Run Text :=
  takeBy place (fun stream => stream.take count) (·.take count)

/-- The line at the front of a text. -/
def lineOf (text : Text) : Text :=
  let line := text.takeWhile (· != '\n')
  text.take (line.length + 1)

def takeOctetLine (place : Nat) : Run Text :=
  takeBy place (fun stream => stream.takeLine ['\n']) lineOf

/-! Files of characters. -/

def sheetAt? (place : Nat) : Run (Option Sheet) := do
  match ← contentAt place with
  | .sheet sheet => return some sheet
  | _ => return none

def setSheet (place : Nat) (sheet : Sheet) : Run Unit := setContent place (.sheet sheet)

/-- Gives what a file of characters holds back to the one below. -/
def lowerHeld (place : Nat) : Run Unit := do
  match ← sheetAt? place with
  | some sheet =>
      if !sheet.held.isEmpty then
        setSheet place { sheet with held := [], heldLength := 0 }
        putOctets sheet.below sheet.held.reverse.flatten
  | none => pure ()

/-- A text with the ends of lines that a file has. -/
def withEndings (ending : Option Text) (text : Text) : Text :=
  match ending with
  | none | some [] | some ['\n'] => text
  | some ending => text.flatMap fun c => if c = '\n' then ending else [c]

def putText (place : Nat) (text : Text) : Run Unit := do
  match ← sheetAt? place with
  | none => putOctets place text
  | some sheet =>
      match ← handleAt? sheet.below with
      | some { way := .closed, .. } => failValue "I/O operation on closed file."
      | some handle => if !handle.mayWrite then unsupported "not writable"
      | none => pure ()
      let octets ← encodeText sheet.encoding sheet.errors (withEndings sheet.ending text)
      let length := octets.length
      if mostHeld < sheet.heldLength + length then lowerHeld place
      let total ← match ← sheetAt? place with
        | some sheet => do
            let total := sheet.heldLength + length
            setSheet place { sheet with held := octets :: sheet.held, heldLength := total }
            pure total
        | none => pure 0
      let endsLine := sheet.endsLines && text.any fun c => c = '\n' || c = '\r'
      if mostHeld ≤ total || endsLine then lowerHeld place
      if endsLine then flushHandle sheet.below

def flushFile (place : Nat) : Run Unit := do
  match ← sheetAt? place with
  | some sheet =>
      lowerHeld place
      flushHandle sheet.below
  | none => flushHandle place

/-- Puts out all that is held back anywhere. -/
def flushAll : Run Unit := do
  let cells := (← get).cells
  for place in List.range cells.size do
    match cells.getD place default with
    | .sheet sheet => if !sheet.held.isEmpty then lowerHeld place
    | _ => pure ()
  for place in List.range cells.size do
    match cells.getD place default with
    | .handle { way := .stream _, mayWrite := true, .. } => flushHandle place
    | _ => pure ()

/-- Makes line feeds of all ends of lines. -/
def plainEndings : Text → Text
  | [] => []
  | '\r' :: '\n' :: rest => '\n' :: plainEndings rest
  | '\r' :: rest => '\n' :: plainEndings rest
  | c :: rest => c :: plainEndings rest

/-- The characters of a file that are left. -/
def aheadOf (place : Nat) : Run Text := do
  match ← sheetAt? place with
  | none => return []
  | some sheet =>
      match sheet.ahead with
      | some text => return text
      | none =>
          lowerHeld place
          match ← handleAt? sheet.below with
          | some { way := .closed, .. } => failValue "I/O operation on closed file."
          | some handle => if !handle.mayRead then unsupported "not readable"
          | none => pure ()
          let octets ← takeAllOctets sheet.below
          let text ← decodeOctets sheet.encoding sheet.errors octets
          let text := if sheet.ending.isNone then plainEndings text else text
          match ← sheetAt? place with
          | some sheet => setSheet place { sheet with ahead := some text }
          | none => pure ()
          return text

/-- Takes a part of the characters that are left. -/
def takeText (place : Nat) (front : Text → Text) : Run Text := do
  match ← sheetAt? place with
  | none =>
      takeBy place (fun stream => do
        let stream ← stream.fill
        let text := front stream.ahead
        return (text, { stream with ahead := stream.ahead.drop text.length })) front
  | some _ =>
      let ahead ← aheadOf place
      let text := front ahead
      liftM (n := Run) (spend (text.length / charactersPerTurn))
      match ← sheetAt? place with
      | some sheet =>
          let rest := ahead.drop text.length
          setSheet place { sheet with ahead := if rest.isEmpty then none else some rest }
      | none => pure ()
      return text

/-- Whether a file gives texts, and not octets. -/
def givesText (place : Nat) : Run Bool := do
  match ← contentAt place with
  | .sheet _ => return true
  | .handle handle => return handle.isText
  | _ => return false

/-- A part of a file as a value. -/
def filed (place : Nat) (text : Text) : Run Value := do
  return if ← givesText place then .text text else .octets text

/-! Opening and closing. -/

/-- The place of the file of octets of a file. -/
def handlePlace (place : Nat) : Run Nat := do
  match ← sheetAt? place with
  | some sheet => return sheet.below
  | none => return place

def isClosed (place : Nat) : Run Bool := do
  match ← handleAt? (← handlePlace place) with
  | some { way := .closed, .. } => return true
  | _ => return false

def closeFile (place : Nat) : Run Unit := do
  if !(← isClosed place) then
    flushFile place
    let below ← handlePlace place
    match ← handleAt? below with
    | some { way := .stream stream, .. } =>
        let _ ← liftM (n := Run) stream.close
        setWay below .closed
    | _ => setWay below .closed

/-- What a mode asks for. -/
structure Mode where
  letter : Char
  isBoth : Bool
  isOctets : Bool

def Mode.ofText? (text : Text) : Except Text Mode :=
  let known : Text := "rwax+bt".toList
  let letters := text.filter fun c => "rwax".toList.elem c
  if !text.all known.elem || text.eraseDups.length != text.length then
    .error ("invalid mode: ".toList ++ writtenText text)
  else match letters with
    | [letter] =>
        if text.elem 'b' && text.elem 't' then .error "can't have text and binary mode at once"
        else .ok ⟨letter, text.elem '+', text.elem 'b'⟩
    | _ => .error "must have exactly one of create/read/write/append mode"

/-- Makes a file of characters above one of octets. -/
def makeSheet (below : Nat) (encoding errors : Text) (ending : Option Text) (endsLines : Bool) :
    Run Nat :=
  allocate (.sheet {
    below, held := [], heldLength := 0, endsLines, encoding, errors, ending, ahead := none })

/-- Opens the stream of a file. -/
def openStream (mode : Mode) (path : Text) : Run Stream := do
  let tree := (← getThe Shell).tree
  match mode.letter, tree.find path with
  | 'x', .ok _ => failSystem 17 (some (.text path))
  | _, .ok (.directory _) => failSystem 21 (some (.text path))
  | _, _ => pure ()
  let number ← liftM (n := Run) (Stream.freeNumber 3)
  let opening : Opening := match mode.letter, mode.isBoth with
    | 'r', false => .reading
    | 'r', true => .both
    | 'a', _ => .appending
    | _, _ => .replacing
  if mode.letter = 'r' && !(tree.find path).isOk then
    match tree.find path with
    | .error error => failFile error path
    | .ok _ => pure ()
  let result : Except FileError Stream ←
    liftM (n := Run) (Stream.open? number opening (spreadText path))
  match result with
  | .error error => failFile error path
  | .ok stream =>
      if mode.isBoth && opening = .replacing then
        let _ ← liftM (n := Run) (Stream.open? number .both (spreadText path))
      return stream

/-- How a file is to be used. -/
structure Usage where
  mode : Text
  encoding : Text
  errors : Text
  ending : Option Text
  buffering : Int

/-- Makes a file of a stream. -/
def makeFile (name : Value) (usage : Usage) (mode : Mode) (stream : Stream) : Run Nat := do
  let stream := if usage.buffering = 0 then { stream with most := 0 } else stream
  let below ← allocate (.handle {
    name, mode := usage.mode, isText := false, way := .stream stream
    mayRead := mode.letter = 'r' || mode.isBoth, mayWrite := mode.letter != 'r' || mode.isBoth })
  if mode.isOctets then return below
  else makeSheet below usage.encoding usage.errors usage.ending (usage.buffering = 1)

def openFile (file : Value) (usage : Usage) : Run Nat := do
  match Mode.ofText? usage.mode with
  | .error problem => failValue problem
  | .ok mode =>
      if usage.buffering = 0 && !mode.isOctets then failValue "can't have unbuffered text I/O"
      match file with
      | .text path => makeFile file usage mode (← openStream mode path)
      | .octets path => makeFile file usage mode (← openStream mode (shownText path))
      | file =>
          match file.whole? with
          | some number =>
              if number < 0 || ((← getThe Shell).channel? number.toNat).isNone then
                failSystem 9 none
              makeFile file usage mode (.ofNumber number.toNat Stream.usualMost)
          | none =>
              failType ("expected str, bytes or os.PathLike object, not ".toList ++
                (← typeName file))

/-- Where in a file the next octet is. -/
def positionIn (place : Nat) : Run Nat := do
  let below ← handlePlace place
  lowerHeld place
  let left ← match ← sheetAt? place with
    | some { ahead := some text, .. } => pure (spreadText text).length
    | _ => pure 0
  match ← handleAt? below with
  | some { way := .stream stream, .. } =>
      let (position, _) ← liftM (n := Run) stream.position
      return position - left
  | some { way := .memory _ position, .. } => return position
  | _ => failValue "I/O operation on closed file."

/-- Goes to a place in a file. -/
def seekIn (place : Nat) (offset : Int) (origin : Int) : Run Nat := do
  let here ← positionIn place
  let below ← handlePlace place
  match ← sheetAt? place with
  | some sheet => setSheet place { sheet with ahead := none }
  | none => pure ()
  match ← handleAt? below with
  | some { way := .stream stream, .. } =>
      let (_, stream) ← liftM (n := Run) stream.flush
      let (_, size) ← liftM (n := Run) stream.position
      let start : Int := if origin = 1 then here else if origin = 2 then size else 0
      let stream ← liftM (n := Run) (stream.goTo (start + offset).toNat)
      setWay below (.stream stream)
      return (start + offset).toNat
  | some { way := .memory content _, .. } =>
      let start : Int := if origin = 1 then here else if origin = 2 then content.length else 0
      setWay below (.memory content (start + offset).toNat)
      return (start + offset).toNat
  | _ => failValue "I/O operation on closed file."

end ShaderCost.Script.Indented
