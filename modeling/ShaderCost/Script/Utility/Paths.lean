import ShaderCost.Script.Format
import ShaderCost.Script.Utility.Clock
import ShaderCost.Script.Utility.Entries
import ShaderCost.Script.Utility.Lines
import ShaderCost.Script.Utility.Values

/-!
What utilities tell of a file or a directory beside its content: its kind, its size, its mode and
how many names it has.
-/

namespace ShaderCost.Script.Utility

structure Particulars where
  /-- The letter that stands for the kind. -/
  kind : Char
  size : Nat
  /-- The bits that tell what may be done. -/
  mode : Nat
  names : Nat
  deriving DecidableEq

namespace Particulars

/-- The size of a directory. -/
def directorySize : Nat := 4096

def fileMode (executable : Bool) : Nat := if executable then 493 else 420

def ofNode : Node → Particulars
  | .file content executable => ⟨'f', content.size, fileMode executable, 1⟩
  | .directory entries =>
      let inner := entries.filter fun entry => match entry.2 with
        | .directory _ => true
        | _ => false
      ⟨'d', directorySize, 493, 2 + inner.length⟩
  | .link path => ⟨'l', (Text.toOctets path).size, 511, 1⟩
  | .null => ⟨'c', 0, 438, 1⟩
  | .stream number => ⟨if number = 0 then 'c' else 'p', 0, 384, 1⟩
  | .program _ => ⟨'f', 35208, 493, 1⟩

/-- The kind as a text. -/
def kindName (particulars : Particulars) : Text :=
  match particulars.kind with
  | 'd' => "directory"
  | 'l' => "symbolic link"
  | 'c' => "character special file"
  | 'p' => "fifo"
  | _ => if particulars.size = 0 then "regular empty file" else "regular file"

/-- The bits of a mode in octal digits. -/
def octalMode (particulars : Particulars) : Text := Nat.toDigits 8 particulars.mode

/-- The kind and the bits of a mode as letters. -/
def modeLetters (particulars : Particulars) : Text :=
  let kind := if particulars.kind = 'f' then '-' else particulars.kind
  kind :: (List.range 9).map fun place =>
    if particulars.mode / twoTo (8 - place) % 2 = 1 then "rwx".toList[place % 3]?.getD '-' else '-'

/-- How many blocks of 512 octets a file takes up. -/
def blocks (particulars : Particulars) : Nat :=
  if particulars.kind = 'f' || particulars.kind = 'd' then (particulars.size + 4095) / 4096 * 8
  else 0

/-- The bits that a mode has that is written in octal digits or in letters, added to what there
is. -/
def bits? (mode : Text) : Option Nat :=
  if !mode.isEmpty && mode.all isOctalDigit then some (digitsIn 8 mode)
  else (mode.splitOn ',').foldlM (fun bits clause =>
    let who := clause.takeWhile fun c => "ugoa".toList.elem c
    match clause.drop who.length with
    | sign :: letters =>
        if !letters.all fun c => "rwxX".toList.elem c then none
        else
          let one := (if 'r' ∈ letters then 4 else 0) + (if 'w' ∈ letters then 2 else 0) +
            (if 'x' ∈ letters || 'X' ∈ letters then 1 else 0)
          let isAll := who.isEmpty || 'a' ∈ who
          let part (letter : Char) (factor : Nat) : Nat :=
            if isAll || letter ∈ who then one * factor else 0
          let named := part 'u' 64 + part 'g' 8 + part 'o' 1
          if sign = '+' || sign = '=' then some (bits ||| named)
          else if sign = '-' then some bits
          else none
    | [] => none) 0

end Particulars

end ShaderCost.Script.Utility

/-!
Utilities that tell where paths lead and what is there.
-/

namespace ShaderCost.Script.Utility

/-! What is at a path. -/

namespace Status

/-- The user that everything belongs to. -/
def owner : Text := "oracle"

def ownerNumber : Nat := 1000

/-- The bits of a mode that tell the kind. -/
def kindBits (kind : Char) : Nat :=
  match kind with
  | 'd' => 16384
  | 'l' => 40960
  | 'c' => 8192
  | 'p' => 4096
  | _ => 32768

/-- What a letter of a format stands for. -/
def shownFor? (shell : Shell) (path : Text) (node : Node) (letter : Char) : Option Text :=
  let facts := Particulars.ofNode node
  let face := Clock.faceOf shell (Clock.now shell)
  let seconds := Text.ofNat (Clock.now shell).seconds.toNat
  let link : Text := match node with
    | .link target => " -> ".toList ++ nameInQuotes (spreadText target)
    | _ => []
  match letter with
  | 'n' => some path
  | 'N' => some (nameInQuotes path ++ link)
  | 's' => some (Text.ofNat facts.size)
  | 'F' => some facts.kindName
  | 'a' => some facts.octalMode
  | 'A' => some facts.modeLetters
  | 'U' | 'G' => some owner
  | 'u' | 'g' => some (Text.ofNat ownerNumber)
  | 'h' => some (Text.ofNat facts.names)
  | 'b' => some (Text.ofNat facts.blocks)
  | 'B' => some "512"
  | 'o' => some "4096"
  | 'f' => some (Nat.toDigits 16 (kindBits facts.kind + facts.mode))
  | 'i' => some "131072"
  | 'd' => some "64"
  | 'D' => some "40"
  | 't' | 'T' => some ['0']
  | 'm' => some ['/']
  | 'W' | 'X' | 'Y' | 'Z' => some seconds
  | 'w' | 'x' | 'y' | 'z' => some (face.text "%Y-%m-%d %H:%M:%S.%N %z")
  | _ => none

/-- A format filled in. Escapes are resolved where `resolves` is set. -/
def filled (resolves : Bool) (shownFor? : Char → Option Text) : (fuel : Nat) → Text → Text
  | fuel + 1, '\\' :: rest =>
      if resolves then
        let (shown, rest) := Format.takeEscape rest
        shown :: filled resolves shownFor? fuel rest
      else '\\' :: filled resolves shownFor? fuel rest
  | fuel + 1, '%' :: rest =>
      let flags := rest.takeWhile fun c => c ∈ "-0+ #'".toList
      let behind := rest.drop flags.length
      let width := behind.takeWhile Char.isDigit
      let behind := behind.drop width.length
      let precision := if behind.head? = some '.' then
        '.' :: (behind.drop 1).takeWhile Char.isDigit else []
      let behind := behind.drop precision.length
      match behind with
      | [] => '%' :: rest
      | '%' :: behind => '%' :: filled resolves shownFor? fuel behind
      | letter :: behind =>
          let text := (shownFor? letter).getD ['?']
          let gap := digitsIn 10 width - text.length
          let text :=
            if '-' ∈ flags then text ++ List.replicate gap ' '
            else List.replicate gap (if '0' ∈ flags then '0' else ' ') ++ text
          text ++ filled resolves shownFor? fuel behind
  | fuel + 1, c :: rest => c :: filled resolves shownFor? fuel rest
  | _, _ => []

/-- The format that is used where none is given. -/
def fullFormat : Text :=
  "  File: %N\n  Size: %-10s\tBlocks: %-10b IO Block: %-6o %F\n".toList ++
  "Device: 0,%-5d\tInode: %-10i  Links: %h\n".toList ++
  "Access: (0%a/%A)  Uid: (%5u/%8U)   Gid: (%5g/%8G)\n".toList ++
  "Access: %x\nModify: %y\nChange: %z\n Birth: %w\n".toList

end Status

/-- Tells what is at paths. -/
def stat : Utility := withOperands
    ⟨"Lft", "cp", [("dereference", 'L'), ("format", 'c'), ("printf", 'p'), ("terse", 't'),
      ("file-system", 'f')], 1⟩ fun name call => do
  forOperands call fun path => do
    let shell ← get
    let node := if call.has 'L' then shell.tree.find (shownText path)
      else shell.tree.findEntry (shownText path)
    match node with
    | .error error => complainOf name "cannot statx" path error
    | .ok node =>
        let shownFor? := Status.shownFor? shell path node
        let fill (resolves : Bool) (format : Text) : Text :=
          Status.filled resolves shownFor? (format.length + 1) format
        match call.value? 'p', call.value? 'c' with
        | some format, _ => print (fill true format)
        | none, some format => print (fill false format ++ ['\n'])
        | none, none =>
            if call.has 't' then
              print (fill false "%n %s %b %f %u %g %D %i %h %t %T %X %Y %Z %W %o" ++ ['\n'])
            else print (fill false Status.fullFormat)
        return true

/-! Where paths lead. -/

namespace Resolution

/-- What has to exist along a path. -/
inductive Need where
  | all
  | allButLast
  | nothing
  deriving DecidableEq

/-- The location that names lead to by themselves, whatever links there are. -/
def plainly (start : Location) (names : List Text) : Location :=
  names.foldl (fun (location : Location) (name : Text) =>
    if name = "." then location
    else if name = ".." then location.dropLast
    else location ++ ([name] : Location)) start

/-- The location that names lead to where some of them may be missing. -/
def loosely (tree : FileTree) (start : Location) (names : List Text) : Location :=
  names.foldl (fun (location : Location) (name : Text) =>
    if name = "." then location
    else if name = ".." then location.dropLast
    else
      let next : Location := location ++ [name]
      match (tree.fromRoot.follow (next.flatMap fun name => '/' :: name)) with
      | .ok trail => trail.location
      | .error _ => next) start

/-- The location that a path leads to. -/
def resolve (tree : FileTree) (need : Need) (followsLinks : Bool) (path : Text) :
    Except FileError Location := do
  if path.isEmpty then throw .missing
  let start := if Path.isAbsolute path then [] else tree.workingDirectory
  if !followsLinks then
    if need = .all then
      let _ ← tree.find path
    return plainly start (Path.names path)
  match need with
  | .nothing => return loosely tree start (Path.names path)
  | .all =>
      let _ ← tree.find path
      tree.locate path
  | .allButLast =>
      let trail ← tree.follow (((path.reverse.dropWhile (· == '/')).reverse) ++
        (if path.all (· == '/') then ['/'] else []))
      match trail.node? tree.root with
      | some (.directory _) | none => return trail.location
      | some _ => if Text.endsWith "/" path then throw .notDirectory else return trail.location

def textOf (location : Location) : Text :=
  if location.isEmpty then ['/'] else spreadText (location.flatMap fun name => '/' :: name)

/-- The path from one location to another one. -/
def relative : (origin location : Location) → Location
  | a :: origin, b :: location =>
      if a = b then relative origin location
      else List.replicate (origin.length + 1) ['.', '.'] ++ b :: location
  | origin, location => List.replicate origin.length ['.', '.'] ++ location

def relativeText (origin location : Location) : Text :=
  let names := relative origin location
  if names.isEmpty then ['.'] else spreadText (List.intercalate ['/'] names)

end Resolution

/-- Shows the paths that others lead to. -/
def realpath : Utility := withOperands
    ⟨"emLPqsz", "tb", [("canonicalize-existing", 'e'), ("canonicalize-missing", 'm'),
      ("logical", 'L'), ("physical", 'P'), ("quiet", 'q'), ("strip", 's'), ("no-symlinks", 's'),
      ("zero", 'z'), ("relative-to", 't'), ("relative-base", 'b')], 1⟩ fun name call => do
  let tree := (← get).tree
  let need : Resolution.Need :=
    if call.has 'e' then .all else if call.has 'm' then .nothing else .allButLast
  let resolve (path : Text) : Except FileError Location :=
    Resolution.resolve tree need (!call.has 's') (shownText path)
  let fails (path : Text) (error : FileError) : Step Bool := do
    let shown : Text := if path.isEmpty then "''" else path
    if !call.has 'q' then complain name (shown ++ ": ".toList ++ wording error)
    return false
  let place (letter : Char) : Except (Text × FileError) (Option Location) :=
    match call.value? letter with
    | none => .ok none
    | some path => ((resolve path).map some).mapError fun error => (path, error)
  match place 't', place 'b' with
  | .error (path, error), _ | _, .error (path, error) =>
      let _ ← fails path error
      return 1
  | .ok origin, .ok base => forOperands call fun path => do
      match resolve path with
      | .error error => fails path error
      | .ok location =>
          let isInside := base.all fun base => base.isPrefixOf location
          let shown := match origin, base with
            | none, none => Resolution.textOf location
            | some origin, _ =>
                if isInside then Resolution.relativeText origin location
                else Resolution.textOf location
            | none, some base =>
                if isInside then Resolution.relativeText base location
                else Resolution.textOf location
          print (shown ++ [if call.has 'z' then '\x00' else '\n'])
          return true

/-- Shows where links lead. -/
def readlink : Utility := withOperands
    ⟨"femnqsvz", [], [("canonicalize", 'f'), ("canonicalize-existing", 'e'),
      ("canonicalize-missing", 'm'), ("no-newline", 'n'), ("quiet", 'q'), ("silent", 's'),
      ("verbose", 'v'), ("zero", 'z')], 1⟩ fun name call => do
  let tree := (← get).tree
  let ending : Text :=
    if call.has 'n' && call.operands.length = 1 then []
    else [if call.has 'z' then '\x00' else '\n']
  let fails (path problem : Text) : Step Bool := do
    if call.has 'v' then complain name (path ++ ": ".toList ++ problem)
    return false
  forOperands call fun path => do
    if call.has 'f' || call.has 'e' || call.has 'm' then
      let need : Resolution.Need :=
        if call.has 'e' then .all else if call.has 'm' then .nothing else .allButLast
      match Resolution.resolve tree need true (shownText path) with
      | .ok location =>
          print (Resolution.textOf location ++ ending)
          return true
      | .error error => fails path (wording error)
    else match tree.findEntry (shownText path) with
      | .ok (.link target) =>
          print (spreadText target ++ ending)
          return true
      | .ok _ => fails path "Invalid argument"
      | .error error => fails path (wording error)

/-! Names and sizes. -/

def unlink : Utility := withCall ⟨[], [], [], 1⟩ fun name call => do
  match call.operands with
  | [] => refuse name "missing operand" 1
  | [path] =>
      match (← get).tree.findEntry (shownText path) with
      | .ok (.directory _) =>
          complain name ("cannot unlink ".toList ++ nameInQuotes path ++ ": Is a directory".toList)
          return 1
      | .ok _ =>
          removeAt path
          return 0
      | .error error => return if ← complainOf name "cannot unlink" path error then 0 else 1
  | _ :: extra :: _ => refuse name ("extra operand " ++ nameInQuotes extra) 1

/-- The factors that letters behind a size stand for. -/
def sizeFactors : List (Text × Nat) :=
  let others : List (Text × Nat) := [
    ("c", 1), ("w", 2), ("G", 1073741824), ("GB", 1000000000), ("KiB", 1024), ("MiB", 1048576),
    ("GiB", 1073741824)]
  factors ++ others

/-- A size with a letter for its unit. -/
def plainSize? (text : Text) : Option Nat :=
  let digits := text.takeWhile Char.isDigit
  if digits.isEmpty then none
  else (sizeFactors.lookup (text.drop digits.length)).map (digitsIn 10 digits * ·)

/-- Sets the sizes of files. -/
def truncate : Utility := withCall
    ⟨"co", "sr", [("no-create", 'c'), ("size", 's'), ("reference", 'r'), ("io-blocks", 'o')], 1⟩
    fun name call => do
  let tree := (← get).tree
  let given := (call.value? 's').map fun text => text.dropWhile isBlankOctet
  let (mark, number) : Option Char × Option Text := match given with
    | some (c :: rest) =>
        if c ∈ "+-<>/%".toList then (some c, some rest) else (none, some (c :: rest))
    | some [] => (none, some [])
    | none => (none, none)
  let reference? := (call.value? 'r').bind fun path => tree.content? (shownText path)
  match number, number.bind plainSize?, reference? with
  | none, _, none => refuse name "you must specify either '--size' or '--reference'" 1
  | some _, none, none =>
      complain name ("Invalid number: ".toList ++ nameInQuotes (given.getD []))
      return 1
  | _, size?, reference =>
      if call.operands.isEmpty then return ← refuse name "missing file operand" 1
      forOperands call fun path => do
        let tree := (← get).tree
        match tree.find (shownText path) with
        | .error .missing =>
            if call.has 'c' then return true
            match ← change fun tree => tree.writeOctets (shownText path)
                ⟨Array.replicate (size?.getD 0) 0⟩ with
            | none => return true
            | some error =>
                complain name ("cannot open ".toList ++ nameInQuotes path ++
                  " for writing: ".toList ++ wording error)
                return false
        | .error error =>
            complain name ("cannot open ".toList ++ nameInQuotes path ++ " for writing: ".toList ++
              wording error)
            return false
        | .ok node =>
            let old := (tree.content? (shownText path)).getD ⟨#[]⟩
            let base := (reference.map ByteArray.size).getD old.size
            let size := size?.getD base
            let size := match mark with
              | some '+' => base + size
              | some '-' => base - size
              | some '<' => min base size
              | some '>' => max base size
              | some '/' => if size = 0 then base else base / size * size
              | some '%' => if size = 0 then base else (base + size - 1) / size * size
              | _ => if size?.isNone then base else size
            let padded := old ++ ⟨Array.replicate (size - old.size) 0⟩
            match node with
            | .directory _ =>
                complain name ("cannot open ".toList ++ nameInQuotes path ++
                  " for writing: Is a directory".toList)
                return false
            | _ =>
                let _ ← change fun tree =>
                  tree.writeOctets (shownText path) (padded.extract 0 size)
                return true

/-! Pieces of files. -/

namespace Pieces

/-- The ending of the name of a piece. -/
def ending (digits : Text) : (length : Nat) → (number : Nat) → Text
  | 0, _ => []
  | length + 1, number =>
      ending digits length (number / digits.length) ++
        [digits[number % digits.length]?.getD 'a']

/-- The parts of a text that are no longer than a size. -/
def ofSize (size : Nat) : (fuel : Nat) → Text → List Text
  | 0, _ => []
  | fuel + 1, text =>
      if text.isEmpty then [] else text.take size :: ofSize size fuel (text.drop size)

/-- Lines in groups. -/
def ofLines (size : Nat) : (fuel : Nat) → List Text → List Text
  | 0, _ => []
  | fuel + 1, lines =>
      if lines.isEmpty then [] else (lines.take size).flatten :: ofLines size fuel (lines.drop size)

/-- A number of parts of about the same size. -/
def ofCount (count : Nat) (text : Text) : List Text :=
  (List.range count).map fun place =>
    let size := text.length / count
    let extra := text.length % count
    let start := place * size + min place extra
    let length := size + (if place < extra then 1 else 0)
    (text.drop start).take length

end Pieces

/-- Splits a file into pieces. -/
def split : Utility := withCall
    ⟨"dexzu", "lbCnat", [("lines", 'l'), ("bytes", 'b'), ("line-bytes", 'C'), ("number", 'n'),
      ("suffix-length", 'a'), ("numeric-suffixes", 'd'), ("hex-suffixes", 'x'),
      ("additional-suffix", 't'), ("elide-empty-files", 'e')], 1⟩ fun name call => do
  match call.operands with
  | _ :: _ :: extra :: _ => refuse name ("extra operand " ++ nameInQuotes extra) 1
  | operands =>
      let path := operands.headD "-".toList
      let start := (operands.drop 1).headD ['x']
      let bad (what value : Text) : Step Nat := do
        complain name ("invalid number of ".toList ++ what ++ ": ".toList ++ nameInQuotes value)
        return 1
      let number (letter : Char) : Option (Option Nat) := (call.value? letter).map fun text =>
        (plainSize? text).bind fun size => if size = 0 then none else some size
      match number 'l', number 'b', number 'n' with
      | some none, _, _ => bad "lines" ((call.value? 'l').getD [])
      | _, some none, _ => bad "bytes" ((call.value? 'b').getD [])
      | _, _, some none => bad "chunks" ((call.value? 'n').getD [])
      | lines, bytes, chunks =>
          let text ← match ← content path with
            | .ok text => pure text
            | .error error =>
                complain name ("cannot open ".toList ++ nameInQuotes path ++
                  " for reading: ".toList ++ wording error)
                return 1
          let pieces := match bytes, chunks with
            | some (some size), _ => Pieces.ofSize size text.length text
            | _, some (some count) => Pieces.ofCount count text
            | _, _ =>
                Pieces.ofLines ((lines.getD none).getD 1000) text.length (endedLines text)
          let digits : Text :=
            if call.has 'd' then "0123456789" else if call.has 'x' then "0123456789abcdef"
            else "abcdefghijklmnopqrstuvwxyz"
          let length := ((call.value? 'a').bind Text.nat?).getD 2
          for (piece, place) in pieces.zipIdx do
            let ending := Pieces.ending digits length place ++ (call.value? 't').getD []
            let _ ← change fun tree =>
              tree.writeOctets (shownText (start ++ ending)) (gather piece)
          return 0

/-! Copying in blocks. -/

/-- Takes no more octets off the front of the input than are wanted. -/
def takeOctets (count : Nat) : Step Text := do
  let shell ← get
  match shell.channel? standardInput with
  | some (.file number) =>
      match shell.machine.files.lookup number with
      | some file =>
          if !file.mayRead then return []
          let text := (spread (shell.machine.contentAt file.location)).drop file.position
          let taken := text.take count
          spend (taken.length / charactersPerTurn)
          let file := { file with position := file.position + taken.length }
          modify fun shell => { shell with machine := shell.machine.setFile number file }
          return taken
      | none => return []
  | some (.pipe number) =>
      let text ← readInput false
      modify fun shell => match shell.machine.pipes.lookup number with
        | some pipe =>
            let rest := text.drop count
            let content := if rest.isEmpty then [] else [(shell.now, rest)]
            let pipe := { pipe with content, isExhausted := pipe.isExhausted && rest.isEmpty }
            { shell with machine := shell.machine.setPipe number pipe }
        | none => shell
      return text.take count
  | _ => return []

namespace Blocks

/-- The operands, each a name with a value. -/
abbrev Settings := List (Text × Text)

def known : List Text := ["if", "of", "bs", "ibs", "obs", "cbs", "count", "skip", "seek", "conv",
  "status", "iflag", "oflag", "iseek", "oseek"].map String.toList

/-- A size whose factors are divided by crosses. -/
def size? (text : Text) : Option Nat :=
  ((text.splitOn 'x').mapM plainSize?).map fun sizes => sizes.foldl Nat.mul 1

/-- Exchanges the octets of each pair. -/
def swapped : Text → Text
  | a :: b :: rest => b :: a :: swapped rest
  | rest => rest

def converted (words : List Text) (text : Text) : Text :=
  let text := if words.elem "ucase".toList then text.map Char.toUpper else text
  let text := if words.elem "lcase".toList then text.map Char.toLower else text
  if words.elem "swab".toList then swapped text else text

def records (size length : Nat) : Text :=
  Text.ofNat (length / size) ++ '+' :: (if length % size = 0 then ['0'] else ['1'])

end Blocks

/-- Copies octets in blocks. -/
def dd : Utility := fun name arguments => do
  let settings : Blocks.Settings := arguments.filterMap (Text.splitAt? '=')
  let given (key : Text) : Option Text := List.lookup key settings.reverse
  let bad? := arguments.find? fun argument =>
    !(Text.splitAt? '=' argument).any fun entry => Blocks.known.elem entry.1
  match bad? with
  | some argument => refuse name ("unrecognized operand ".toList ++ nameInQuotes argument) 1
  | none =>
      let sizes := ["bs", "ibs", "obs", "count", "skip", "seek"].map String.toList
      let badSize? := settings.find? fun (key, value) =>
        sizes.elem key && (Blocks.size? (value.filter (· != 'B'))).isNone
      match badSize? with
      | some (_, value) =>
          complain name ("invalid number: ".toList ++ nameInQuotes value)
          return 1
      | none =>
          let number (key : Text) (standard : Nat) : Nat :=
            ((given key).bind fun text => Blocks.size? (text.filter (· != 'B'))).getD standard
          let flags (key : Text) : List Text := ((given key).getD []).splitOn ','
          let countsOctets (key flag : Text) : Bool :=
            (flags (if key = "seek" then "oflag" else "iflag")).elem flag ||
              (given key).any fun text => text.getLast? = some 'B'
          let inSize := number "bs" (number "ibs" 512)
          let outSize := number "bs" (number "obs" 512)
          if inSize = 0 || outSize = 0 then
            complain name "invalid number: '0'"
            return 1
          let conversions := flags "conv"
          let amount (key flag : Text) (unit standard : Nat) : Nat :=
            number key standard * (if countsOctets key flag then 1 else unit)
          let skipped := amount "skip" "skip_bytes" inSize 0
          let sought := amount "seek" "seek_bytes" outSize 0
          let limit := (given "count").map fun _ => amount "count" "count_bytes" inSize 0
          let text ← match given "if" with
            | some path =>
                if path = "/dev/zero" then
                  match limit with
                  | some limit =>
                      spend (limit / charactersPerTurn)
                      pure (List.replicate limit '\x00')
                  | none => throw .late
                else match ← content path with
                  | .ok text =>
                      let rest := text.drop skipped
                      pure (match limit with
                        | some limit => rest.take limit
                        | none => rest)
                  | .error error =>
                      let verb : Text := if error = .isDirectory then "error reading "
                        else "failed to open "
                      complain name (verb ++ nameInQuotes path ++ ": ".toList ++ wording error)
                      return 1
            | none =>
                let _ ← takeOctets skipped
                match limit with
                | some limit => takeOctets limit
                | none => readInput false
          let made := Blocks.converted conversions text
          let made := if conversions.elem "sync".toList then
            made ++ List.replicate ((inSize - made.length % inSize) % inSize) '\x00' else made
          let failure ← match given "of" with
            | none =>
                print made
                pure none
            | some path =>
                change fun tree => do
                  let old := (tree.content? (shownText path)).getD ⟨#[]⟩
                  let start := if (flags "oflag").elem "append".toList then old.size else sought
                  let before := old.extract 0 start ++ ⟨Array.replicate (start - old.size) 0⟩
                  let keepsRest := conversions.elem "notrunc".toList ||
                    (flags "oflag").elem "append".toList
                  let behind :=
                    if keepsRest then old.extract (start + made.length) old.size else ⟨#[]⟩
                  tree.writeOctets (shownText path) (before ++ gather made ++ behind)
          match failure with
          | some error =>
              complain name ("failed to open ".toList ++ nameInQuotes ((given "of").getD []) ++
                ": ".toList ++ wording error)
              return 1
          | none =>
              let status : Text := (given "status").getD []
              if status != "none" then
                report (Blocks.records inSize text.length ++ " records in".toList)
                report (Blocks.records outSize made.length ++ " records out".toList)
                if status != "noxfer" then
                  let count := made.length
                  let noun : Text := if count = 1 then " byte" else " bytes"
                  report (Text.ofNat count ++ noun ++ " copied, 0.001 s, ".toList ++
                    Text.ofNat count ++ ".0 kB/s".toList)
              return 0

end ShaderCost.Script.Utility
