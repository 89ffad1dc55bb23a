import ShaderCost.Script.Sigil.Source

/-!
Reading terms and statements. Texts between quotes hold terms as well, so all of it is read
together.
-/

namespace ShaderCost.Script.Sigil.Reader

/-- Features that take one value, or none. -/
def single : List Text := [
  "defined", "ref", "scalar", "lc", "uc", "lcfirst", "ucfirst", "fc", "length", "chr", "ord", "int",
  "abs", "sqrt", "sin", "cos", "exp", "log", "hex", "oct", "rand", "srand", "quotemeta", "chomp",
  "chop", "chdir", "rmdir", "readlink", "exists", "delete", "each", "keys"]

def furtherSingle : List Text := [
  "values", "shift", "pop", "caller", "undef", "study", "pos", "lock", "exit", "umask", "sleep",
  "localtime", "gmtime", "alarm", "require", "close", "fileno", "readline", "closedir", "readdir",
  "rewinddir", "stat", "lstat", "getc", "eof", "tell", "chroot", "reset"]

def isSingle (word : Text) : Bool := single.elem word || furtherSingle.elem word

/-- Features that take no value. -/
def bare : List Text := [
  "time", "times", "wait", "wantarray", "fork", "getppid", "break", "__FILE__", "__LINE__",
  "__PACKAGE__", "__SUB__", "getlogin"]

/-- Features that take a list of values. -/
def listing : List Text := [
  "push", "unshift", "splice", "join", "split", "sprintf", "die", "warn", "return", "reverse",
  "open", "unlink", "kill", "system", "exec", "pack", "unpack", "substr", "index", "rindex",
  "atan2", "bless", "opendir", "mkdir", "rename", "binmode", "seek"]

def furtherListing : List Text := [
  "read", "sysread", "syswrite", "select", "chmod", "chown", "utime", "waitpid", "flock",
  "truncate", "link", "symlink", "crypt", "vec", "local", "pipe", "sysopen", "last", "next", "redo",
  "goto", "dump", "printflush", "wait", "setpgrp", "formline", "syscall", "glob", "not"]

def isListing (word : Text) : Bool := listing.elem word || furtherListing.elem word

/-- Features whose first value is a handle. -/
def onHandles : List Text := [
  "open", "close", "eof", "binmode", "opendir", "readdir", "closedir", "fileno", "seek", "tell",
  "read", "sysread", "syswrite", "flock", "truncate", "select", "readline", "getc", "rewinddir",
  "pipe", "sysopen"]

/-- Functions on lists that take a block. -/
def passes : List (Text × Pass) := [
  ("map", .map), ("grep", .filter), ("sort", .sort), ("first", .first), ("any", .anyHolds),
  ("all", .allHold), ("none", .noneHolds), ("reduce", .reduce)]

def isOperatorWord (word : Text) : Bool :=
  let ending : List Text := ["x", "if", "unless", "while", "until", "for", "foreach"]
  ending.elem word || words.any fun entry => entry.1 = word

/-- Whether a text begins with what can begin a value, rather than go on behind one. -/
def startsValue (text : Text) : Bool :=
  match text with
  | [] => false
  | c :: rest =>
      if isNameStart c then !isOperatorWord (frontWord text)
      else if c = '-' then rest.head? != some '=' && rest.head? != some '-'
      else if c = '<' then rest.head?.any fun c => c = '$' || c.isUpper || c = '<'
      else if c = '%' || c = '&' then rest.head?.any fun c => isNameStart c || c = '$' || c = '\x7b'
      else c.isDigit || "$@\"'(\\!~\x60[+".toList.elem c

/-- Constant texts put together. -/
def fuse : List Term → Term
  | [] => .constant (.text [])
  | [.constant (.text text)] => .constant (.text text)
  | parts => .joined parts

/-- What a name stands for behind its mark. -/
inductive Base where
  | named (name : Text)
  | behind (reference : Term)

namespace Base

def term (shape : Shape) : Base → Reader Term
  | .named name =>
      match shape with
      | .scalar => scalarNamed name
      | shape => do return .name shape (← resolve shape name)
  | .behind reference => return .behind shape reference

end Base

/-- Where a term is read. -/
inductive Setting where
  | code
  | text
  | pattern
  deriving DecidableEq

/-- Whether a bracket behind a name begins a subscript. -/
def beginsSubscript (setting : Setting) (text : Text) : Bool :=
  match setting, text with
  | .code, '[' :: _ | .code, '\x7b' :: _ | .text, '\x7b' :: _ => true
  | .text, '[' :: c :: rest =>
      c = '$' || c.isDigit || (c = '-' && rest.head?.any fun c => c.isDigit || c = '$')
  | .pattern, '[' :: rest =>
      let inside := rest.takeWhile (· != ']')
      let body := if inside.head? = some '-' || inside.head? = some '$' then inside.drop 1
        else inside
      !body.isEmpty && (body.all Char.isDigit || (inside.head? = some '$' && isName body))
  | .pattern, '\x7b' :: rest =>
      let inside := rest.takeWhile (· != '\x7d')
      !(inside.all fun c => c.isDigit || c = ',')
  | _, _ => false

/-- Whether an arrow begins a subscript. -/
def arrowSubscript (setting : Setting) (text : Text) : Bool :=
  match text with
  | '-' :: '>' :: rest =>
      match rest with
      | '[' :: _ | '\x7b' :: _ => beginsSubscript (if setting = .code then .code else .text) rest
      | _ => false
  | _ => false

/-- The word between braces that is a key, with its length. -/
def plainKey? (text : Text) : Option (Text × Nat) :=
  let blanks := (text.takeWhile isBlankOctet).length
  let body := text.drop blanks
  let sign : Text := body.take 1 |>.filter (· == '-')
  let word := (body.drop sign.length).takeWhile isNameChar
  let behind := body.drop (sign.length + word.length)
  let gap := (behind.takeWhile isBlankOctet).length
  if !(word.head?.any isNameStart) || (behind.drop gap).head? != some '\x7d' then none
  else some (sign ++ word, blanks + sign.length + word.length + gap + 1)

/-- What escapes of a text between quotes stand for, and what follows. -/
def escapeIn (c : Char) (rest : Text) : Text × Text :=
  match c with
  | 'n' => (['\n'], rest)
  | 't' => (['\t'], rest)
  | 'r' => (['\r'], rest)
  | 'a' => (['\x07'], rest)
  | 'e' => (['\x1b'], rest)
  | 'f' => (['\x0c'], rest)
  | 'b' => (['\x08'], rest)
  | 'x' =>
      match rest with
      | '\x7b' :: behind =>
          let digits := behind.takeWhile isHexDigit
          let code := digitsIn 16 digits
          (if code < 256 then [Char.ofNat code] else spreadText [Char.ofNat code],
            behind.drop (digits.length + 1))
      | _ =>
          let digits := (rest.take 2).takeWhile isHexDigit
          ([Char.ofNat (digitsIn 16 digits)], rest.drop digits.length)
  | 'c' =>
      match rest with
      | d :: behind => ([Char.ofNat ((d.toUpper.toNat + 64) % 128)], behind)
      | [] => ([], [])
  | c =>
      if isOctalDigit c then
        let digits := ((c :: rest).take 3).takeWhile isOctalDigit
        ([Char.ofNat (digitsIn 8 digits % 256)], (c :: rest).drop digits.length)
      else ([c], rest)

/-- Whether a dollar sign in a text begins a value. -/
def beginsValue (setting : Setting) (rest : Text) : Bool :=
  match rest with
  | [] => false
  | c :: behind =>
      if isNameChar c || c = '\x7b' then true
      else if c = ':' then behind.head? = some ':' && (behind.drop 1).head?.any isNameStart
      else match setting with
        | .pattern => c = '&' || (c = '$' && behind.head?.any fun d => isNameStart d || d = '\x7b')
        | _ => c = '$' || (c = '^' && behind.head?.any Char.isUpper) ||
            "&\x60'+!@/\\,;.\"|?<>()[]:~=%-".toList.elem c

/-- Whether an at sign in a text begins values. -/
def beginsValues (rest : Text) : Bool :=
  match rest with
  | c :: behind =>
      isNameStart c || c = '\x7b' || (c = '$' && behind.head?.any fun d => isNameStart d ||
        d = '\x7b')
  | [] => false

/-- Whether a brace in front of a text opens a table rather than a block. -/
def opensTable (text : Text) : Bool :=
  let isFollowed (isWord : Bool) (word rest : Text) : Bool :=
    let rest := behindBlanks rest
    ['=', '>'].isPrefixOf rest ||
      (rest.head? = some ',' && (!isWord || word.any fun c => !c.isLower))
  match behindBlanks text with
  | '\x7d' :: _ => true
  | c :: rest =>
      if c = '"' || c = '\'' then
        match enclosedText c c rest 0 [] with
        | some (inside, behind) => isFollowed false inside behind
        | none => false
      else
        let word := (c :: rest).takeWhile isNameChar
        isNameStart c && isFollowed true word ((c :: rest).drop word.length)
  | [] => false

/-- Signs that name a value of their own. -/
def signNames : Text := "&\x60'+!@/\\,;.\"|?<>()[]0:~=%-".toList

/-- The statement that a word at its front belongs to. -/
def isLabel (text : Text) : Option Text :=
  let word := text.takeWhile isNameChar
  let behind := behindBlanks (text.drop word.length)
  match behind with
  | ':' :: ':' :: _ => none
  | ':' :: _ => if word.head?.any isNameStart && word.all fun c => c.isUpper || c.isDigit || c = '_'
      then some word else none
  | _ => none

/-- Takes letters that stand behind an expression. -/
def takeLetters : Reader Text := do
  let letters := (← get).rest.takeWhile Char.isAlpha
  drop letters.length
  return letters

/-- The text behind the mark that opens it, with the mark. -/
def takeQuoted : Reader (Char × Text) := do
  next
  match ← peek with
  | some c =>
      drop 1
      return (c, ← takeEnclosed c)
  | none => fail

/-- Whether what follows a word that can begin a quoted text is its mark. -/
def beginsQuote (behind : Text) : Bool :=
  if isKeyed behind then false
  else match behind with
    | [] => false
    | c :: _ =>
        let hasBlank := isBlankOctet c
        match behindBlanks behind with
        | [] => false
        | d :: rest =>
            if d = '=' then !hasBlank && rest.head? != some '=' && rest.head? != some '~'
            else if d = '#' then !hasBlank
            else !(isNameChar d || d = ',' || d = ';' || d = ')')

/-- The handle that a print names by a word, with what follows it. -/
def handleWord? (source : Source) (text : Text) : Option (Text × Text) :=
  let word := frontWord text
  let behind := text.drop word.length
  let rest := behindBlanks behind
  let isStandard := (["STDOUT", "STDERR", "STDIN"] : List Text).elem word
  let isPlain := word.head?.any Char.isUpper && word.all fun c => c.isUpper || c.isDigit || c = '_'
  let isKnown := source.fixed.elem word ||
    (source.named.lookup (fullName source.package word)).isSome
  let ends := isEnding rest || startsValue rest || ['<', '<'].isPrefixOf rest
  let followed := !(['(', ','].any fun c => rest.head? = some c) &&
    !(['-', '>'].isPrefixOf rest) && !(['=', '>'].isPrefixOf rest)
  if word.isEmpty then none
  else if isStandard && followed then some (word, behind)
  else if isPlain && !isKnown && followed && ends && !(['_', '_'].isPrefixOf word) then
    some (word, behind)
  else none

/-- Whether a scalar in front of values of a print is its handle. -/
def isHandleScalar (text : Text) : Bool :=
  match text with
  | '$' :: rest =>
      let word := frontWord rest
      let behind := rest.drop word.length
      if word.isEmpty || !(behind.head?.any isBlankOctet) then false
      else match behindBlanks behind with
        | [] => false
        | c :: behind =>
            if isNameStart c then !isOperatorWord (frontWord (c :: behind))
            else if c = '<' then behind.head? = some '<' && (behind[1]?).any fun d =>
              d = '"' || d = '\'' || d = '~' || isNameStart d
            else c.isDigit || "\"'$@\\".toList.elem c
  | _ => false

/-- The number of a routine that is read elsewhere. -/
def addRoutine (name : Text) (body : List Statement) : Reader Nat := do
  let source ← get
  let number := source.routines.size
  set { source with routines := source.routines.push ⟨name, source.package, body⟩ }
  return number

/-- Gives a routine a name. -/
def nameRoutine (name : Text) (number : Nat) : Reader Unit := modify fun source =>
  let full := fullName source.package name
  { source with named := (full, number) :: source.named }

/-- Changes the routine with a number. -/
def setRoutine (number : Nat) (body : List Statement) : Reader Unit := modify fun source =>
  { source with routines := source.routines.modify number fun routine => { routine with body } }

/-- The values between the marks of a comma. -/
def items : Term → List Term
  | .listed terms => terms
  | term => [term]

/-- Two terms with a joint between them. -/
def joined (joint : Joint) (left right : Term) : Term :=
  match joint with
  | .compute operation => .compute operation left right
  | .join junction => .join junction left right
  | .exclusive => .exclusive left right
  | .range => .range 0 left right
  | .assign => .assign left right
  | .update operation => .update operation left right
  | .settle junction => .settle junction left right
  | .bind wanted =>
      match right with
      | .matching none isWanted pattern asked =>
          .matching (some left) (isWanted == wanted) pattern asked
      | .replacing none pattern replacement asked =>
          let result := Term.replacing (some left) pattern replacement asked
          if wanted then result else .not result
      | .mapping none mapping =>
          let result := Term.mapping (some left) mapping
          if wanted then result else .not result
      | right => .matching (some left) wanted right (askedBy [])
  | .comma | .choose => .listed [left, right]

/-- A condition that reads means that there is something left to read. -/
def loopCondition : Term → Term
  | .readLine handle => reads (.readLine handle)
  | .readArguments => reads .readArguments
  | .glob pattern => reads (.glob pattern)
  | .assign target (.readLine handle) => .feature "defined" [.assign target (.readLine handle)] 0
  | .assign target .readArguments => .feature "defined" [.assign target .readArguments] 0
  | .assign target (.glob pattern) => .feature "defined" [.assign target (.glob pattern)] 0
  | .assign target (.feature name arguments line) =>
      let isRead := name = "readline" || name = "readdir" || name = "each" || name = "shift"
      let isList := match target with
        | .listed _ => true
        | _ => false
      let term := Term.assign target (.feature name arguments line)
      if isRead && name != "shift" && !isList then .feature "defined" [term] 0 else term
  | .feature name arguments line =>
      if name = "readline" || name = "readdir" then reads (.feature name arguments line)
      else .feature name arguments line
  | .listed [term] => loopCondition term
  | term => term
where
  reads (term : Term) : Term :=
    .feature "defined" [.assign (.name .scalar (.shared "main::_")) term] 0

/-- Whether a name may stand for a file of the system's library, which has no effect of its own. -/
def modules : List Text := [
  "strict", "warnings", "utf8", "feature", "vars", "integer", "bytes", "lib", "POSIX", "List::Util",
  "Scalar::Util", "Time::HiRes", "Cwd", "File::Basename", "File::Spec", "File::Path", "File::Temp",
  "File::Copy", "Data::Dumper", "Carp", "Getopt::Long", "IO::Handle", "IO::File", "Exporter",
  "Encode"]

def plainModules : List Text := [
  "open", "constant", "parent", "base", "Fcntl", "Errno", "English", "overload", "Symbol",
  "diagnostics", "sigtrap", "autodie", "locale", "mro", "re", "sort", "subs", "version", "if",
  "less", "experimental", "bigint", "Config", "File::Find", "FindBin", "Text::Wrap"]

def furtherModules : List Text := [
  "Text::ParseWords", "Time::Local", "Term::ANSIColor", "Tie::Hash", "Storable", "Benchmark",
  "Math::Trig", "Sys::Hostname",
  "File::stat", "Time::Piece", "JSON::PP", "IPC::Open3", "IPC::Open2", "Socket", "threads",
  "Getopt::Std", "Digest::MD5", "Digest::SHA", "MIME::Base64", "Test::More", "Hash::Util",
  "List::MoreUtils"]

/-- The names that the use of a part of the library makes known. -/
def usualNames : List (Text × List Text) := [
  ("POSIX", ["floor", "ceil", "fmod", "pow", "strftime", "strtol", "round", "trunc"]),
  ("Carp", ["croak", "carp", "confess"]), ("Cwd", ["cwd", "getcwd"]),
  ("File::Basename", ["basename", "dirname", "fileparse"]), ("Data::Dumper", ["Dumper"]),
  ("File::Path", ["mkpath", "rmtree", "make_path", "remove_tree"]),
  ("File::Copy", ["copy", "move", "cp", "mv"]),
  ("MIME::Base64", ["encode_base64", "decode_base64"]),
  ("Getopt::Long", ["GetOptions"]), ("Getopt::Std", ["getopts", "getopt"]),
  ("Sys::Hostname", ["hostname"])]

/-- Where files of the library are looked for. -/
def libraryPlaces : Text :=
  "/etc/perl /usr/local/lib/x86_64-linux-gnu/perl/5.38.2 /usr/local/share/perl/5.38.2 ".toList ++
    "/usr/lib/x86_64-linux-gnu/perl5/5.38 /usr/share/perl5 ".toList ++
    "/usr/lib/x86_64-linux-gnu/perl-base /usr/lib/x86_64-linux-gnu/perl/5.38 ".toList ++
    "/usr/share/perl/5.38 /usr/local/lib/site_perl".toList

/-- The path of the file that holds a part of the library. -/
def modulePath (name : Text) : Text :=
  List.intercalate ['/'] ((name.splitOn ':').filter fun part => !part.isEmpty) ++ ".pm".toList

/-- Says that a part of the library is missing. -/
def missing (path : Text) (line : Nat) (name : Text) : Text :=
  "Can't locate ".toList ++ modulePath name ++
    " in @INC (you may need to install the ".toList ++ name ++
    " module) (@INC entries checked: ".toList ++ libraryPlaces ++ ")".toList ++
    Source.place path line ++ ".\n".toList

/-- The ways to read what lies inside. -/
structure Tools where
  /-- Reads a term whose joints bind at least as tightly as a level says. -/
  term : (level : Nat) → Reader Term
  /-- Reads statements up to a closing brace or the end. -/
  statements : Reader (List Statement)
  /-- How often one thing may stand behind another. -/
  fuel : Nat

variable (tools : Tools)

/-- The key between braces, the first of which was taken. -/
def takeKey : Reader Term := do
  match plainKey? (← get).rest with
  | some (word, length) =>
      pass length
      return .constant (.text word)
  | none =>
      let key ← tools.term 1
      expect "\x7d"
      return key

/-- The index between brackets, the first of which was taken. -/
def takeIndex : Reader Term := do
  let index ← tools.term 1
  expect "]"
  return index

/-- Values with commas between them, after those before. -/
def takeItems (fuel : Nat) (before : List Term) : Reader (List Term) :=
  match fuel with
  | 0 => exhausted
  | fuel + 1 => do
      next
      let rest := (← get).rest
      match rest with
      | ',' :: _ =>
          drop 1
          takeItems fuel before
      | '=' :: '>' :: _ =>
          drop 2
          takeItems fuel before
      | _ =>
          if isEnding rest && !isKeyed (rest.drop (frontWord rest).length) then
            return before.reverse
          else
            let term ← tools.term 5
            next
            match (← get).rest with
            | ',' :: _ => takeItems fuel (term :: before)
            | '=' :: '>' :: _ => takeItems fuel (term :: before)
            | _ => return (term :: before).reverse

/-- Values with commas between them. -/
def takeList : Reader (List Term) := takeItems tools tools.fuel []

/-- Values in parentheses. -/
def takeParenthesized : Reader Term := do
  expect "("
  let terms ← takeList tools
  expect ")"
  return .listed terms

/-- Values in parentheses, or none. -/
def takeOptional : Reader Term := do
  if (← peek) = some '(' then takeParenthesized tools else return .listed []

/-- A block in braces. -/
def takeBlock : Reader (List Statement) := do
  expect "\x7b"
  let body ← inScope (tools.statements)
  expect "\x7d"
  return body

/-- What a name stands for, behind its mark. -/
def takeBase (fuel : Nat) (setting : Setting) : Reader Base :=
  match fuel with
  | 0 => exhausted
  | fuel + 1 => do
      match (← get).rest with
      | '\x7b' :: behind =>
          match behindBlanks behind with
          | '^' :: rest =>
              let word := rest.takeWhile isNameChar
              setRest (rest.drop (word.length + 1))
              return .named ('^' :: word)
          | c :: rest =>
              let word := if isNameStart c then frontWord (c :: rest)
                else (c :: rest).takeWhile Char.isDigit
              let rest' := behindBlanks ((c :: rest).drop word.length)
              if !word.isEmpty && rest'.head? = some '\x7d' then
                setRest (rest'.drop 1)
                return .named word
              else if signNames.elem c && rest.head? = some '\x7d' then
                setRest (rest.drop 1)
                return .named [c]
              else
                let body ← takeBlock tools
                match body with
                | [.evaluate _ term] => return .behind term
                | body => return .behind (.block body)
          | [] => fail
      | '$' :: rest =>
          if rest.head?.any fun c => isNameStart c || c = '\x7b' || c = '$' || c = ':' then
            drop 1
            let base ← takeBase fuel setting
            return .behind (← base.term .scalar)
          else
            drop 1
            return .named ['$']
      | '^' :: c :: _ =>
          if c.isUpper then
            drop 2
            return .named ['^', c]
          else fail
      | c :: rest =>
          if isNameStart c then
            let word := frontWord (c :: rest)
            let word := if Text.endsWith "::" word && setting != .code then
              word.take (word.length - 2)
              else word
            drop word.length
            return .named word
          else if c = ':' && rest.head? = some ':' then
            let word := frontWord (rest.drop 1)
            drop (2 + word.length)
            return .named ("main::".toList ++ word)
          else if c.isDigit then
            let digits := (c :: rest).takeWhile Char.isDigit
            drop digits.length
            return .named digits
          else if signNames.elem c then
            drop 1
            return .named [c]
          else fail
      | [] => fail

def takeName (setting : Setting) : Reader Base := takeBase tools tools.fuel setting

/-- The subscripts behind a value. -/
def takeSubscripts (fuel : Nat) (setting : Setting) (term : Term) : Reader Term :=
  match fuel with
  | 0 => exhausted
  | fuel + 1 => do
      let rest := (← get).rest
      let isArrow := arrowSubscript setting rest
      if isArrow then drop 2
      if isArrow || beginsSubscript setting rest then
        let opening ← peek
        drop 1
        if opening = some '[' then
          takeSubscripts fuel setting (.element (.behind .list term) (← takeIndex tools))
        else takeSubscripts fuel setting (.entry (.behind .table term) (← takeKey tools))
      else return term

/-- What stands behind a value in code. -/
def takePostfix (fuel : Nat) (term : Term) (isSubscripted : Bool) : Reader Term :=
  match fuel with
  | 0 => exhausted
  | fuel + 1 => do
      let before ← get
      next
      let index (list : Term) : Reader Term := do
        drop 1
        takePostfix fuel (.element list (← takeIndex tools)) true
      let key (table : Term) : Reader Term := do
        drop 1
        takePostfix fuel (.entry table (← takeKey tools)) true
      match (← get).rest with
      | '-' :: '>' :: _ =>
          drop 2
          next
          match (← get).rest with
          | '[' :: _ => index (.behind .list term)
          | '\x7b' :: _ => key (.behind .table term)
          | '(' :: _ => do
              let arguments ← takeParenthesized tools
              takePostfix fuel (.callBehind term (some arguments)) true
          | '@' :: '*' :: _ => do
              drop 2
              return .behind .list term
          | '%' :: '*' :: _ => do
              drop 2
              return .behind .table term
          | '$' :: '*' :: _ => do
              drop 2
              takePostfix fuel (.behind .scalar term) true
          | '$' :: '#' :: '*' :: _ => do
              drop 3
              return .lastIndex (.behind .list term)
          | '@' :: '[' :: _ => do
              drop 2
              return .elements (.behind .list term) (← takeIndex tools)
          | '@' :: '\x7b' :: _ => do
              drop 2
              return .entries (.behind .table term) (← takeKey tools)
          | '$' :: _ => do
              drop 1
              let base ← takeName tools .text
              let name ← base.term .scalar
              let arguments ← takeOptional tools
              takePostfix fuel (.method term [] (some name) arguments) true
          | rest => do
              let word := frontWord rest
              if word.isEmpty then fail
              drop word.length
              let arguments ← takeOptional tools
              takePostfix fuel (.method term word none arguments) true
      | '[' :: _ => if isSubscripted then index (.behind .list term) else return term
      | '\x7b' :: _ => if isSubscripted then key (.behind .table term) else return term
      | '(' :: _ =>
          if isSubscripted then do
            let arguments ← takeParenthesized tools
            takePostfix fuel (.callBehind term (some arguments)) true
          else return term
      | '+' :: '+' :: _ =>
          drop 2
          return .step false true term
      | '-' :: '-' :: _ =>
          drop 2
          return .step false false term
      | _ =>
          modify fun source => { source with marks := before.marks }
          return term

def goOn (term : Term) (isSubscripted : Bool) : Reader Term :=
  takePostfix tools tools.fuel term isSubscripted

/-- A scalar behind its mark, with subscripts. -/
def takeScalar (setting : Setting) : Reader Term := do
  let base ← takeName tools setting
  let rest := (← get).rest
  let isNumber := match base with
    | .named name => name = ['$']
    | _ => false
  if beginsSubscript setting rest && !isNumber then
    let opening ← peek
    drop 1
    let first ←
      if opening = some '[' then do
        let list ← base.term .list
        pure (Term.element list (← takeIndex tools))
      else do
        let table ← base.term .table
        pure (Term.entry table (← takeKey tools))
    if setting = .code then goOn tools first true
    else takeSubscripts tools tools.fuel setting first
  else
    let first ← base.term .scalar
    if setting = .code then goOn tools first false
    else if arrowSubscript setting rest then takeSubscripts tools tools.fuel setting first
    else return first

/-- Values behind their mark: a list or a part of one. -/
def takeValues (setting : Setting) : Reader Term := do
  let base ← takeName tools setting
  let rest := (← get).rest
  match rest with
  | '[' :: _ =>
      if beginsSubscript setting rest || setting = .text then
        drop 1
        let list ← base.term .list
        return .elements list (← takeIndex tools)
      else base.term .list
  | '\x7b' :: _ =>
      if setting = .pattern then base.term .list
      else
        drop 1
        let table ← base.term .table
        return .entries table (← takeKey tools)
  | _ => base.term .list

/-- The parts of a text between quotes, after those before. -/
def takeParts (fuel : Nat) (setting : Setting) (isInner : Bool) (literal : Text)
    (before : List Term) : Reader (List Term) :=
  match fuel with
  | 0 => exhausted
  | fuel + 1 => do
      let flushed : List Term :=
        if literal.isEmpty then before else .constant (.text literal.reverse) :: before
      match (← get).rest with
      | [] => return flushed.reverse
      | '\\' :: c :: rest =>
          if c = 'E' then
            drop 2
            if isInner then return flushed.reverse
            else takeParts fuel setting isInner literal before
          else
            let named : List (Char × Text) := [
              ('U', "uc"), ('L', "lc"), ('Q', "quotemeta"), ('F', "fc"), ('u', "ucfirst"),
              ('l', "lcfirst")]
            match named.lookup c with
            | some feature =>
                drop 2
                let isSpan := c.isUpper
                let inner ← takeParts fuel setting (isSpan || isInner) [] []
                let part := Term.feature feature [fuse inner] 0
                if isSpan then takeParts fuel setting isInner [] (part :: flushed)
                else return (part :: flushed).reverse
            | none =>
                if setting = .pattern then
                  pass 2
                  takeParts fuel setting isInner (c :: '\\' :: literal) before
                else
                  let (shown, rest) := escapeIn c rest
                  setRest rest
                  takeParts fuel setting isInner (shown.reverse ++ literal) before
      | '$' :: rest =>
          let isCount := rest.head? = some '#' && (rest.drop 1).head?.any fun c =>
            c = '\x7b' || c = '$' || (isNameStart c && setting = .text)
          if isCount then
            drop 2
            let base ← takeName tools .text
            let part := Term.lastIndex (← base.term .list)
            takeParts fuel setting isInner [] (part :: flushed)
          else if beginsValue setting rest then
            drop 1
            let part ← takeScalar tools setting
            takeParts fuel setting isInner [] (part :: flushed)
          else
            drop 1
            takeParts fuel setting isInner ('$' :: literal) before
      | '@' :: rest =>
          if beginsValues rest then
            drop 1
            let part ← takeValues tools setting
            takeParts fuel setting isInner [] (part :: flushed)
          else
            drop 1
            takeParts fuel setting isInner ('@' :: literal) before
      | c :: _ =>
          pass 1
          takeParts fuel setting isInner (c :: literal) before

/-- The term for a text between quotes. -/
def takeText (setting : Setting) (text : Text) : Reader Term := do
  return fuse (← within text (takeParts tools tools.fuel setting false [] []))

/-- The name of a certain shape that a declaration makes. -/
def takeDeclaredName (word : Text) (shape : Shape) : Reader Term := do
  drop 1
  let name := frontWord (← get).rest
  if name.isEmpty then fail
  drop name.length
  if word = "our" then declareShared shape name
  else declare (if word = "state" then .kept else .fresh) shape name

/-- The shape that a mark stands for. -/
def shapeOf? (c : Char) : Option Shape :=
  match c with
  | '$' => some .scalar
  | '@' => some .list
  | '%' => some .table
  | _ => none

/-- The names that a declaration makes up to a closing parenthesis, after those before. -/
def takeDeclared (word : Text) : (fuel : Nat) → (before : List Term) → Reader (List Term)
  | 0, _ => exhausted
  | fuel + 1, before => do
      next
      match (← get).rest with
      | ')' :: _ =>
          drop 1
          return before.reverse
      | ',' :: _ =>
          drop 1
          takeDeclared word fuel before
      | c :: _ =>
          match shapeOf? c with
          | some shape => takeDeclared word fuel ((← takeDeclaredName word shape) :: before)
          | none =>
              if ← takeWordIf "undef" then
                takeDeclared word fuel (.feature "undef" [] 0 :: before)
              else fail
      | [] => fail

/-- The names that a declaration makes. A class may stand in front. -/
def takeDeclaration (word : Text) : Reader Term := do
  next
  let type := frontWord (← get).rest
  drop type.length
  next
  match (← get).rest with
  | '(' :: rest =>
      drop 1
      .listed <$> takeDeclared word (rest.length + 1) []
  | c :: _ =>
      match shapeOf? c with
      | some shape => takeDeclaredName word shape
      | none => fail
  | [] => fail

/-- The parameters from one with a number on, after those before. -/
def takeParameters (fuel : Nat) (number : Nat) (before : List Term) : Reader (List Term) :=
  match fuel with
  | 0 => exhausted
  | fuel + 1 => do
      next
      let given : Term := .name .list (.shared "main::_")
      match (← get).rest with
      | ')' :: _ =>
          drop 1
          return before.reverse
      | ',' :: _ =>
          drop 1
          takeParameters fuel number before
      | c :: _ =>
          let target ← takeDeclaration "my"
          settle
          next
          let value : Term := .element given (.constant (.whole number))
          let rest : Term := .elements given
            (.range 0 (.constant (.whole number)) (.lastIndex given))
          let term ←
            if c != '$' then pure (Term.assign target rest)
            else if ← takeIf "//=" then do
              pure (Term.assign target (.join .defined value (← tools.term 5)))
            else if ← takeIf "=" then do
              let isGiven := Term.compute (.numbers .greater)
                (.feature "scalar" [given] 0) (.constant (.whole number))
              pure (Term.assign target (.choose isGiven value (← tools.term 5)))
            else pure (Term.assign target value)
          takeParameters fuel (number + 1) (term :: before)
      | [] => fail

/-- Parameters in parentheses, as the assignments that they come down to. -/
def takeSignature : Reader (List Term) := do
  let inside := (← get).rest.takeWhile (· != ')')
  if inside.any Char.isAlpha then
    drop 1
    takeParameters tools tools.fuel 0 []
  else
    pass (inside.length + 1)
    return []

/-- The body of a routine, in front of which its parameters may be named. -/
def takeRoutine : Reader (List Statement) := do
  let depth := (← get).depth
  modify fun source => { source with depth := depth + 1 }
  let body ← inScope do
    next
    let lead ← if (← peek) = some '(' then takeSignature tools else pure []
    let source ← get
    settle
    let body ← takeBlock tools
    return if lead.isEmpty then body else
      (lead.map fun term => Statement.evaluate source.line term) ++ body
  modify fun source => { source with depth }
  return body

/-- What goes through a list: a block, a routine or a term, and the values. -/
def takePass (pass : Pass) : Reader Term := do
  let hasParenthesis ← takeIf "("
  next
  let before ← get
  let finish (body : Option Term) : Reader Term := do
    let values ← takeList tools
    if hasParenthesis then expect ")"
    return .pass pass body (.listed values)
  let attempt : Reader (Option (List Statement)) := do
    let body ← takeBlock tools
    next
    return if (← peek) = some ',' then none else some body
  match before.rest with
  | '\x7b' :: _ =>
      let result : Option (List Statement × Source) := match attempt.run before with
        | .ok (some body, source) => some (body, source)
        | .ok (none, _) | .error _ => none
      match result with
      | some (body, source) =>
          set source
          finish (some (.block body))
      | none =>
          if pass = .map then
            let body ← tools.term 5
            let _ ← takeIf ","
            finish (some body)
          else finish (some (.block (← takeBlock tools)))
  | rest =>
      match pass with
      | .sort =>
          let word := frontWord rest
          let behind := rest.drop word.length
          let isKnown := (before.named.lookup (fullName before.package word)).isSome
          let isFeature := isSingle word || isListing word || (passes.lookup word).isSome ||
            word = "qw" || word = "do" || word = "sub"
          let isComparison := !word.isEmpty && (isKnown || !isFeature) &&
            (behindBlanks behind).head?.any fun c => c = '@' || c = '$' || isNameStart c
          if isComparison then
            drop word.length
            finish (some (.call (fullName before.package word) (some (.listed [])) before.line))
          else if isHandleScalar rest || (rest.head? = some '$' &&
              (behindBlanks ((rest.drop 1).dropWhile isNameChar)).head? = some '@') then
            drop 1
            let base ← takeName tools .text
            let code ← base.term .scalar
            finish (some (.callBehind code (some (.listed []))))
          else finish none
      | .map | .filter =>
          let body ← tools.term 5
          let _ ← takeIf ","
          finish (some body)
      | _ =>
          let code ← tools.term 5
          let _ ← takeIf ","
          finish (some (.callBehind code (some (.listed []))))

/-- What is printed, and where. -/
def takePrint (printing : Printing) : Reader Term := do
  next
  let hasParenthesis ← takeIf "("
  next
  let source ← get
  let handle ← match source.rest with
    | '\x7b' :: _ => do
        drop 1
        let term ← tools.term 1
        expect "\x7d"
        pure (some term)
    | rest =>
        if isHandleScalar rest then do
          drop 1
          let base ← takeName tools .text
          some <$> base.term .scalar
        else match handleWord? source rest with
          | some (word, behind) => do
              setRest behind
              pure (some (.word word))
          | none => pure none
  let values ← takeList tools
  if hasParenthesis then
    expect ")"
    return .print printing handle (.listed values)
  return .print printing handle (.listed values)

/-- The values that a feature works on. -/
def takeArguments (word : Text) : Reader (List Term) := do
  next
  let hasParenthesis := (← peek) = some '('
  if hasParenthesis then drop 1
  next
  let source ← get
  let name := frontWord source.rest
  let behind := behindBlanks (source.rest.drop name.length)
  let isHandle := onHandles.elem word && !name.isEmpty && name.head?.any Char.isUpper &&
    (behind.head?.all fun c => c = ',' || c = ')' || c = ';' || c = '\x7d' || c = '|')
  let first : List Term := if isHandle then [.word name] else []
  if isHandle then drop name.length
  let terms ← takeItems tools tools.fuel first
  if hasParenthesis then expect ")"
  return terms

/-- A feature that takes at most one value. -/
def takeSingle (word : Text) : Reader Term := do
  let { line, depth, .. } ← get
  next
  let rest := (← get).rest
  let isShift := word = "shift" || word = "pop"
  let given (isRoutine : Bool) : Term :=
    .name .list (.shared (if isRoutine then "main::_" else "main::ARGV" : Text))
  if rest.head? = some '(' then
    let terms ← takeArguments tools word
    let terms := if isShift && terms.isEmpty then [given (depth != 0)] else terms
    goOn tools (.feature word terms line) false
  else if isShift && !(rest.head?.any fun c => c = '@' || c = '$') then
    goOn tools (.feature word [given (depth != 0)] line) false
  else if startsValue rest then
    let name := frontWord rest
    let behind := behindBlanks (rest.drop name.length)
    if onHandles.elem word && name.head?.any Char.isUpper &&
        behind.head?.all fun c => c != '(' && c != '-' then
      drop name.length
      return .feature word [.word name] line
    return .feature word [← tools.term 15] line
  else goOn tools (.feature word [] line) false

/-- A call of a routine, a class, or a word that stands for itself. -/
def takeCall (word : Text) : Reader Term := do
  let source ← get
  next
  let rest := (← get).rest
  let name := fullName source.package word
  let isKnown := (source.named.lookup name).isSome || source.imported.elem word
  if source.fixed.elem name then
    if ['(', ')'].isPrefixOf rest then drop 2
    goOn tools (.call name (some (.listed [])) source.line) false
  else if rest.head? = some '(' then
    goOn tools (.call name (some (← takeParenthesized tools)) source.line) true
  else if ['-', '>'].isPrefixOf rest then
    goOn tools (if isKnown then .call name (some (.listed [])) source.line
      else .constant (.text (if Text.endsWith "::" word then word.take (word.length - 2)
        else word)))
      false
  else if isKnown then
    if startsValue rest then
      return .call name (some (.listed (← takeList tools))) source.line
    else return .call name (some (.listed [])) source.line
  else if word = "new" && rest.head?.any Char.isUpper then
    let type := frontWord rest
    drop type.length
    next
    let arguments ← takeOptional tools
    goOn tools (.method (.constant (.text type)) word none arguments) true
  else if startsValue rest && rest.head?.any fun c => c = '$' || c = '"' || c = '@' || c = '\'' then
    return .call name (some (.listed (← takeList tools))) source.line
  else if startsValue rest && rest.head?.any Char.isDigit then fail
  else
    let isPlain := word.any Char.isLower && !Text.contains "::" word
    if source.isStrict && isPlain then
      let problem : Text := "Bareword \"".toList ++ word ++
        "\" not allowed while \"strict subs\" in use".toList ++
        Source.place source.path source.line ++ ".\n".toList
      modify fun source => { source with problems := problem :: source.problems }
    return .word word

/-- A text behind a word that says how it is meant. -/
def takeQuote (word : Text) : Reader Term := do
  let (mark, text) ← takeQuoted
  let pattern : Reader Term :=
    if mark = '\'' then return .constant (.text text) else takeText tools .pattern text
  let second : Reader (Char × Text) := do
    if closing mark = mark then return (mark, ← takeEnclosed mark) else takeQuoted
  match String.ofList word with
  | "q" => goOn tools (.constant (.text (unquoted mark text))) false
  | "qq" => goOn tools (← takeText tools .text text) false
  | "qx" => return .output (← takeText tools .text text)
  | "qw" =>
      let parts := (text.splitOnP isBlankOctet).filter fun part => !part.isEmpty
      let values := Term.listed (parts.map fun part => .constant (.text part))
      if (← takeIf "[") then return .picked values (← takeIndex tools) else return values
  | "m" => return .matching none true (← pattern) (askedBy (← takeLetters))
  | "qr" => return .quoted (← pattern) (askedBy (← takeLetters))
  | "s" =>
      let pattern ← pattern
      let (mark, replacement) ← second
      let asked := askedBy (← takeLetters)
      let replacement ←
        if asked.evaluations != 0 then do
          let body ← within replacement (inScope (tools.statements))
          pure (Term.block body)
        else if mark = '\'' then pure (Term.constant (.text replacement))
        else takeText tools .text replacement
      return .replacing none pattern replacement asked
  | _ =>
      let (_, replacement) ← second
      return .mapping none (mappingOf text replacement (← takeLetters))

/-- A term that a word begins. -/
def takeWordTerm : Reader Term := do
  let source ← get
  let word := frontWord source.rest
  let behind := source.rest.drop word.length
  if isKeyed behind && !Text.contains "::" word then
    drop word.length
    return .constant (.text word)
  let isQuote := (["q", "qq", "qw", "m", "qr", "s", "tr", "y", "qx"] : List Text).elem word &&
    beginsQuote behind
  if isQuote then
    drop word.length
    return ← takeQuote tools word
  drop word.length
  match String.ofList word with
  | "my" | "our" | "state" => takeDeclaration word
  | "local" => return .localize (← tools.term 19)
  | "sub" =>
      let body ← takeRoutine tools
      let number ← addRoutine "__ANON__" body
      goOn tools (.routine number) false
  | "do" =>
      next
      if (← peek) = some '\x7b' then return .block (← takeBlock tools)
      else return .feature "do" [← tools.term 15] source.line
  | "eval" =>
      next
      if (← peek) = some '\x7b' then return .guarded (← takeBlock tools)
      else if startsValue (← get).rest then
        return .feature "eval" [← tools.term 15] source.line
      else return .feature "eval" [.name .scalar (.shared "main::_")] source.line
  | "print" => takePrint tools .plain
  | "say" => takePrint tools .line
  | "printf" => takePrint tools .formatted
  | "__FILE__" => return .constant (.text source.path)
  | "__LINE__" => return .constant (.whole source.line)
  | "__PACKAGE__" => goOn tools (.constant (.text source.package)) false
  | "wantarray" | "time" | "times" | "wait" | "fork" | "getppid" | "getlogin" =>
      if (← takeIf "(") then expect ")"
      let name : Text :=
        if word = "time" && source.imported.elem word then "fine time" else word
      goOn tools (.feature name [] source.line) false
  | "usleep" => return .feature word (← takeArguments tools word) source.line
  | _ =>
      let isOwn := (source.named.lookup (fullName source.package word)).isSome
      match passes.lookup word with
      | some pass =>
          let isBlock := (behindBlanks behind).head? = some '\x7b'
          if pass = .map || pass = .filter || pass = .sort || (isBlock && !isOwn) then
            return ← takePass tools pass
      | none => pure ()
      if isOwn then takeCall tools word
      else if word = "sleep" && source.imported.elem word then
        return .feature "fine sleep" (← takeArguments tools word) source.line
      else if word = "last" || word = "next" || word = "redo" then
        next
        let label := frontWord (← get).rest
        if label.isEmpty || isOperatorWord label then return .feature word [] source.line
        else
          drop label.length
          return .feature word [.word label] source.line
      else if word = "require" && (behindBlanks behind).head?.any isNameStart then
        next
        let name := frontWord (← get).rest
        drop name.length
        return .feature word [.word name] source.line
      else if isSingle word then takeSingle tools word
      else if isListing word then
        return .feature word (← takeArguments tools word) source.line
      else takeCall tools word

/-- What an angle bracket in front of a value begins. -/
def takeAngle (rest : Text) : Reader Term := do
  match rest with
  | '<' :: behind =>
      let (indents, behind) : Bool × Text := match behind with
        | '~' :: behind => (true, behind)
        | behind => (false, behind)
      match behind with
      | '"' :: _ | '\'' :: _ => do
          let mark := behind.headD '"'
          setRest (behind.drop 1)
          let delimiter ← takeEnclosed mark
          let text ← takeAttached delimiter indents
          if mark = '"' then goOn tools (← takeText tools .text text) false
          else return .constant (.text text)
      | _ => do
          let word := frontWord behind
          if word.isEmpty then
            if ['>', '>'].isPrefixOf behind then
              setRest (behind.drop 2)
              return .readArguments
            else fail
          setRest (behind.drop word.length)
          let text ← takeAttached word indents
          goOn tools (← takeText tools .text text) false
  | '>' :: behind =>
      setRest behind
      return .readArguments
  | '$' :: behind =>
      let word := frontWord behind
      if !word.isEmpty && (behind.drop word.length).head? = some '>' then
        setRest (behind.drop (word.length + 1))
        return .readLine (← scalarNamed word)
      else
        drop 1
        return .glob (← takeText tools .text (← takeEnclosed '<'))
  | _ =>
      let word := frontWord rest
      if !word.isEmpty && (rest.drop word.length).head? = some '>' then
        setRest (rest.drop (word.length + 1))
        return .readLine (.word word)
      else
        drop 1
        return .glob (← takeText tools .text (← takeEnclosed '<'))

/-- A term of its own. -/
def takePrimary : Reader Term := do
  let source ← get
  match source.rest with
  | [] => fail
  | '$' :: '#' :: rest =>
      match rest with
      | '\x7b' :: _ | '$' :: _ => do
          drop 2
          let base ← takeName tools .text
          return .lastIndex (← base.term .list)
      | c :: _ =>
          if isNameStart c then do
            drop 2
            let base ← takeName tools .code
            return .lastIndex (← base.term .list)
          else do
            drop 1
            takeScalar tools .code
      | [] => fail
  | '$' :: _ => do
      drop 1
      takeScalar tools .code
  | '@' :: _ => do
      drop 1
      takeValues tools .code
  | '%' :: rest =>
      if rest.head?.any fun c => isNameStart c || c = '$' || c = '\x7b' || c = '+' || c = ':' then
        drop 1
        let base ← takeName tools .text
        match (← get).rest with
        | '\x7b' :: _ => do
            drop 1
            return .pairs (← base.term .table) (← takeKey tools)
        | '[' :: _ => do
            drop 1
            return .pairs (← base.term .list) (← takeIndex tools)
        | _ => base.term .table
      else fail
  | '&' :: rest =>
      drop 1
      match rest with
      | '$' :: _ | '\x7b' :: _ => do
          let base ← takeName tools .code
          let code ← match base with
            | .behind term => pure term
            | base => base.term .scalar
          next
          if (← peek) = some '(' then
            goOn tools (.callBehind code (some (← takeParenthesized tools))) true
          else return .callBehind code none
      | _ => do
          let word := frontWord rest
          if word.isEmpty then fail
          drop word.length
          let name := fullName source.package word
          next
          if (← peek) = some '(' then
            goOn tools (.call name (some (← takeParenthesized tools)) source.line) true
          else return .call name none source.line
  | '(' :: _ => do
      let values ← takeParenthesized tools
      next
      match (← get).rest with
      | '[' :: _ => do
          drop 1
          goOn tools (.picked values (← takeIndex tools)) true
      | '-' :: '>' :: _ => goOn tools values false
      | _ => return values
  | '*' :: rest => do
      drop 1
      if rest.head?.any fun c => isNameStart c || c = '\x7b' then
        match ← takeName tools .code with
        | .named name => return .symbol (.constant (.text name))
        | .behind term => return .symbol term
      else fail
  | '[' :: _ => do
      drop 1
      let terms ← takeList tools
      expect "]"
      goOn tools (.newList (.listed terms)) false
  | '\x7b' :: _ => do
      drop 1
      let terms ← takeList tools
      expect "\x7d"
      goOn tools (.newTable (.listed terms)) false
  | '"' :: _ => do
      drop 1
      goOn tools (← takeText tools .text (← takeEnclosed '"')) false
  | '\'' :: _ => do
      drop 1
      let text := unquoted '\'' (← takeEnclosed '\'')
      goOn tools (.constant (.text text)) false
  | '\x60' :: _ => do
      drop 1
      return .output (← takeText tools .text (← takeEnclosed '\x60'))
  | '/' :: _ => do
      drop 1
      let pattern ← takeText tools .pattern (← takeEnclosed '/')
      return .matching none true pattern (askedBy (← takeLetters))
  | '<' :: rest => takeAngle tools rest
  | c :: rest =>
      if c.isDigit || (c = '.' && rest.head?.any Char.isDigit) then do
        let (value, rest) := numeralAt source.rest
        setRest rest
        return .constant value
      else if isNameStart c then takeWordTerm tools
      else fail

/-- A term with what stands in front of it. -/
def takeFront : Reader Term := do
  next
  match (← get).rest with
  | '!' :: c :: _ =>
      if c = '~' then fail
      else
        drop 1
        return .not (← tools.term 19)
  | '~' :: _ =>
      drop 1
      return .complement (← tools.term 19)
  | '\\' :: _ =>
      drop 1
      return .refer (← tools.term 19)
  | '+' :: '+' :: _ =>
      drop 2
      return .step true true (← tools.term 21)
  | '-' :: '-' :: _ =>
      drop 2
      return .step true false (← tools.term 21)
  | '+' :: _ =>
      drop 1
      tools.term 19
  | '-' :: c :: rest =>
      let isTest := "edfrwxszlpSbctugkoRWXOTBAMC".toList.elem c &&
        !(rest.head?.any isNameChar) && !isKeyed rest && !(['('].isPrefixOf rest)
      if isTest then
        drop 2
        next
        let rest := (← get).rest
        if startsValue rest then return .test c (← tools.term 15)
        else return .test c (.name .scalar (.shared "main::_"))
      else if c.isAlpha && isKeyed (rest.dropWhile isNameChar) then
        let word := (c :: rest).takeWhile isNameChar
        drop (1 + word.length)
        return .constant (.text ('-' :: word))
      else
        drop 1
        return .negative (← tools.term 20)
  | _ => takePrimary tools

/-- Goes on behind a term. -/
def climb (fuel : Nat) (level : Nat) (left : Term) : Reader Term :=
  match fuel with
  | 0 => exhausted
  | fuel + 1 => do
      let before ← get
      next
      match jointAt (← get).rest with
      | none =>
          modify fun source => { source with marks := before.marks }
          return left
      | some (joint, grip, length) =>
          if grip < level then
            modify fun source => { source with marks := before.marks }
            return left
          else
            drop length
            match joint with
            | .comma =>
                let terms ← takeItems tools tools.fuel [left]
                climb fuel level (.listed terms)
            | .choose =>
                let yes ← tools.term 5
                expect ":"
                let no ← tools.term 5
                climb fuel level (.choose left yes no)
            | .assign | .update _ | .settle _ =>
                let right ← tools.term 5
                climb fuel level (joined joint left right)
            | .compute .power =>
                let right ← tools.term 20
                climb fuel level (joined joint left right)
            | .range =>
                let right ← tools.term (grip + 1)
                let number := (← get).rest.length
                climb fuel level (.range number left right)
            | joint =>
                let right ← tools.term (grip + 1)
                climb fuel level (joined joint left right)

/-- A term whose joints bind at least as tightly as a level says. -/
def takeTerm (level : Nat) : Reader Term := do
  if level ≤ 3 then
    if ← takeWordIf "not" then
      return ← climb tools tools.fuel level (.not (← tools.term 3))
  climb tools tools.fuel level (← takeFront tools)

/-- Terms up to a closing parenthesis, or none. -/
def takeTerms : Reader Term := do
  next
  if (← peek) = some ')' then return .listed [] else tools.term 1

/-- Makes routines of names with the values that follow them. -/
def defineConstants : List Term → Reader Unit
  | .constant (.text name) :: value :: rest => do
      let number ← addRoutine name [.evaluate (← get).line value]
      nameRoutine name number
      modify fun source => { source with
        fixed := fullName source.package name :: source.fixed }
      defineConstants rest
  | _ => pure ()

/-- The use of a part of the library. -/
def takeUse (line : Nat) (isOn : Bool) : Reader (List Statement) := do
  next
  let source ← get
  let name := frontWord source.rest
  if name.isEmpty || (name.head? = some 'v' && (name.drop 1).all Char.isDigit) then
    let version := source.rest.takeWhile fun c => c != ';' && c != '\n'
    drop version.length
    let digits := (version.filter fun c => c.isDigit || c = '.')
    let minor : Nat := match digits.splitOn '.' with
      | _ :: minor :: _ => digitsIn 10 (if minor.length = 3 then minor else minor.take 3)
      | _ => 0
    if 12 ≤ minor then modify fun source => { source with isStrict := true }
    return []
  drop name.length
  let arguments ← takeList tools
  match String.ofList name with
  | "strict" =>
      modify fun source => { source with isStrict := isOn, isLoose := source.isLoose || !isOn }
      return []
  | "constant" =>
      match arguments with
      | [.newTable values] =>
          defineConstants (items values)
          return []
      | .constant (.text name) :: values =>
          defineConstants [.constant (.text name), .listed values]
          return []
      | [.listed (.constant (.text name) :: values)] =>
          defineConstants [.constant (.text name), .listed values]
          return []
      | _ => return []
  | "parent" | "base" =>
      let target := Term.name .list (.shared (fullName source.package "ISA"))
      let values := arguments.flatMap items
      let values := values.filter fun term => match term with
        | .constant (.text name) => name != "-norequire".toList
        | _ => true
      let number ← addRoutine "BEGIN" [.evaluate line (.feature "push" (target :: values) line)]
      modify fun source => { source with first := source.first ++ [number] }
      return []
  | "vars" =>
      let names := arguments.flatMap items
      for term in names do
        match term with
        | .constant (.text (c :: name)) =>
            let shape : Shape := if c = '@' then .list else if c = '%' then .table else .scalar
            let _ ← declareShared shape name
        | _ => pure ()
      return []
  | _ =>
      if !isOn || modules.elem name || plainModules.elem name || furtherModules.elem name then
        let given := (arguments.flatMap items).filterMap fun term => match term with
          | .constant (.text word) => some word
          | _ => none
        let usual := (usualNames.lookup name).getD []
        modify fun source => { source with imported := given ++ usual ++ source.imported }
        return []
      else throw (.worded (missing source.path line name ++
        "BEGIN failed--compilation aborted".toList ++ Source.place source.path line ++
        ".\n".toList) 2)

/-- A choice behind the word that begins it. -/
def takeChoice (fuel : Nat) (line : Nat) (isNegated : Bool) : Reader (List Statement) :=
  match fuel with
  | 0 => exhausted
  | fuel + 1 => do
      expect "("
      let condition ← tools.term 1
      expect ")"
      settle
      let yes ← takeBlock tools
      let condition := if isNegated then Term.not condition else condition
      next
      let line' := (← get).line
      if ← takeWordIf "elsif" then
        return [.choose line condition yes (← takeChoice fuel line' false)]
      else if ← takeWordIf "else" then
        return [.choose line condition yes (← takeBlock tools)]
      else return [.choose line condition yes []]

/-- A loop behind the word that begins it: over values, or one that counts. -/
def takeEach (label : Text) (line : Nat) : Reader (List Statement) := do
  next
  let overValues (place : Term) : Reader (List Statement) := do
    expect "("
    let values ← takeList tools
    expect ")"
    settle
    let body ← takeBlock tools
    return [.forEach label line place (.listed values) body]
  let rest := (← get).rest
  if rest.head? = some '$' then
    drop 1
    let base ← takeName tools .text
    overValues (← base.term .scalar)
  else
    let word := frontWord rest
    if word = "my" || word = "our" || word = "state" then
      drop word.length
      let place ← takeDeclaration (if word = "our" then word else "my")
      overValues place
    else
      expect "("
      next
      let first ← if (← peek) = some ';' then pure none else some <$> takeTerms tools
      next
      if (← peek) = some ';' then
        drop 1
        settle
        next
        let condition ← if (← peek) = some ';' then pure none
          else (some ∘ loopCondition) <$> tools.term 1
        expect ";"
        next
        let step ← if (← peek) = some ')' then pure [] else do
          pure [Statement.evaluate line (← tools.term 1)]
        expect ")"
        let body ← takeBlock tools
        let start := (first.map fun term => Statement.evaluate line term).toList
        return start ++ [.loop label line condition false step body]
      else
        expect ")"
        settle
        let body ← takeBlock tools
        return [.forEach label line (.name .scalar (.shared "main::_"))
          (first.getD (.listed [])) body]

/-- A term as a statement, with the condition behind it. -/
def takeSentence : Reader (List Statement) := do
  let line := (← get).line
  let term ← tools.term 1
  next
  let rest := (← get).rest
  let word := frontWord rest
  let statement := Statement.evaluate line term
  let isBlock := match term with
    | .block _ => true
    | _ => false
  let result ← match String.ofList word with
    | "if" => do
        drop word.length
        pure [Statement.choose line (← tools.term 1) [statement] []]
    | "unless" => do
        drop word.length
        pure [Statement.choose line (.not (← tools.term 1)) [statement] []]
    | "while" => do
        drop word.length
        pure [Statement.loop [] line (some (loopCondition (← tools.term 1))) isBlock []
          [statement]]
    | "until" => do
        drop word.length
        pure [Statement.loop [] line (some (.not (← tools.term 1))) isBlock [] [statement]]
    | "for" | "foreach" => do
        drop word.length
        let values ← tools.term 1
        pure [Statement.forEach [] line (.name .scalar (.shared "main::_")) values [statement]]
    | _ => pure [statement]
  next
  match (← get).rest with
  | [] => return result
  | ';' :: _ =>
      drop 1
      return result
  | '\x7d' :: _ => return result
  | _ => fail

/-- A statement behind its label. -/
def takeLabelled (label : Text) : Reader (List Statement) := do
  let { rest, line, .. } ← get
  if rest.head? = some '\x7b' && !(label.isEmpty && opensTable (rest.drop 1)) then
    return [.block label (← takeBlock tools)]
  let word := frontWord rest
  let isKeyedWord := isKeyed (rest.drop word.length)
  match if isKeyedWord then "" else String.ofList word with
  | "if" | "unless" =>
      drop word.length
      inScope (takeChoice tools tools.fuel line (word = "unless"))
  | "while" | "until" =>
      drop word.length
      inScope do
        expect "("
        next
        let condition ← if (← peek) = some ')' then pure none
          else (some ∘ loopCondition) <$> tools.term 1
        expect ")"
        settle
        let body ← takeBlock tools
        let step ← if ← takeWordIf "continue" then takeBlock tools else pure []
        let condition := if word = "until" then condition.map Term.not else condition
        return [.loop label line condition false step body]
  | "for" | "foreach" =>
      drop word.length
      inScope (takeEach tools label line)
  | "sub" =>
      let name := frontWord (behindBlanks (rest.drop 3))
      if name.isEmpty then takeSentence tools
      else
        drop 3
        next
        drop name.length
        let number ← addRoutine (fullName (← get).package name) []
        nameRoutine name number
        setRoutine number (← takeRoutine tools)
        return []
  | "BEGIN" | "END" | "INIT" | "CHECK" | "UNITCHECK" =>
      if (behindBlanks (rest.drop word.length)).head? = some '\x7b' then
        drop word.length
        let number ← addRoutine word (← takeBlock tools)
        modify fun source =>
          if word = "END" then { source with last := number :: source.last }
          else { source with first := source.first ++ [number] }
        return []
      else takeSentence tools
  | "package" =>
      drop word.length
      next
      let name := frontWord (← get).rest
      drop name.length
      next
      if (← peek) = some '\x7b' then
        let outer := (← get).package
        modify fun source => { source with package := name }
        let body ← takeBlock tools
        modify fun source => { source with package := outer }
        return [.block [] body]
      else
        modify fun source => { source with package := name }
        return []
  | "use" | "no" =>
      drop word.length
      takeUse tools line (word = "use")
  | "__END__" | "__DATA__" =>
      let behind := rest.drop (word.length + 1)
      modify fun source => { source with rest := [], attached := some behind }
      return []
  | _ => takeSentence tools

/-- One statement, or what a declaration leaves to do. -/
def takeStatement : Reader (List Statement) := do
  let source ← get
  match isLabel source.rest with
  | some label =>
      drop label.length
      expect ":"
      next
      takeLabelled tools label
  | none => takeLabelled tools []

/-- Statements up to a closing brace or the end. -/
def takeStatements (fuel : Nat) : Reader (List Statement) :=
  match fuel with
  | 0 => exhausted
  | fuel + 1 => do
      next
      match (← get).rest with
      | [] => return []
      | '\x7d' :: _ => return []
      | ';' :: _ =>
          drop 1
          takeStatements fuel
      | _ =>
          let before ← takeStatement tools
          settle
          let behind ← takeStatements fuel
          return before ++ behind

/-- The ways to read terms and statements that lie at most that many levels deep inside one
another. -/
def Tools.ofDepth (fuel : Nat) : (depth : Nat) → Tools
  | 0 => ⟨fun _ => exhausted, exhausted, fuel⟩
  | depth + 1 => {
      term := fun level source => takeTerm (ofDepth fuel depth) level source
      statements := fun source => takeStatements (ofDepth fuel depth) fuel source
      fuel }

/-- How deep reading a text may go. -/
def depthFor (text : Text) : Nat := 2 * text.length + 100

/-- Reads all of a program. -/
def takeProgram : Reader Program := do
  let source ← get
  let depth := depthFor source.rest
  let body ← (Tools.ofDepth depth depth).statements
  let after ← get
  if !after.rest.isEmpty then fail
  if !after.problems.isEmpty then
    throw (.worded (after.problems.reverse.flatten ++ Source.ending after.path) 255)
  return {
    body
    first := after.first
    last := after.last
    routines := after.routines
    named := after.named
    declared := after.declared
    isStrict := after.isStrict && !after.isLoose
    attached := after.attached }

end Reader

/-- Reads what a source consists of, or tells what is wrong with it and the status that this
has. -/
def Program.ofSource (source : Source) : Except (Text × Nat) Program :=
  match Reader.takeProgram.run source with
  | .ok (program, _) => .ok program
  | .error (.worded problem status) => .error (problem, status)
  | .error fault => .error (Source.Fault.message source.path fault, 255)

/-- Reads a program. -/
def Program.ofText (path text : Text) (isStrict : Bool) : Except (Text × Nat) Program :=
  Program.ofSource { Source.ofText path text with isStrict }

/-- Reads a program that another one carries out, with all that the other one consists of. Where it
sees the other one's names, it may use what they stand for. -/
def Program.within (outer : Program) (path text package : Text) (sees : Bool) :
    Except (Text × Nat) Program := do
  let names := outer.declared.toList.zipIdx.map fun ((shape, name), number) =>
    (shape.sigil :: name, Name.own number)
  let program ← Program.ofSource { Source.ofText path text with
    scopes := [if sees then names.reverse else []]
    declared := outer.declared
    routines := outer.routines
    named := outer.named
    package
    isStrict := outer.isStrict && sees }
  return { program with
    last := program.last ++ outer.last
    isStrict := outer.isStrict
    attached := outer.attached }

end ShaderCost.Script.Sigil
