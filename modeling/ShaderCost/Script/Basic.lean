import ShaderCost.Files.Tree
import ShaderCost.Text.Numeral
import ShaderCost.Text.Octets

/-!
Texts as scripts see them. Scripts, their arguments and their output are octets; inside this folder
a text has one character for each octet, the one with that code point.
-/

namespace ShaderCost.Script

/-- One character for each octet. -/
def spread (octets : Octets) : Text := octets.toList.map fun octet => Char.ofNat octet.toNat

def gather (text : Text) : Octets := ⟨(text.map fun c => UInt8.ofNat c.toNat).toArray⟩

/-- The octets of a text, one character for each. -/
def spreadText (text : Text) : Text := spread (Text.toOctets text)

/-- The text that octets spell, as far as they are well-formed. -/
def shownText (text : Text) : Text := Text.ofOctetsLossy (gather text)

def isNameStart (c : Char) : Bool := c.isAlpha || c == '_'

def isNameChar (c : Char) : Bool := c.isAlphanum || c == '_'

/-- Whether a text can name a variable. -/
def isName (text : Text) : Bool := text.head?.any isNameStart && text.all isNameChar

/-- Parameters whose name is one character other than a letter or a digit. -/
def isSpecialParameter (c : Char) : Bool := "#?$!-*@".toList.contains c

def isSpace (c : Char) : Bool := c == ' ' || c == '\t' || c == '\n'

/-- Blanks as numbers have them around them. -/
def isBlankOctet (c : Char) : Bool := c == ' ' || ('\t' ≤ c && c ≤ '\r')

/-- The name and the value of a text that is an assignment. -/
def assignment? (text : Text) : Option (Text × Text) :=
  (Text.splitAt? '=' text).filter fun (name, _) => isName name

def isOctalDigit (c : Char) : Bool := '0' ≤ c && c ≤ '7'

def isHexDigit (c : Char) : Bool :=
  c.isDigit || ('a' ≤ c && c ≤ 'f') || ('A' ≤ c && c ≤ 'F')

/-- The value of a hexadecimal digit, and so of any smaller one. -/
def digitValue (c : Char) : Nat :=
  if c.isDigit then c.toNat - '0'.toNat
  else if 'a' ≤ c && c ≤ 'f' then c.toNat - 'a'.toNat + 10
  else if 'A' ≤ c && c ≤ 'F' then c.toNat - 'A'.toNat + 10
  else 0

/-- A character that is written by its code. Characters above the first 128 are written as codes
again, because texts are octets. -/
def writtenCode (code : Nat) : Text :=
  let digits (least : Nat) : Text :=
    let shown := (Nat.toDigits 16 code).map Char.toUpper
    List.replicate (least - shown.length) '0' ++ shown
  if code < 128 then [Char.ofNat code]
  else if code < 65536 then '\\' :: 'u' :: digits 4
  else '\\' :: 'U' :: digits 8

def digitsIn (base : Nat) (digits : Text) : Nat :=
  digits.foldl (fun value c => base * value + digitValue c) 0

end ShaderCost.Script

/-!
Whole numbers of 64 bits as scripts write them: in decimal, or, where that is allowed, in base
eight after a zero and in base sixteen after a zero and an x.
-/

namespace ShaderCost.Script.Numeral

/-- A number at the front of a text. -/
structure Reading where
  /-- The number, or the nearest one that is allowed. -/
  value : Int
  fits : Bool
  rest : Text

def greatest : Int := (twoTo 63 : Nat) - 1

def least : Int := -(twoTo 63 : Nat)

/-- The digits at the front of a text, with their base. -/
def takeDigits (anyBase : Bool) (text : Text) : Nat × Text :=
  match text with
  | '0' :: x :: digit :: _ =>
      if anyBase && (x = 'x' || x = 'X') && isHexDigit digit then
        (16, (text.drop 2).takeWhile isHexDigit)
      else (if anyBase then 8 else 10, text.takeWhile fun c =>
        c.isDigit && (!anyBase || isOctalDigit c))
  | '0' :: _ => (if anyBase then 8 else 10, text.takeWhile fun c =>
      c.isDigit && (!anyBase || isOctalDigit c))
  | _ => (10, text.takeWhile Char.isDigit)

/-- Reads a number between two bounds behind blanks and a sign, if there is one. -/
def readWithin? (least greatest : Int) (anyBase : Bool) (text : Text) : Option Reading :=
  let text := text.dropWhile isBlankOctet
  let (isNegative, text) : Bool × Text := match text with
    | '-' :: rest => (true, rest)
    | '+' :: rest => (false, rest)
    | _ => (false, text)
  let (base, digits) := takeDigits anyBase text
  if digits.isEmpty then none
  else
    let magnitude : Int := digitsIn base digits
    let value := if isNegative then -magnitude else magnitude
    let length := digits.length + if base = 16 then 2 else 0
    some ⟨max least (min greatest value), least ≤ value && value ≤ greatest, text.drop length⟩

def read? (anyBase : Bool) (text : Text) : Option Reading :=
  readWithin? least greatest anyBase text

/-- The number that a text spells, with blanks around it if need be. -/
def ofText? (anyBase : Bool) (text : Text) : Option Int := do
  let reading ← read? anyBase text
  if reading.fits && (reading.rest.dropWhile isBlankOctet).isEmpty then return reading.value
  else none

/-- The natural of at most 31 bits that a text of digits spells. -/
def count? (text : Text) : Option Nat := Text.natBelow? (twoTo 31) text

end ShaderCost.Script.Numeral

/-!
Where programs are looked for: a list of directories with colons between them.
-/

namespace ShaderCost.Script.SearchPath

/-- Where programs are looked for unless a script says otherwise. -/
def standard : Text := "/usr/local/sbin:/usr/local/bin:/usr/sbin:/usr/bin:/sbin:/bin"

/-- The paths that a name may mean. An empty entry is the directory that the process is in. -/
def places (directories name : Text) : List Text :=
  (directories.splitOn ':').map fun directory =>
    if directory.isEmpty then name else directory ++ '/' :: name

/-- Whether a path leads to something that may be carried out. -/
def isExecutable (tree : FileTree) (path : Text) : Bool :=
  match tree.find (shownText path) with
  | .ok (.program _) => true
  | .ok (.file _ executable) => executable
  | _ => false

/-- The path of a program: the name itself if it has a slash, or else the first of the places where
it may be carried out. -/
def find (tree : FileTree) (directories name : Text) : Except FileError Text :=
  if '/' ∈ name then .ok name
  else
    let places := places directories name
    match places.find? (isExecutable tree) with
    | some path => .ok path
    | none =>
        if places.any fun path => tree.exists? (shownText path) then .error .denied
        else .error .missing

end ShaderCost.Script.SearchPath
