import ShaderCost.Text.Character
import ShaderCost.Text.Word

/-!
Metadata lines of a dump: the lines between sections that name a pass or list keywords. Six
shapes of line carry metadata. Words in them may be written in any case.
-/

namespace ShaderCost.Dump

/-- What a metadata line says. -/
inductive Metadata where
  | pass (name : Text)
  /-- A pass given by its position alone. -/
  | samePass
  | globalKeywords (keywords : Text)
  | localKeywords (keywords : Text)
  deriving DecidableEq

namespace Metadata

open Text

/-- The text between double quotes that starts right here. -/
def quotedName? (text : Text) : Option Text := do
  let inside ← after? "\"" text
  let (name, _) ← splitAt? '"' inside
  return name

/-- The word `Name`, blanks, and a name in double quotes. -/
def nameClause? (text : Text) : Option Text := do
  let afterWord ← afterFolded? "name" text
  let value ← afterBlanks? afterWord
  quotedName? value

/-- A pass block that opens with its name, such as `Pass { Name "FORWARD"`. -/
def inlinePassName? (line : Text) : Option Metadata := do
  let afterWord ← afterFolded? "pass" (trimStart line)
  let inside ← after? "\x7b" (trimStart afterWord)
  let name ← nameClause? (trimStart inside)
  return .pass name

/-- A line that starts with the name clause, such as `Name "ShadowCaster"`. -/
def nameLine? (line : Text) : Option Metadata := do
  let name ← nameClause? (trimStart line)
  return .pass name

/-- A line such as `Pass: DepthOnly`; the name ends where the line does. -/
def passLine? (line : Text) : Option Metadata := do
  let afterWord ← afterFolded? "pass" (trimStart line)
  let value ← after? ":" (trimStart afterWord)
  let name := trim value
  if '\n' ∈ name then none else some (.pass name)

/-- The text after a number that starts here and ends as a word does. -/
def afterNumber? (text : Text) : Option Text :=
  let rest := text.dropWhile isDecimalDigit
  if (text.takeWhile isDecimalDigit).isEmpty || !endsWord rest then none else some rest

/-- The text after a word and the number that follows it, such as `pass 1`. -/
def afterNumbered? (word text : Text) : Option Text := do
  let afterWord ← afterFolded? word text
  let number ← afterBlanks? afterWord
  afterNumber? number

/-- The text after the first `pass` with a number on the same line that starts a word.
`inWord` tells whether the character before this text belongs to a word. -/
def afterPassNumber? : (inWord : Bool) → Text → Option Text
  | _, [] => none
  | inWord, c :: rest =>
      match if inWord then none else afterNumbered? "pass" (c :: rest) with
      | some behind => some behind
      | none => if c = '\n' then none else afterPassNumber? (isWord c) rest

/-- The text between apostrophes that comes next, blanks aside. -/
def apostrophedName? (text : Text) : Option Text := do
  let inside ← after? "'" (trimStart text)
  let (name, _) ← splitAt? '\'' inside
  return name

/-- What comes before the first word of a line is decoration, such as a comment mark. -/
def dropDecoration (line : Text) : Text := line.dropWhile fun c => !isWord c

/-- A line such as `// Subshader 0, pass 1 'Meta'`; the name may be missing. -/
def subshaderPass? (line : Text) : Option Metadata := do
  let afterSubshader ← afterNumbered? "subshader" (dropDecoration line)
  let behind ← afterPassNumber? true afterSubshader
  return match apostrophedName? behind with
    | some name => .pass name
    | none => .samePass

/-- The list after `Keywords:` up to the end of the line. -/
def keywordList? (text : Text) : Option Text := do
  let afterWord ← afterFolded? "keywords" text
  let list ← after? ":" (trimStart afterWord)
  if '\n' ∈ list then none else some (trim list)

/-- A line such as `Local Keywords: _NORMALMAP`. -/
def localKeywords? (line : Text) : Option Metadata := do
  let afterLocal ← afterFolded? "local" (dropDecoration line)
  let list ← afterBlanks? afterLocal
  return .localKeywords (← keywordList? list)

/-- A line such as `Keywords: FOG_LINEAR` or `Global Keywords: FOG_LINEAR`. -/
def globalKeywords? (line : Text) : Option Metadata := do
  let content := dropDecoration line
  let list := match (afterFolded? "global" content).bind afterBlanks? with
    | some list => list
    | none => content
  return .globalKeywords (← keywordList? list)

/-- The six shapes of a metadata line. -/
def shapes : List (Text → Option Metadata) :=
  [inlinePassName?, nameLine?, passLine?, subshaderPass?, localKeywords?, globalKeywords?]

/-- The metadata of a line, read in the first shape that it has. -/
def ofLine? (line : Text) : Option Metadata := shapes.findSome? fun shape => shape line

end Metadata

/-- The metadata in effect at one place of a dump. -/
structure Context where
  passName : Text
  globalKeywords : Text
  localKeywords : Text
  deriving DecidableEq

/-- The name of a pass until the dump gives one. -/
def unnamedPass : Text := "(unnamed)"

namespace Context

def initial : Context := ⟨unnamedPass, [], []⟩

def apply (context : Context) : Metadata → Context
  | .pass name => { context with passName := name }
  | .samePass => context
  | .globalKeywords keywords => { context with globalKeywords := keywords }
  | .localKeywords keywords => { context with localKeywords := keywords }

/-- The context after a line, whether or not the line carries metadata. -/
def observe (context : Context) (line : Text) : Context :=
  match Metadata.ofLine? line with
  | some metadata => context.apply metadata
  | none => context

end Context

end ShaderCost.Dump
