import ShaderCost.Stage
import ShaderCost.Text.Character

/-!
The lines of a dump, and its balanced regions. A carriage return, a line feed or any run of them
ends a line, and a line is never empty. A region starts at a given line and runs to the end marker
that closes it; every conditional inside opens one more level that an end marker has to close first.
A region that is never closed runs to the end of the lines.
-/

namespace ShaderCost.Dump

def isLineEnd (c : Char) : Bool := c == '\n' || c == '\r'

def lines (text : Text) : List Text :=
  (text.splitOnP isLineEnd).filter fun piece => !piece.isEmpty

def endMarker : Text := "#endif"

/-- Whether a line opens a conditional, in any of its spellings. -/
def opensBlock (line : Text) : Bool := "#if".toList.isPrefixOf (Text.trim line)

/-- Lines of one region, the first and the closing line included. -/
structure Region where
  lines : List Text
  /-- False when the lines ended before the region was closed. -/
  balanced : Bool
  deriving DecidableEq

namespace Region

/-- Puts a line in front of a region and of what follows it. -/
def push (line : Text) (result : Region × List Text) : Region × List Text :=
  (⟨line :: result.1.lines, result.1.balanced⟩, result.2)

/-- What belongs to a region after its first line, and the lines after it. `depth` counts the
conditionals open inside the region. -/
def interior (closer : Text) : (depth : Nat) → List Text → Region × List Text
  | _, [] => (⟨[], false⟩, [])
  | depth, line :: following =>
      if opensBlock line then push line (interior closer (depth + 1) following)
      else if Text.trim line = closer then
        match depth with
        | 0 => (⟨[line], true⟩, following)
        | depth + 1 => push line (interior closer depth following)
      else push line (interior closer depth following)

/-- The region that starts at the first line, whatever that line holds, and the lines after it. -/
def takeFrom (closer : Text) : List Text → Region × List Text
  | [] => (⟨[], false⟩, [])
  | first :: following => push first (interior closer 0 following)

/-- The region that starts at the line with the given index. -/
def capture (lines : List Text) (start : Nat) (closer : Text) : Region :=
  (takeFrom closer (lines.drop start)).1

/-- The index of the first line after a region that starts at `start`. -/
def nextIndex (start : Nat) (region : Region) : Nat := start + region.lines.length

/-- The source text in a region: its lines without the first and the last one and without those
that are blank. -/
def source (region : Region) : Text :=
  if region.lines.length < 2 then []
  else
    let inner := region.lines.tail.dropLast
    let joined := Text.joinLines (inner.filter fun line => !Text.isAllBlank line)
    (joined.reverse.dropWhile isLineEnd).reverse

end Region

/-- The source in the first region that a line equal to `opener`, blanks around it aside, opens;
empty when there is none. -/
def extractSection (text opener closer : Text) : Text :=
  if text.isEmpty || opener.isEmpty || closer.isEmpty then []
  else
    let fromOpener := (lines text).dropWhile fun line => Text.trim line != opener
    (Region.takeFrom closer fromOpener).1.source

def extractStage (text : Text) (stage : Stage) : Text :=
  extractSection text stage.marker endMarker

theorem Region.interior_rest_length (closer : Text) (depth : Nat) (lines : List Text) :
    (Region.interior closer depth lines).2.length ≤ lines.length := by
  fun_induction Region.interior closer depth lines <;>
    simp_all only [Region.push, List.length_cons, List.length_nil] <;> omega

theorem Region.takeFrom_rest_length (closer first : Text) (following : List Text) :
    (Region.takeFrom closer (first :: following)).2.length ≤ following.length :=
  Region.interior_rest_length closer 0 following

end ShaderCost.Dump
