import ShaderCost.Text.Basic

/-!
The two programmable stages of a shader, with the line that opens a stage's section in a dump and
the file extension by which the offline compiler recognises it.
-/

namespace ShaderCost

inductive Stage where
  | vertex
  | fragment
  deriving DecidableEq

namespace Stage

def marker : Stage → Text
  | vertex => "#ifdef VERTEX"
  | fragment => "#ifdef FRAGMENT"

def fileExtension : Stage → Text
  | vertex => "vert"
  | fragment => "frag"

def title : Stage → Text
  | vertex => "Vertex"
  | fragment => "Fragment"

def word : Stage → Text
  | vertex => "vertex"
  | fragment => "fragment"

/-- The stage whose marker a trimmed line is. -/
def ofMarker? (trimmed : Text) : Option Stage :=
  if trimmed = marker vertex then some vertex
  else if trimmed = marker fragment then some fragment
  else none

end Stage

end ShaderCost
