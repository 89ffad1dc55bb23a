import ShaderCost.Text.Character
import ShaderCost.Text.Lower
import ShaderCost.Files.Tree
import ShaderCost.Files.Path
import ShaderCost.Text.Quoted

/-!
Where the dump of a shader comes from: a directory into which the engine has written dumps, each for
a graphics platform. The offline compiler reads only the platforms whose shader language is GLSL
ES.
-/

namespace ShaderCost

inductive Platform where
  | gles3
  | gles2
  | vulkan
  | metal
  deriving DecidableEq

namespace Platform

def name : Platform → Text
  | gles3 => "OpenGL ES 3"
  | gles2 => "OpenGL ES 2"
  | vulkan => "Vulkan"
  | metal => "Metal"

/-- The short name by which options refer to a platform. -/
def word : Platform → Text
  | gles3 => "gles3"
  | gles2 => "gles2"
  | vulkan => "vulkan"
  | metal => "metal"

def isGlslEs : Platform → Bool
  | gles3 => true
  | gles2 => true
  | vulkan => false
  | metal => false

/-- The lower-case spellings of each platform. -/
def spellings : List (Text × Platform) :=
  [("gles3", gles3), ("gles30", gles3), ("opengl es 3", gles3), ("gles", gles3),
    ("gles2", gles2), ("gles20", gles2), ("opengl es 2", gles2),
    ("vulkan", vulkan), ("vk", vulkan), ("metal", metal)]

/-- Reads a spelling in any case, blanks around it aside. -/
def ofName? (text : Text) : Option Platform :=
  spellings.lookup (Text.lowercase (Text.trim text))

end Platform

end ShaderCost

namespace ShaderCost.Dump

inductive SourceError where
  | notFound (shader : Text)
  | unsupported (platform : Platform)
  | empty (shader : Text)
  | unreadable (path : Text) (cause : FileError)
  deriving DecidableEq

namespace SourceError

def message : SourceError → Text
  | notFound shader => "no compiled source found for shader `" ++ shader ++ "`"
  | unsupported platform =>
      "platform " ++ platform.name ++ " is not supported by the offline compiler"
  | empty shader => "compiled source for shader `" ++ shader ++ "` is empty"
  | unreadable path cause =>
      "failed to read compiled source " ++ Text.quoted path ++ ": " ++ cause.message

/-- What went wrong and why, outermost first. -/
def chain : SourceError → List Text
  | unreadable path cause => [message (unreadable path cause), cause.message]
  | error => [error.message]

end SourceError

/-- The places where the dump of a shader may be: the name taken as a path, then the name and the
safe stem of it in the dump directory. -/
def candidates (directory shader : Text) : List Text :=
  [shader, Path.join directory (shader ++ ".txt"), Path.join directory (safeStem shader ++ ".txt")]

/-- The dump of a shader, from the first of its places that holds something other than a
directory. -/
def fetch (tree : FileTree) (directory shader : Text) (platform : Platform) :
    Except SourceError Text :=
  if !platform.isGlslEs then .error (.unsupported platform)
  else
    match (candidates directory shader).find? fun path =>
        tree.exists? path && !tree.isDirectory path with
    | none => .error (.notFound shader)
    | some path =>
        match tree.readText path with
        | .error cause => .error (.unreadable path cause)
        | .ok text => if Text.isAllBlank text then .error (.empty shader) else .ok text

end ShaderCost.Dump
