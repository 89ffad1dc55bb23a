import ShaderCost.Script.Program

/-!
The files that every system has: its programs, the places where a process finds its streams, and
the directories around them.
-/

namespace ShaderCost.Script.Root

def directory (names : List Text) : Node := .directory (names.map fun name => (name, .directory []))

def programs : Node := .directory (Program.names.map fun name => (name, .program name))

/-- The places that stand for streams. -/
def devices : Node := .directory [
  ("null", .null), ("zero", .null), ("tty", .null), ("stdin", .stream 0), ("stdout", .stream 1),
  ("stderr", .stream 2),
  ("fd", .directory [("0", .stream 0), ("1", .stream 1), ("2", .stream 2)])]

/-- The root of a system. -/
def root : Entries := [
  ("bin", programs), ("dev", devices), ("etc", directory []), ("home", directory []),
  ("opt", directory []), ("proc", directory []), ("root", directory []), ("run", directory []),
  ("sbin", directory []), ("sys", directory []), ("tmp", directory []),
  ("usr", .directory [
    ("bin", programs), ("lib", directory []), ("local", directory ["bin", "lib", "sbin", "share"]),
    ("sbin", directory []), ("share", directory [])]),
  ("var", directory ["lib", "log", "tmp"])]

/-- A system with an empty directory in which everything begins. -/
def freshTree (workingDirectory : Location) : FileTree :=
  let path := workingDirectory.flatMap fun name => '/' :: name
  ((⟨root, []⟩ : FileTree).makeDirectories path).2.seenFrom workingDirectory

end ShaderCost.Script.Root
