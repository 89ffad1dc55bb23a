import ShaderCost.Script.Utility.Characters
import ShaderCost.Script.Utility.Clock
import ShaderCost.Script.Utility.Columns
import ShaderCost.Script.Utility.Comparison
import ShaderCost.Script.Utility.Search
import ShaderCost.Script.Utility.Octets
import ShaderCost.Script.Utility.Editing
import ShaderCost.Script.Utility.Entries
import ShaderCost.Script.Utility.Figures
import ShaderCost.Script.Utility.Lines
import ShaderCost.Script.Utility.Matching
import ShaderCost.Script.Utility.Paths
import ShaderCost.Script.Utility.Values

/-!
Utilities that tell of the user and of the system that the processes live in.
-/

namespace ShaderCost.Script.Utility

def nproc : Utility := withCall ⟨"a", "i", [("all", 'a'), ("ignore", 'i')], 1⟩ fun name call => do
  match call.operands, (call.value? 'i').map Text.nat? with
  | extra :: _, _ => refuse name ("extra operand ".toList ++ nameInQuotes extra) 1
  | [], some none =>
      complain name ("invalid number: ".toList ++ nameInQuotes ((call.value? 'i').getD []))
      return 1
  | [], ignored =>
      print (Text.ofNat (max 1 (4 - (ignored.getD none).getD 0)) ++ ['\n'])
      return 0

def whoami : Utility := withCall ⟨[], [], [], 1⟩ fun name call => do
  match call.operands with
  | extra :: _ => refuse name ("extra operand ".toList ++ nameInQuotes extra) 1
  | [] =>
      print (Status.owner ++ ['\n'])
      return 0

/-- Tells who the user is. -/
def id : Utility := withCall ⟨"ugGnrz", [], [("user", 'u'), ("group", 'g'), ("groups", 'G'),
    ("name", 'n'), ("real", 'r'), ("zero", 'z')], 1⟩ fun name call => do
  let number := Text.ofNat Status.ownerNumber
  let isPart := call.has 'u' || call.has 'g' || call.has 'G'
  if !isPart && call.has 'n' then
    complain name "cannot print only names or real IDs in default format"
    return 1
  match call.operands.find? fun user => user != Status.owner && user != "root".toList with
  | some user =>
      complain name (nameInQuotes user ++ ": no such user".toList)
      return 1
  | none =>
      let both := number ++ '(' :: Status.owner ++ [')']
      print ((if !isPart then
        "uid=".toList ++ both ++ " gid=".toList ++ both ++ " groups=".toList ++ both
        else if call.has 'n' then Status.owner else number) ++ ['\n'])
      return 0

def groups : Utility := fun _ _ => do
  print (Status.owner ++ ['\n'])
  return 0

def hostname : Utility := fun _ _ => do
  print "localhost\n"
  return 0

def arch : Utility := fun _ _ => do
  print "x86_64\n"
  return 0

def logname : Utility := fun name _ => do
  complain name "no login name"
  return 1

/-- Names the terminal, which is none. -/
def tty : Utility := withCall ⟨"s", [], [("silent", 's'), ("quiet", 's')], 2⟩ fun _ call => do
  if !call.has 's' then print "not a tty\n"
  return 1

def sync : Utility := fun _ _ => return 0

/-- The utilities of this module by their names. -/
def ofSurroundings : List (Text × Utility) := [
  ("nproc", nproc), ("whoami", whoami), ("id", id), ("groups", groups), ("hostname", hostname),
  ("arch", arch), ("logname", logname), ("tty", tty), ("sync", sync)]

end ShaderCost.Script.Utility

/-!
The utilities by their names.
-/

namespace ShaderCost.Script.Utility

/-- Utilities on the lines and the characters of texts. -/
def ofTexts : List (Text × Utility) := [
  ("cat", cat), ("head", head), ("tail", tail), ("wc", wc), ("sort", sort), ("uniq", uniq),
  ("tac", tac), ("rev", rev), ("tee", tee), ("yes", yes), ("tr", tr), ("cut", cut),
  ("fold", fold), ("paste", paste), ("nl", nl), ("grep", grep),
  ("egrep", grep), ("fgrep", grep), ("sed", sed), ("comm", comm), ("join", join),
  ("diff", diff), ("expand", expand), ("unexpand", unexpand), ("tsort", tsort), ("shuf", shuf)]

/-- Utilities on values. -/
def ofValues : List (Text × Utility) := [
  ("basename", basename), ("dirname", dirname), ("seq", seq), ("sleep", sleep),
  ("printenv", printenv), ("uname", uname), ("which", which), ("echo", echo),
  ("printf", printf), ("true", succeed), ("false", failAlways), ("test", test), ("[", test),
  ("pwd", pwd), ("expr", expr), ("date", date), ("factor", factor),
  ("numfmt", numfmt)]

/-- Utilities on files and directories. -/
def ofEntries : List (Text × Utility) := [
  ("mkdir", mkdir), ("rmdir", rmdir), ("rm", rm), ("touch", touch), ("cp", cp), ("mv", mv),
  ("ln", ln), ("ls", ls), ("chmod", chmod), ("mktemp", mktemp),
  ("stat", stat), ("realpath", realpath), ("readlink", readlink), ("unlink", unlink),
  ("truncate", truncate), ("split", split), ("dd", dd)]

/-- Utilities on octets. -/
def ofOctets : List (Text × Utility) := [
  ("od", od), ("cmp", cmp), ("base64", inAlphabet Alphabet.base64),
  ("base32", inAlphabet Alphabet.base32), ("cksum", cksum), ("sum", sum),
  ("md5sum", digestBy Digests.md5), ("sha1sum", digestBy Digests.sha1),
  ("sha224sum", digestBy Digests.sha224), ("sha256sum", digestBy Digests.sha256),
  ("sha384sum", digestBy Digests.sha384), ("sha512sum", digestBy Digests.sha512)]

def table : List (Text × Utility) :=
  ofTexts ++ ofValues ++ ofEntries ++ ofOctets ++ ofSurroundings

end ShaderCost.Script.Utility
