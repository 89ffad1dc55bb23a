import ShaderCost.Calendar.Phrase
import ShaderCost.Script.Utility.Values

/-!
The time of day, and the utility that shows it.
-/

namespace ShaderCost.Script

namespace Clock

/-- The moment at which the first process starts. -/
def start : Calendar.Moment := { seconds := Machine.firstSecond }

/-- The moment that a process has come to. -/
def now (shell : Shell) : Calendar.Moment :=
  { start with
    seconds := start.seconds + (shell.now / 1000 : Nat), nanos := shell.now % 1000 * 1000000 }

/-- The moment for a process that may ask again and again until some moment has come. -/
def ask : Step Calendar.Moment := do
  elapse 1
  return now (← get)

/-- The offset that a zone of the form `NAME-3` or `NAME+2:30` stands for. -/
def offsetOf? (zone : Text) : Option (Text × Int) :=
  let name := zone.takeWhile Char.isAlpha
  match zone.drop name.length with
  | [] => if ["UTC".toList, "GMT".toList, "UCT".toList, []].elem name then some (name, 0) else none
  | sign :: rest =>
      let (isAhead, rest) :=
        if sign = '-' then (true, rest) else if sign = '+' then (false, rest)
          else (false, sign :: rest)
      let parts := (rest.splitOn ':').map Text.nat?
      let away? : Option Nat := match parts with
        | [some hours] => some (hours * 3600)
        | [some hours, some minutes] => some (hours * 3600 + minutes * 60)
        | [some hours, some minutes, some seconds] => some (hours * 3600 + minutes * 60 + seconds)
        | _ => none
      away?.bind fun away =>
        let offset : Int := if isAhead then away else -(away : Int)
        if name.length < 3 then none else some (name, offset)

/-- The zone that a process lives in. A zone that is unknown has no offset. -/
def zone (shell : Shell) : Text × Int :=
  match (shell.environment.get? "TZ").bind offsetOf? with
  | some ([], offset) => ("UTC", offset)
  | some zone => zone
  | none => ("UTC", 0)

/-- A moment as a process shows it. -/
def faceOf (shell : Shell) (moment : Calendar.Moment) : Calendar.Face :=
  let (name, offset) := zone shell
  ⟨{ moment with offset }, name⟩

end Clock

namespace Utility

/-- The formats for the words that say how exact an international date is. -/
def dateForms : List (Text × Text) := [
  ("hours", "%Y-%m-%dT%H%:z"), ("minutes", "%Y-%m-%dT%H:%M%:z"), ("date", "%Y-%m-%d"),
  ("seconds", "%Y-%m-%dT%H:%M:%S%:z"), ("ns", "%Y-%m-%dT%H:%M:%S,%N%:z")]

def dateOptions : Options :=
  ⟨"uRI\x01", "dfrsI\x01", [("utc", 'u'), ("universal", 'u'), ("rfc-email", 'R'),
    ("rfc-2822", 'R'), ("iso-8601", 'I'), ("rfc-3339", '\x01'), ("date", 'd'), ("file", 'f'),
    ("reference", 'r'), ("set", 's')], 1⟩

/-- The format that a call asks for. -/
def dateFormat (call : Call) (given : Option Text) : Except Text Text :=
  let exact (form : Text) (option : Text) (table : List (Text × Text)) : Except Text Text :=
    let form : Text := if form.isEmpty then "date" else form
    match table.filter fun entry => form.isPrefixOf entry.1 with
    | (_, format) :: _ => .ok format
    | [] =>
        let choices := table.flatMap fun entry => "\n  - '".toList ++ entry.1 ++ ['\'']
        .error ("invalid argument ".toList ++ nameInQuotes form ++ " for '--".toList ++ option ++
          "'\nValid arguments are:".toList ++ choices)
  match given, call.value? 'I', call.value? '\x01' with
  | some format, _, _ => .ok format
  | none, some form, _ => exact form "iso-8601" dateForms
  | none, none, some form =>
      exact form "rfc-3339" [("date", "%Y-%m-%d"), ("seconds", "%Y-%m-%d %H:%M:%S%:z"),
        ("ns", "%Y-%m-%d %H:%M:%S.%N%:z")]
  | none, none, none =>
      .ok (if call.has 'R' then "%a, %d %b %Y %H:%M:%S %z" else "%a %b %e %H:%M:%S %Z %Y")

/-- Shows moments. -/
def date : Utility := withCall dateOptions fun name call => do
  let shell ← get
  let (zone, offset) := if call.has 'u' then ("UTC".toList, 0) else Clock.zone shell
  let (formats, others) := call.operands.partition fun operand => operand.head? = some '+'
  match others, formats.drop 1, dateFormat call (formats.head?.map (List.drop 1)) with
  | other :: _, _, _ =>
      if call.has 'd' || call.has 'r' || call.has 'f' then
        complain name ("the argument ".toList ++ nameInQuotes other ++
          " lacks a leading '+';".toList)
        report "when using an option to specify date(s), any non-option"
        report "argument must be a format string beginning with '+'"
        report ("Try '" ++ name ++ " --help' for more information.")
        return 1
      else
        complain name ("invalid date ".toList ++ nameInQuotes other)
        return 1
  | [], extra :: _, _ => refuse name ("extra operand " ++ nameInQuotes extra) 1
  | [], [], .error problem => refuse name problem 1
  | [], [], .ok format =>
      let now : Calendar.Moment := { Clock.now shell with offset }
      let present (moment : Calendar.Moment) : Step Unit :=
        print (Calendar.Face.text ⟨{ moment with offset }, zone⟩ format ++ ['\n'])
      let showPhrase (phrase : Text) : Step Bool := do
        match now.ofPhrase? phrase with
        | some moment =>
            present moment
            return true
        | none =>
            complain name ("invalid date ".toList ++ nameInQuotes phrase)
            return false
      match call.value? 'd', call.value? 'r', call.value? 'f' with
      | some phrase, _, _ => return if ← showPhrase phrase then 0 else 1
      | none, some path, _ =>
          match shell.tree.find (shownText path) with
          | .ok _ =>
              present now
              return 0
          | .error error =>
              complain name (path ++ ": ".toList ++ wording error)
              return 1
      | none, none, some path =>
          match ← contentOrComplain name path with
          | none => return 1
          | some text =>
              let mut status := 0
              for line in bareLines text do
                if !(← showPhrase line) then status := 1
              return status
      | none, none, none =>
          present now
          return 0

end Utility

end ShaderCost.Script
