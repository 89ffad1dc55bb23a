import ShaderCost.Script.Utility.Basic
import ShaderCost.Script.Process
import ShaderCost.Script.Utility.Finding
import ShaderCost.Script.Utility.Supply

/-!
Utilities that carry out another program under a condition: for a limited time, whatever signals
come, with more patience, or with other buffers. A text may stand for several arguments of such a
program: blanks divide them, quotes keep blanks, backslashes spell characters, and variables are put
in.
-/

namespace ShaderCost.Script.Utility

namespace Splitting

/-- What was divided so far. -/
structure State where
  /-- The arguments that are complete, the last one first. -/
  done : List Text
  /-- The argument in the making with its last character first, if there is one. -/
  current : Option Text
  quote : Option Char

namespace State

def start : State := ⟨[], none, none⟩

/-- Puts characters to the argument in the making, or begins one. -/
def put (state : State) (text : Text) : State :=
  { state with current := some (text.reverse ++ state.current.getD []) }

/-- Completes the argument in the making. -/
def divide (state : State) : State :=
  { state with done := (state.current.map List.reverse).toList ++ state.done, current := none }

def finish (state : State) : Except Text (List Text) :=
  if state.quote.isSome then .error "no terminating quote in -S string"
  else .ok state.divide.done.reverse

end State

/-- Characters that letters behind a backslash spell. -/
def spelled : List (Char × Char) := [
  ('"', '"'), ('#', '#'), ('$', '$'), ('\'', '\''), ('\\', '\\'), ('f', '\x0c'), ('n', '\n'),
  ('r', '\r'), ('t', '\t'), ('v', '\x0b')]

/-- The name between braces behind a dollar sign, with what follows. -/
def name? : Text → Option (Text × Text)
  | '\x7b' :: rest =>
      let name := rest.takeWhile (· != '\x7d')
      match rest.drop name.length with
      | '\x7d' :: behind =>
          let isProper := name.all (fun c => c.isAlphanum || c = '_') &&
            (name.head?.map fun c => !c.isDigit).getD false
          if isProper then some (name, behind) else none
      | _ => none
  | _ => none

/-- Divides a text. `valueOf` gives the values of variables. -/
def divide (valueOf : Text → Text) : (fuel : Nat) → State → Text → Except Text (List Text)
  | 0, state, _ | _ + 1, state, [] => state.finish
  | fuel + 1, state, c :: rest =>
      let literal : Except Text (List Text) := divide valueOf fuel (state.put [c]) rest
      match c, state.quote with
      | '\'', some '"' | '"', some '\'' => literal
      | '\'', quote | '"', quote =>
          let state := { state.put [] with quote := if quote.isSome then none else some c }
          divide valueOf fuel state rest
      | '#', none => if state.current.isNone then state.finish else literal
      | '$', some '\'' => literal
      | '$', _ =>
          match name? rest with
          | some (name, behind) => divide valueOf fuel (state.put (valueOf name)) behind
          | none =>
              .error ("only $\x7bVARNAME\x7d expansion is supported, error at: $".toList ++ rest)
      | '\\', quote =>
          match rest, quote with
          | d :: behind, some '\'' =>
              if d = '\\' || d = '\'' then divide valueOf fuel (state.put [d]) behind
              else literal
          | [], some '\'' => literal
          | [], _ => .error "invalid backslash at end of string in -S"
          | '_' :: behind, none => divide valueOf fuel state.divide behind
          | '_' :: behind, some _ => divide valueOf fuel (state.put [' ']) behind
          | 'c' :: _, none => state.finish
          | 'c' :: _, some _ => .error "'\\c' must not appear in double-quoted -S string"
          | d :: behind, _ =>
              match spelled.lookup d with
              | some made => divide valueOf fuel (state.put [made]) behind
              | none => .error ("invalid sequence '\\".toList ++ d :: "' in -S".toList)
      | c, none =>
          if isSpace c || c = '\x0b' || c = '\x0c' || c = '\r' then
            divide valueOf fuel state.divide rest
          else literal
      | _, some _ => literal

/-- Arguments with those in the place of an option that asks for a text to be divided. Operands and
what follows them stay as they are; the options that take a value are told. -/
def expand (valued : Text) (valueOf : Text → Text) : (fuel : Nat) → List Text →
    Except Text (List Text)
  | 0, arguments => .ok arguments
  | _ + 1, [] => .ok []
  | fuel + 1, argument :: rest =>
      let divided (text : Text) (rest : List Text) : Except Text (List Text) := do
        let words ← divide valueOf (text.length + 1) .start text
        expand valued valueOf fuel (words ++ rest)
      let kept : Except Text (List Text) := do
        return argument :: (← expand valued valueOf fuel rest)
      match argument with
      | ['-'] | ['-', '-'] => .ok (argument :: rest)
      | '-' :: '-' :: word =>
          match Text.after? "split-string" word, rest with
          | some ('=' :: text), _ => divided text rest
          | some [], text :: rest => divided text rest
          | _, _ => kept
      | '-' :: letters =>
          let front := letters.takeWhile fun c => c != 'S' && !valued.elem c
          match letters.drop front.length, rest with
          | ['S'], text :: rest =>
              if front.isEmpty || front = "v" then divided text rest
              else (('-' :: front) :: ·) <$> divided text rest
          | 'S' :: text, rest =>
              if front.isEmpty || front = "v" then divided text rest
              else (('-' :: front) :: ·) <$> divided text rest
          | [_], value :: rest => do
              return argument :: value :: (← expand valued valueOf fuel rest)
          | _, _ => kept
      | _ => .ok (argument :: rest)

end Splitting

/-- Carries out a program as all that the process does from here on, or complains. -/
def handOver (start : Starter) (name action : Text) : List Text → Step Nat
  | program :: arguments => do
      let (cause, status) ← start program arguments
      complain name (action ++ nameInQuotes program ++ ": ".toList ++ cause)
      return status
  | [] => refuse name "missing operand" 125

namespace Limited

/-- The pipes that a process writes to, without what came later than a time. -/
def withoutLater (limit : Nat) (shell : Shell) (machine : Machine) : Machine :=
  shell.channels.foldl (fun machine (_, channel) =>
    match channel with
    | .pipe number =>
        match machine.pipes.lookup number with
        | some pipe => machine.setPipe number
            { pipe with written := pipe.written.filter fun (time, _) => decide (time ≤ limit) }
        | none => machine
    | _ => machine) machine

/-- Takes back what was written later than a time since an earlier state. -/
def takeBack (limit : Nat) (before after : Shell) : Shell :=
  let machine := after.machine
  let count := machine.printed.length - before.machine.printed.length
  let recent := (machine.printed.take count).filter fun chunk => decide (chunk.time ≤ limit)
  let machine := { machine with printed := recent ++ machine.printed.drop count }
  { after with machine := withoutLater limit before machine }

/-- How much work is done in a millisecond at most. -/
def effortPerMilli : Nat := 500

/-- Carries out a program for a limited time. The first value tells whether it came to its end. -/
def carryOut (start : Starter) (name : Text) (millis : Nat) (words : List Text) :
    Step (Bool × Finished × Nat) := do
  let before ← get
  let effort := before.machine.effort
  let isFree := millis = 0
  let share := if isFree then effort else min (effort / 2) (millis * effortPerMilli)
  modify fun shell => { shell with machine := { shell.machine with effort := share } }
  let (finished, isEndless) ← fork false do
    setStatus (← handOver start name "failed to run command " words)
    throw .exited
  modify fun shell => { shell with machine := { shell.machine with
    effort := shell.machine.effort + (effort - share) } }
  if isFree && isEndless then Process.waitForever finished
  let limit := before.now + startMillis + millis
  if isFree || (!isEndless && finished.time ≤ limit) then
    awaitTime finished.time
    receive
    return (true, finished, limit)
  else
    modify (takeBack limit before)
    awaitTime limit
    return (false, finished, limit)

end Limited

/-- Carries out a program and ends it when its time is up. -/
def timeout (start : Starter) : Utility := fun name arguments => do
  let known : Options := ⟨"fv\x01", "ks", [("foreground", 'f'), ("verbose", 'v'),
    ("preserve-status", '\x01'), ("kill-after", 'k'), ("signal", 's')], 125⟩
  match known.read true (arguments.length + 1) arguments with
  | .error problem => refuse name problem 125
  | .ok call =>
      let asked : Text := (call.value? 's').getD "TERM"
      let title := (Text.after? "SIG" asked).getD asked
      match call.operands, Signal.ofText? title, (call.value? 'k').map duration? with
      | [], _, _ | [_], _, _ =>
          report ("Try '" ++ name ++ " --help' for more information.")
          return 125
      | _, none, _ => refuse name (nameInQuotes asked ++ ": invalid signal".toList) 125
      | _, _, some none =>
          refuse name ("invalid time interval ".toList ++ nameInQuotes ((call.value? 'k').getD []))
            125
      | time :: words, some signal, _ =>
          match duration? time with
          | none => refuse name ("invalid time interval ".toList ++ nameInQuotes time) 125
          | some millis =>
              let (isDone, finished, _) ← Limited.carryOut start name millis words
              if isDone then
                match finished.signal with
                | some signal => throw (.killed signal)
                | none => return finished.status
              else
                if call.has 'v' then
                  complain name ("sending signal ".toList ++ (Signal.name signal) ++
                    " to command ".toList ++ nameInQuotes (words.headD []))
                if signal = 9 then throw (.killed 9)
                return if call.has '\x01' then 128 + signal else 124

/-- Carries out a program that goes on when its terminal goes away; there is none. -/
def nohup (start : Starter) : Utility := fun name arguments =>
  handOver start name "failed to run command "
    (if arguments.head? = some ['-', '-'] then arguments.tail else arguments)

/-- Carries out a program with more patience, of which nothing is seen. -/
def nice (start : Starter) : Utility := fun name arguments => do
  let arguments := match arguments with
    | ('-' :: digit :: rest) :: others =>
        if digit.isDigit then "-n".toList :: (digit :: rest) :: others else arguments
    | _ => arguments
  let known : Options := ⟨[], "n", [("adjustment", 'n')], 125⟩
  match known.read true (arguments.length + 1) arguments with
  | .error problem => refuse name problem 125
  | .ok call =>
      match call.value? 'n', (call.value? 'n').bind (Numeral.ofText? false) with
      | some text, none =>
          complain name ("invalid adjustment ".toList ++ nameInQuotes text)
          return 125
      | _, _ =>
          if call.operands.isEmpty then
            print "0\n"
            return 0
          else handOver start name [] call.operands

/-- Carries out a program with other buffers, of which nothing is seen. -/
def stdbuf (start : Starter) : Utility := fun name arguments => do
  let known : Options := ⟨[], "ioe", [("input", 'i'), ("output", 'o'), ("error", 'e')], 125⟩
  match known.read true (arguments.length + 1) arguments with
  | .error problem => refuse name problem 125
  | .ok call =>
      let isMode (text : Text) : Bool := text = "L" || text.head?.any Char.isDigit
      match call.options.find? fun option => !isMode option.2 with
      | some (_, text) =>
          complain name ("invalid mode ".toList ++ nameInQuotes text)
          return 125
      | none =>
          if call.operands.isEmpty then refuse name "missing operand" 125
          else if call.options.isEmpty then
            refuse name "you must specify a buffering mode option" 125
          else handOver start name "failed to run command " call.operands

/-- Carries out a program as the first one of a session. -/
def setsid (start : Starter) : Utility := fun name arguments => do
  let words := arguments.dropWhile fun argument => argument.head? = some '-'
  if words.isEmpty then
    complain name "no command specified"
    return 1
  else handOver start name "failed to execute " words

/-- The utilities that carry out other programs, by their names. -/
def attended : List (Text × (Starter → Utility)) := [
  ("find", find), ("timeout", timeout), ("nohup", nohup), ("nice", nice), ("stdbuf", stdbuf),
  ("setsid", setsid), ("xargs", xargs)]

end ShaderCost.Script.Utility
