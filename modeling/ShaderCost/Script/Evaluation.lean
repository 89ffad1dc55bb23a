import ShaderCost.Script.Condition
import ShaderCost.Script.Simple

/-!
Commands as they are carried out. Compound commands decide by statuses and repeat; how deep
commands may lie inside one another is bounded, and a script that goes deeper is ended like one
whose memory is used up.
-/

namespace ShaderCost.Script

namespace Evaluation

/-- Carries out a round of a loop. The result tells whether there may be another one. -/
def round (action : Step Unit) : Step Bool := do
  match ← Step.attempt action with
  | none | some (.continued 0) => return true
  | some (.brokeOff 0) => return false
  | some (.continued (levels + 1)) => throw (.continued levels)
  | some (.brokeOff (levels + 1)) => throw (.brokeOff levels)
  | some halt => throw halt

def inLoop (action : Step Unit) : Step Unit :=
  Step.restoring (do
    modify fun shell => { shell with loops := shell.loops + 1 }
    action)
    fun before after => { after with loops := before.loops }

/-- How many rounds of a loop take a thousandth of a second. -/
def roundsPerMilli : Nat := 128

/-- Lets some time go by now and then, by the number of rounds that are left. -/
def passTime (left : Nat) : Step Unit := do
  spend 1
  if left % roundsPerMilli = 0 then elapse 1

/-- Repeats a body while its condition has the wanted outcome. `status` is that of the last round,
which the loop has in the end. -/
def rounds (run : Evaluator) (isTested wanted : Bool) (condition body : Command) :
    (limit status : Nat) → Step Unit
  | 0, _ => throw .late
  | limit + 1, status => do
      passTime limit
      let goesOn ← round (run true condition)
      if !goesOn then setStatus status
      else
        if (← succeeded) != wanted then setStatus status
        else if ← round (run isTested body) then
          rounds run isTested wanted condition body limit (← get).status
        else pure ()

/-- A value that a command of the language computes, unless that fails. Messages name the
command. -/
def computed {α : Type} (name : String) (action : Step α) : Step (Option α) := do
  let outer := (← get).command
  modify fun shell => { shell with command := some name.toList }
  let result ← fun shell => match action shell with
    | (.ok value, after) => (.ok (some value), after)
    | (.error .failed, after) => (.ok none, after)
    | (.error halt, after) => (.error halt, after)
  modify fun shell => { shell with command := outer }
  return result

/-- Repeats a body as expressions say. Without a condition there is no end. -/
def counted (run : Evaluator) (isTested : Bool) (condition step : Step (Option Int64))
    (isEndless : Bool) (body : Command) : (limit : Nat) → Step Unit
  | 0 => throw .late
  | limit + 1 => do
      passTime limit
      match ← condition with
      | none => setStatus 1
      | some value =>
          if value != 0 || isEndless then
            if ← round (run isTested body) then
              match ← step with
              | none => setStatus 1
              | some _ => counted run isTested condition step isEndless body limit

/-- Shows a command that is not simple before it is carried out, where the extended language does
so. -/
def traced (capture : Command → Step Text) (shown : Text) : Step Unit := do
  let shell ← get
  if shell.isExtended then Simple.trace capture (shell.channel? standardError) [shown]

/-- Carries out a body for each of some fields. -/
def forEach (run : Evaluator) (isTested : Bool) (trace : Step Unit) (name : Text)
    (body : Command) : List Text → Step Unit
  | [] => pure ()
  | field :: fields => do
      spend 1
      trace
      assign name field
      if ← round (run isTested body) then forEach run isTested trace name body fields

/-- Whether one of some patterns accepts a subject. -/
def isAccepted (capture : Command → Step Text) (subject : Text) : List Word → Step Bool
  | [] => return false
  | word :: words => do
      if (← Expansion.matcher capture word).accepts subject then return true
      else isAccepted capture subject words

/-- The bodies of the arms that are carried out: the first arm with a pattern that accepts a subject
and what its ending goes on with. -/
def chosen (capture : Command → Step Text) (subject : Text) :
    (falls : Bool) → List (List Word × Command × Ending) → Step (List Command)
  | _, [] => return []
  | falls, (patterns, body, ending) :: arms => do
      let isTaken ← if falls then pure true else isAccepted capture subject patterns
      if !isTaken then chosen capture subject false arms
      else match ending with
        | .leaves => return [body]
        | .fallsThrough => return body :: (← chosen capture subject true arms)
        | .goesOn => return body :: (← chosen capture subject false arms)

/-- The file that is carried out. -/
def originOf (shell : Shell) : Text := (shell.frames.head?).elim shell.origin Frame.origin

def isNothing : Command → Bool
  | .sequence [] => true
  | _ => false

def each (run : Evaluator) (isTested : Bool) : List Command → Step Unit
  | [] => pure ()
  | [command] => run isTested command
  | command :: commands => do
      run isTested command
      each run isTested commands

/-- Carries out a command whose parts are left to another evaluator. -/
def perform (run : Evaluator) : Evaluator := fun isTested command => do
  if (← get).hasOption 'n' then return
  let capture := Process.capture run
  match command with
  | .simple line assignments words redirections =>
      Simple.perform run isTested line assignments words redirections
  | .pipeline commands =>
      Process.pipeline run isTested commands
      Simple.checkExit run isTested
  | .negation command =>
      run true command
      setStatus (if ← succeeded then 1 else 0)
  | .andThen first second =>
      run true first
      if ← succeeded then run isTested second
  | .orElse first second =>
      run true first
      if !(← succeeded) then run isTested second
  | .sequence commands => each run isTested commands
  | .conditional condition body otherwise =>
      run true condition
      if ← succeeded then run isTested body
      else if isNothing otherwise then setStatus 0
      else run isTested otherwise
  | .loop wanted condition body =>
      inLoop (rounds run isTested wanted condition body ((← get).machine.effort + 1) 0)
  | .each line name words body =>
      modify fun shell => { shell with line }
      if !isName name then
        complain ('\x60' :: name ++ "': not a valid identifier".toList)
        setStatus 1
        return
      let fields ← words.flatMapM (Expansion.fields capture)
      if fields.isEmpty then setStatus 0
      let shown : Text := "for ".toList ++ name ++ " in ".toList ++
        Format.joinWords (words.map writtenWord)
      inLoop (forEach run isTested (traced capture shown) name body fields)
  | .choice line subject arms =>
      modify fun shell => { shell with line }
      traced capture ("case ".toList ++ writtenWord subject ++ " in".toList)
      let subject ← Expansion.text capture subject
      match ← chosen capture subject false arms with
      | [] => setStatus 0
      | bodies =>
          for body in bodies do
            if isNothing body then setStatus 0 else run isTested body
  | .redirected line command redirections =>
      modify fun shell => { shell with line }
      withChannels do
        if ← redirect capture redirections then run isTested command
        else Simple.checkExit run isTested
  | .subshell line command redirections =>
      Process.subshell run isTested line command (redirect capture redirections)
      Simple.checkExit run isTested
  | .background line command =>
      modify fun shell => { shell with line }
      Process.background run command
  | .function line name body =>
      modify fun shell => { shell with
        functions := (name, ⟨body, line, originOf shell⟩) :: shell.functions.filter fun entry =>
          entry.1 != name
        status := 0 }
  | .compute line expression =>
      modify fun shell => { shell with line }
      let text ← Expansion.lines capture expression
      traced capture ("(( ".toList ++ text ++ " ))".toList)
      let value ← computed "((" (Reckoning.evaluate text)
      setStatus (if value.any fun value => value != 0 then 0 else 1)
      Simple.checkExit run isTested
  | .counted line first condition step body =>
      modify fun shell => { shell with line }
      let evaluate (expression : Word) : Step (Option Int64) := do
        computed "((" (Reckoning.evaluate <| ← Expansion.lines capture expression)
      setStatus 0
      match ← evaluate first with
      | none => setStatus 1
      | some _ =>
          let effort := (← get).machine.effort
          inLoop (counted run isTested (evaluate condition) (evaluate step) condition.isEmpty body
            (effort + 1))
  | .judged line test =>
      modify fun shell => { shell with line }
      let status ← computed "[[" (Judging.verdict capture test)
      setStatus (status.getD 1)
      Simple.checkExit run isTested
  | .timed command =>
      let start := (← get).now
      run isTested command
      let taken := (← get).now - start
      let shown (millis : Nat) : Text :=
        let digits := Text.ofNat (millis % 1000)
        Text.ofNat (millis / 60000) ++ 'm' :: Text.ofNat (millis / 1000 % 60) ++ '.' ::
          List.replicate (3 - digits.length) '0' ++ digits ++ ['s']
      report ("\nreal\t".toList ++ shown taken ++ "\nuser\t0m0.000s\nsys\t0m0.000s".toList)
  | .streamed _ _ => pure ()
  Course.answerSignals run

/-- Carries out a command, with others at most so deep inside it. -/
def run : (depth : Nat) → Evaluator
  | 0 => fun _ _ => throw (.killed 11)
  | depth + 1 => perform (run depth)

/-- How deep commands may lie inside one another. -/
def greatestDepth : Nat := 10000

def evaluator : Evaluator := run greatestDepth

end Evaluation

end ShaderCost.Script
