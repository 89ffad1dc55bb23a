import ShaderCost.Script.Sigil.Assignment
import ShaderCost.Script.Sigil.Library

/-!
Calls of routines, by their names, by references and as methods of classes and handles.
-/

namespace ShaderCost.Script.Sigil

variable (evaluator : Evaluator)

/-- What a call gives where so many values are wanted. -/
def asWanted (want : Want) (values : List Value) : List Value :=
  match want with
  | .one => [values.getLast?.getD .undefined]
  | _ => values

/-- Carries out what is at the place of a routine. -/
def callAt (place : Nat) (arguments : List Nat) (want : Want) : Run (List Value) := do
  spend 1
  match (← cellAt place).content with
  | .routine number own =>
      let given ← allocate (.list arguments.toArray)
      let before ← get
      let routine := before.program.routines.getD number default
      let frame : Frame :=
        ⟨fullName routine.package routine.name, routine.package, before.line, want⟩
      set { before with own, frames := frame :: before.frames }
      let body : Run (List Value) := tryCatch
        (locally (withName "@main::_" given (evaluator.block routine.body want)))
        fun leave => match leave with
          | .returned values => return values
          | leave => throw leave
      let values ← ensuring body <| modify fun state => { state with
        own := before.own, frames := before.frames, line := before.line, found := before.found }
      return asWanted want values
  | .library name =>
      match ← Library.call evaluator name arguments want with
      | some values => return asWanted want values
      | none => die ("Undefined subroutine &".toList ++ name ++ " called".toList)
  | _ => die "Not a CODE reference"

/-- Calls a routine by its name. -/
def callNamed (name : Text) (arguments : List Nat) (want : Want) : Run (List Value) := do
  match ← routineNamed? name with
  | some place => evaluator.call place arguments want
  | none =>
      match ← Library.call evaluator name arguments want with
      | some values => return asWanted want values
      | none => die ("Undefined subroutine &".toList ++ name ++ " called".toList)

/-- The arguments of a call; without any, those of the routine under way are handed on. -/
def argumentsOf (arguments : Option Term) : Run (List Nat) := do
  match arguments with
  | some term => evaluator.aliases term
  | none => return (← listAt (← sharedPlace .list "main::_")).toList

/-- Calls what a value stands for. -/
def callValue (code : Value) (arguments : List Nat) (want : Want) : Run (List Value) := do
  match code with
  | .reference .routine place => evaluator.call place arguments want
  | .reference _ _ => die "Not a CODE reference"
  | .undefined => die "Can't use an undefined value as a subroutine reference"
  | value =>
      let name ← textOf value
      if (← get).program.isStrict then
        die ("Can't use string (\"".toList ++ name ++
          "\") as a subroutine ref while \"strict refs\" in use".toList)
      else
        let full := fullName (← presentPackage) ((Text.after? "&" name).getD name)
        callNamed evaluator full arguments want

/-! Methods. -/

/-- Methods that every handle has. -/
def callOnHandle (place : Nat) (name : Text) (arguments : List Nat) (want : Want) :
    Run (Option (List Value)) := do
  let values ← arguments.mapM scalarAt
  match String.ofList name with
  | "print" | "say" | "printf" =>
      let cells := (← get).cells
      let text ←
        if name = "printf" then
          match values with
          | format :: values => pure (formatted (titleOf cells) (← textOf format) values)
          | [] => pure []
        else
          let texts ← values.mapM textOf
          pure (texts.flatten ++ if name = "say" then ['\n'] else [])
      return some [.ofBool (← putOut place text)]
  | "autoflush" =>
      let isOn := match values with
        | value :: _ => value.isTrue
        | [] => true
      holdAtMost place (if isOn then 0 else Stream.usualMost)
      return some [.whole 1]
  | "flush" | "sync" =>
      flushHandle place
      return some [.whole 1]
  | "close" => return some [.ofBool (← closeHandle evaluator.host place)]
  | "opened" =>
      return some [.ofBool (match (← handleAt? place).map Handle.way with
        | some .closed | none => false
        | _ => true)]
  | "getline" => return some [((← takeLine place).map Value.text).getD .undefined]
  | "getlines" => return some ((← takeLines place evaluator.limit []).map .text)
  | "eof" => return some [.ofBool (← isAtEnd place)]
  | "binmode" | "blocking" | "seek" => return some [.whole 1]
  | "input_line_number" =>
      return some [((← handleAt? place).map fun handle => Value.ofNat handle.lines).getD .undefined]
  | "fileno" =>
      return some [match (← handleAt? place).map Handle.way with
        | some (.stream stream) => .ofNat stream.number
        | _ => .undefined]
  | "can" => return some [.ofBool (want != .nothing)]
  | _ => return none

/-- The handle that an object stands for, if it does. -/
def handleOf? (object : Value) : Run (Option Nat) := do
  match object with
  | .reference .handle place => return some place
  | .text name =>
      let name := (Text.after? "*main::" name).getD name
      if (["STDIN", "STDOUT", "STDERR"] : List Text).elem name then
        return some (← handleNamed name)
      else match (← get).names.get? ('*' :: fullName "main" name) with
        | some place => return some place
        | none => return none
  | _ => return none

/-- Whether a class has routines of its own. -/
def isClass (name : Text) : Run Bool := do
  let lead := '&' :: name ++ "::".toList
  return (← get).names.keys.any fun key => lead.isPrefixOf key

/-- What every class can do. -/
def callGeneral (classes : List Text) (name : Text) (arguments : List Value) :
    Run (Option (List Value)) := do
  let argument ← textOf (arguments.headD .undefined)
  match String.ofList name with
  | "can" =>
      match ← methodOf? classes argument with
      | some place => return some [.reference .routine place]
      | none => return some [.text []]
  | "isa" | "DOES" => return some [.ofBool (classes.elem argument)]
  | "import" | "unimport" => return some []
  | "VERSION" =>
      match (← get).names.get? ("$".toList ++ classes.headD [] ++ "::VERSION".toList) with
      | some place => return some [← scalarAt place]
      | none => return some [.undefined]
  | "new" =>
      if (["IO::File", "IO::Handle", "FileHandle"] : List Text).elem (classes.headD []) then
        let place ← allocate (.handle { (default : Handle) with name := "__ANONIO__" })
        let target := Term.constant (.reference .handle place)
        match arguments with
        | path :: mode =>
            let mode ← match mode with
              | mode :: _ => textOf mode
              | [] => pure ['<']
            let mode : Text :=
              if mode = "r" then "<" else if mode = "w" then ">" else if mode = "a" then ">>"
              else mode
            let opener : Evaluator :=
              { evaluator with place := fun _ => fresh (.reference .handle place) }
            let terms : List Term := [target, .constant (.text mode), .constant path]
            let isDone ← Feature.open_ opener terms
            return some [if isDone then .reference .handle place else .undefined]
        | [] => return some [.reference .handle place]
      else return none
  | _ => return none

/-- Parts of the library whose routines are called as methods. -/
def libraryClasses : List Text := ["File::Spec", "File::Spec::Functions", "Time::HiRes", "POSIX"]

/-- Calls a method of an object or a class. -/
def callMethod (object : Value) (name : Text) (arguments : List Nat) (want : Want) :
    Run (List Value) := do
  let holder ← fresh object
  let given := holder :: arguments
  let baseName := Library.constant?.lastPart name
  match ← handleOf? object, ← classOf? object with
  | some place, none =>
      match ← callOnHandle evaluator place name arguments want with
      | some values => return asWanted want values
      | none => die ("Can't locate object method \"".toList ++ name ++
          "\" via package \"IO::File\"".toList)
  | _, package? =>
      let package ← match package?, object with
        | some package, _ => pure package
        | none, .undefined =>
            die ("Can't call method \"".toList ++ name ++ "\" on an undefined value".toList)
        | none, .reference _ _ =>
            die ("Can't call method \"".toList ++ name ++ "\" on unblessed reference".toList)
        | none, value => textOf value
      if package.isEmpty then
        die ("Can't call method \"".toList ++ name ++
          "\" without a package or object reference".toList)
      let above := "SUPER::".toList.isPrefixOf name
      let classes ←
        if above then pure (← ancestry longestAncestry (← presentPackage)).tail
        else if Text.contains "::" name then
          ancestry longestAncestry (name.take (name.length - baseName.length - 2))
        else ancestry longestAncestry package
      match ← methodOf? classes baseName with
      | some place => evaluator.call place given want
      | none =>
          let values ← arguments.mapM scalarAt
          match ← callGeneral evaluator classes baseName values with
          | some values => return asWanted want values
          | none =>
              if libraryClasses.elem package then
                match ← Library.call evaluator baseName arguments want with
                | some values => return asWanted want values
                | none => pure ()
              match ← methodOf? classes "AUTOLOAD" with
              | some place =>
                  let full := package ++ "::".toList ++ baseName
                  for package in classes do
                    setScalar (← sharedPlace .scalar (package ++ "::AUTOLOAD".toList)) (.text full)
                  evaluator.call place given want
              | none =>
                  let advice : Text ← if package?.isSome || (← isClass package) then pure [] else
                    pure (" (perhaps you forgot to load \"".toList ++ package ++ "\"?)".toList)
                  die ("Can't locate object method \"".toList ++ baseName ++
                    "\" via package \"".toList ++ package ++ '"' :: advice)

end ShaderCost.Script.Sigil

/-!
Going through lists, and loops.
-/

namespace ShaderCost.Script.Sigil

variable (evaluator : Evaluator)

/-! Lists. -/

/-- Carries out an action for each of some places, under the name of the topic. An action that
gives nothing ends that. -/
def throughTopic {α : Type} (places : List Nat) (work : Nat → Run (Option α)) : Run (List α) := do
  match places with
  | [] => return []
  | first :: _ =>
      withName topicKey first do
        let mut results : List α := []
        for place in places do
          spend 1
          modify fun state => { state with names := state.names.insert topicKey place }
          match ← work place with
          | some result => results := result :: results
          | none => break
        return results.reverse

/-- Carries out an action with two values under the names that comparisons have for them. -/
def withPair {α : Type} (work : (Value → Value → Run Value) → Run α) (body : Term) : Run α := do
  let left ← fresh .undefined
  let right ← fresh .undefined
  withName "$main::a" left <| withName "$main::b" right <| work fun a b => do
    spend 1
    setScalar left a
    setScalar right b
    evaluator.value body

/-- Whether the values for which a body holds are looked for until there is one. -/
def search (isWanted : Bool) (body : Term) (places : List Nat) : Run (Option Nat) := do
  let mut found : Option Nat := none
  match places with
  | [] => return none
  | first :: _ =>
      let results ← throughTopic places fun place => do
        if (← evaluator.value body).isTrue == isWanted then return none else return some place
      if results.length < places.length then
        found := some (places.getD results.length first)
      return found

/-- What goes through a list. -/
def passThrough (pass : Pass) (body : Option Term) (values : Term) (want : Want) :
    Run (List Value) := do
  let counted (values : List Value) : List Value :=
    if want = .all then values else [.ofNat values.length]
  match pass, body with
  | .sort, none => return counted (← sortTexts (← evaluator.values values))
  | .sort, some body =>
      let values ← evaluator.values values
      let sorted ← withPair evaluator (fun compare =>
        sortBy (fun left right => do return 0 < (← compare left right).toInt)
          (values.length.log2 + 2) values) body
      return counted sorted
  | .reduce, some body =>
      match ← evaluator.values values with
      | [] => return [.undefined]
      | first :: rest =>
          let result ← withPair evaluator (fun join => rest.foldlM join first) body
          return [result]
  | _, none => return []
  | .map, some body =>
      let places ← evaluator.aliases values
      let results ← throughTopic places fun _ => some <$> evaluator.values body
      return counted results.flatten
  | .filter, some body =>
      let places ← evaluator.aliases values
      let results ← throughTopic places fun place => do
        if (← evaluator.value body).isTrue then return some [← scalarAt place] else return some []
      return counted results.flatten
  | .first, some body =>
      match ← search evaluator true body (← evaluator.aliases values) with
      | some place => return [← scalarAt place]
      | none => return [.undefined]
  | .anyHolds, some body =>
      return [.ofBool (← search evaluator true body (← evaluator.aliases values)).isSome]
  | .noneHolds, some body =>
      return [.ofBool (← search evaluator true body (← evaluator.aliases values)).isNone]
  | .allHold, some body =>
      return [.ofBool (← search evaluator false body (← evaluator.aliases values)).isNone]

/-! Loops. -/

/-- How a round of a loop ends. -/
inductive Flow where
  | next
  | last
  | redo

/-- Carries out the body of a loop once. The result tells whether the loop goes on. -/
def round (label : Text) (body : List Statement) : (limit : Nat) → Run Bool
  | 0 => return false
  | limit + 1 => do
      let isMeant (wanted : Text) : Bool := wanted.isEmpty || wanted = label
      let attempt : Run Flow := do
        let _ ← evaluator.block body .nothing
        return .next
      let flow ← tryCatch attempt fun leave => match leave with
        | .next wanted => if isMeant wanted then return .next else throw leave
        | .last wanted => if isMeant wanted then return .last else throw leave
        | .redo wanted => if isMeant wanted then return .redo else throw leave
        | leave => throw leave
      match flow with
      | .next => return true
      | .last => return false
      | .redo => round label body limit

/-- Repeats rounds as long as a condition holds. The first round may come before it. -/
def rounds (holds : Run Bool) (once : Run Bool) (step : Run Unit) : (limit : Nat) →
    (isFirst : Bool) → Run Unit
  | 0, _ => pure ()
  | limit + 1, isFirst => do
      spend 1
      let goesOn ← if isFirst then pure true else holds
      if goesOn then
        if ← once then
          step
          rounds holds once step limit false

/-- Carries out rounds for values, each at a place that a name leads to. -/
def eachPlace (name : Nat → Run Unit) (once : Run Bool) : List Nat → Run Unit
  | [] => pure ()
  | place :: rest => do
      spend 1
      name place
      if ← once then eachPlace name once rest

/-- Carries out rounds for whole numbers one after the other. -/
def eachNumber (name : Nat → Run Unit) (once : Run Bool) : (count : Nat) → Int → Run Unit
  | 0, _ => pure ()
  | count + 1, number => do
      spend 1
      name (← fresh (.whole number))
      if ← once then eachNumber name once count (number + 1)

/-- The whole numbers that a term ranges over: the first one and how many there are. -/
def numbersOver? (values : Term) : Run (Option (Int × Nat)) := do
  match values with
  | .range _ first last | .listed [.range _ first last] =>
      let first ← evaluator.value first
      let isNumber := match first with
        | .text text => text.isEmpty || looksNumeric text
        | _ => true
      if isNumber then
        let last ← evaluator.value last
        return some (first.toInt, (last.toInt + 1 - first.toInt).toNat)
      else return none
  | _ => return none

/-- Carries out an action during which a term's name may lead to other places, with the way to
say where. -/
def leading {α : Type} (target : Term) (work : (Nat → Run Unit) → Run α) : Run α := do
  let byNumber (number : Nat) : Run α := do
    let before := (← get).own.getD number 0
    ensuring (work fun place => modify fun state => { state with
      own := state.own.setIfInBounds number place, met := state.met.setIfInBounds number true })
      (modify fun state => { state with own := state.own.setIfInBounds number before })
  match target with
  | .declare _ _ number | .name _ (.own number) => byNumber number
  | .name _ (.shared name) =>
      let key := '$' :: name
      let place ← sharedPlace .scalar name
      withName key place (work fun place => modify fun state =>
        { state with names := state.names.insert key place })
  | _ => work fun _ => pure ()

/-- Goes through values with a body. -/
def forEach (label : Text) (target values : Term) (body : List Statement) : Run Unit := do
  let once := round evaluator label body evaluator.limit
  match ← numbersOver? evaluator values with
  | some (first, count) => leading target fun name => eachNumber name once count first
  | none =>
      let places ← evaluator.aliases values
      leading target fun name => eachPlace name once places

end ShaderCost.Script.Sigil
