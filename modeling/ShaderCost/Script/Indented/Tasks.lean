import ShaderCost.Script.Indented.Evaluation

/-!
Statements, one after the other. What is left to be done in a routine is a list of tasks, so that a
series can stop at any statement and go on from there. When the course is left, the tasks tell what
is still owed: handlers, managers, and what has to be done at the end.
-/

namespace ShaderCost.Script.Indented

variable (evaluator : Evaluator)

/-- Where a routine is after one task. -/
inductive Progress where
  | tasks (left : List Task)
  | done (value : Value)
  /-- A series gives a value, and goes on with these. -/
  | gives (value : Value) (left : List Task)

/-! Faults that statements raise. -/

/-- Makes a fault of a value that is raised. -/
def faultOf (value : Value) : Run Nat := do
  let refuse : Run Nat := failType "exceptions must derive from BaseException"
  let fault ← if ← isType value then
      if ← isSubtype value (.type "BaseException") then evaluator.call value [] [] else pure .none
    else pure value
  match ← faultAt? fault with
  | some (place, _) => return place
  | none => refuse

def changeFault (place : Nat) (work : Fault → Fault) : Run Unit :=
  onContent place fun content => match content with
    | .fault fault => ((), .fault (work fault))
    | content => ((), content)

/-- Raises a value, because of another one where that is told. -/
def raiseValue {α : Type} (value : Value) (cause : Option Value) : Run α := do
  let place ← faultOf evaluator value
  match cause with
  | none => pure ()
  | some .none => changeFault place fun fault => { fault with cause := none, hidesContext := true }
  | some cause =>
      let cause ← faultOf evaluator cause
      changeFault place fun fault =>
        { fault with cause := some (.object cause), hidesContext := true }
  let here ← presentSpots
  let level := here.length - 1
  changeFault place fun fault =>
    if fault.spots.isEmpty then fault else { fault with spots := here ++ fault.spots.drop level }
  raiseFault place

/-- Raises what is dealt with once more. -/
def raiseAgain {α : Type} : Run α := do
  match (← get).handled with
  | fault :: _ => throw (.raised fault)
  | [] => fail "RuntimeError" "No active exception to reraise"

/-! Managers. -/

def managerRoutine (manager : Value) (name : Text) : Run Value := do
  match ← attribute? evaluator manager name with
  | some code => return code
  | none =>
      failType ('\'' :: (← typeName manager) ++
        "' object does not support the context manager protocol".toList ++
        (if name = "__exit__" then " (missed __exit__ method)".toList else []))

def leaveManager (manager : Value) (fault : Option Value) : Run Bool := do
  let code ← managerRoutine evaluator manager "__exit__"
  let arguments ← match fault with
    | none => pure [.none, .none, .none]
    | some fault => do pure [← typeOf fault, fault, .none]
  truthOf evaluator (← evaluator.call code arguments [])

/-! Types and routines. -/

/-- The full name of what is defined here. -/
def fullNameHere (name : Text) : Run Text := do
  let frame ← presentFrame
  let scope ← scopeAt frame.scope
  match scope.kind, scope.names.get? "__qualname__" with
  | .type, some (.text above) => return above ++ '.' :: name
  | .routine, _ | .inner, _ => return frame.name ++ ".<locals>.".toList ++ name
  | _, _ => return name

def decorate (decorators : List Value) (value : Value) : Run Value :=
  decorators.reverse.foldlM (fun value decorator => evaluator.call decorator [value] []) value

def define (line : Nat) (number : Nat) (decorators : List Term) : Run Value := do
  let decorators ← decorators.mapM evaluator.value
  let code ← makeRoutine number (← usualValues evaluator number)
  setLine line
  decorate evaluator decorators code

/-- What a body of a type binds beside its members. -/
def bodyNames : List Text := ["__qualname__", "__module__"]

def defineType (line : Nat) (name : Text) (bases : List Term) (named : List Argument)
    (body : List Statement) (decorators : List Term) : Run Value := do
  let decorators ← decorators.mapM evaluator.value
  let bases ← valuesOfTerms evaluator bases
  let bases ← bases.mapM fun base => do
    match ← callOwn? evaluator base "__mro_entries__" [.tuple bases] with
    | some (.tuple others) => return others
    | _ => return [base]
  let bases := bases.flatten
  for base in bases do
    if !(← isType base) then
      failType ((← typeName base) ++ "() takes no such base".toList)
  let named ← namedValues evaluator named
  let fullName ← fullNameHere name
  let frame ← presentFrame
  let module := match (← scopeAt (← presentModule)).names.get? "__name__" with
    | some (.text module) => module
    | _ => "__main__"
  let scope ← newScope .type [] (some frame.scope)
  bindAt scope "__module__" (.text module)
  bindAt scope "__qualname__" (.text fullName)
  match leadingText body with
  | .text text => bindAt scope "__doc__" (.text text)
  | _ => pure ()
  let _ ← withFrame ⟨name, frame.path, line, scope, none, none⟩ (evaluator.perform [.block body])
  let members := bodyNames.foldl Roster.erase (← scopeAt scope).names
  let named := named.filter fun (title, _) => title != "metaclass"
  let type ← makeType evaluator name fullName module bases members named
  decorate evaluator decorators type

/-- Notes what is said about a name in a body of a type or of a module. -/
def annotate (target annotation : Term) : Run Unit := do
  match target with
  | .name name =>
      let place ← presentScope
      let scope ← scopeAt place
      if scope.kind = .type || scope.kind = .module then
        let isLate := (← scopeAt (← presentModule)).names.has "annotations"
        let value ← if isLate then pure (.text []) else evaluator.value annotation
        let table ← match scope.names.get? "__annotations__" with
          | some (.object table) => pure table
          | _ => do
              let table ← allocate (.table .empty)
              bindAt place "__annotations__" (.object table)
              pure table
        putEntry evaluator table (.text name) value
      else pure ()
  | _ => pure ()

/-! Statements. -/

/-- The case of a choice that a value belongs to. -/
def caseFor? (value : Value) : List Case → Run (Option (List Statement))
  | [] => return none
  | .case line shape condition body :: rest => do
      setLine line
      if ← fits evaluator shape value then
        let isMeant ← match condition with
          | none => pure true
          | some condition => do truthOf evaluator (← evaluator.value condition)
        if isMeant then return some body else caseFor? value rest
      else caseFor? value rest

/-- What a series does where it gives a value, if a term does that. -/
def givenBy? (term : Term) (receiver : Receiver) (rest : List Task) : Run (Option Progress) := do
  match term with
  | .yields value =>
      let value ← match value with
        | some term => evaluator.value term
        | none => pure .none
      return some (.gives value (.receive receiver :: rest))
  | .yieldsFrom values =>
      let iterator ← iterate evaluator (← evaluator.value values)
      return some (.tasks (.delegate iterator receiver :: rest))
  | _ => return none

/-- Makes names of a scope belong to others. -/
def shareNames (isGlobal : Bool) (names : List Text) : Run Unit := do
  onContent (← presentScope) fun content => match content with
    | .scope scope =>
        let kept := scope.own.filter fun name => !names.elem name
        let scope := { scope with own := kept }
        ((), .scope (if isGlobal then { scope with shared := names ++ scope.shared }
          else { scope with foreign := names ++ scope.foreign }))
    | content => ((), content)

/-- Carries out a statement, with what is left to be done behind it. -/
def carryOutStatement (statement : Statement) (rest : List Task) : Run Progress := do
  let goOn (action : Run Unit) : Run Progress := do
    action
    return .tasks rest
  match statement with
  | .evaluate line term =>
      setLine line
      match ← givenBy? evaluator term .nothing rest with
      | some progress => return progress
      | none => goOn do
          let _ ← evaluator.value term
  | .assign line targets value =>
      setLine line
      match ← givenBy? evaluator value (.targets line targets) rest with
      | some progress => return progress
      | none => goOn do
          let value ← evaluator.value value
          for target in targets do assign evaluator target value
  | .annotate line target annotation value =>
      setLine line
      goOn do
        match value with
        | some value => assign evaluator target (← evaluator.value value)
        | none => pure ()
        annotate evaluator target annotation
  | .update line operation target value =>
      setLine line
      goOn (update evaluator operation target value)
  | .giveBack line value =>
      setLine line
      match value with
      | none => throw (.returned .none)
      | some term =>
          match ← givenBy? evaluator term .result rest with
          | some progress => return progress
          | none => throw (.returned (← evaluator.value term))
  | .delete line targets =>
      setLine line
      goOn do
        for target in targets do delete evaluator target
  | .pass => return .tasks rest
  | .breakOff => throw .breakOff
  | .goOn => throw .goOn
  | .raise line value cause =>
      setLine line
      match value with
      | none => raiseAgain
      | some value =>
          let value ← evaluator.value value
          let cause ← match cause with
            | none => pure none
            | some cause => do pure (some (← evaluator.value cause))
          raiseValue evaluator value cause
  | .assertion line condition message =>
      setLine line
      if !(← get).checks then return .tasks rest
      if ← truthOf evaluator (← evaluator.value condition) then return .tasks rest
      else match message with
        | none => raiseWith "AssertionError" []
        | some message => raiseWith "AssertionError" [← evaluator.value message]
  | .take line modules =>
      setLine line
      goOn (takeModules evaluator modules)
  | .takeNames line module names =>
      setLine line
      goOn (takeNames evaluator module names)
  | .choose line condition yes no =>
      if line != 0 then setLine line
      let chosen := if ← truthOf evaluator (← evaluator.value condition) then yes else no
      return .tasks (match chosen with
        | [] => rest
        | chosen => .block chosen :: rest)
  | .loop line condition body otherwise =>
      return .tasks (.loop line condition body otherwise :: rest)
  | .forEach line target values body otherwise =>
      if line != 0 then setLine line
      let source ← evaluator.value values
      let iterator ← iterate evaluator source
      return .tasks (.forEach line target iterator body otherwise :: rest)
  | .attempt _ body handlers otherwise finally_ =>
      return .tasks (.block body :: .attempt handlers otherwise finally_ :: rest)
  | .within line managers targets body =>
      return .tasks (.enter line managers targets :: .block body :: rest)
  | .define line name number decorators =>
      setLine line
      goOn do assignName name (← define evaluator line number decorators)
  | .type line name bases named body decorators =>
      setLine line
      goOn do assignName name (← defineType evaluator line name bases named body decorators)
  | .select line subject cases =>
      setLine line
      match ← caseFor? evaluator (← evaluator.value subject) cases with
      | some body => return .tasks (.block body :: rest)
      | none => return .tasks rest
  | .scope isGlobal names => goOn (shareNames isGlobal names)

/-! Tasks. -/

/-- Gives a series the value that it goes on with. -/
def receive (receiver : Receiver) (value : Value) : Run Unit := do
  match receiver with
  | .nothing => pure ()
  | .targets line targets =>
      setLine line
      for target in targets do assign evaluator target value
  | .result => throw (.returned value)

/-- The series that a value is. -/
def seriesAt? (value : Value) : Run (Option (Nat × Series)) := do
  match value with
  | .object place =>
      match ← contentAt place with
      | .series series => return some (place, series)
      | _ => return none
  | _ => return none

/-- Goes on with what gives values to a series, which gets a value or a fault. -/
def goOnWith (values : Value) (resumption : Resumption) : Run (Except Value Value) := do
  match ← seriesAt? values, resumption with
  | some (place, _), resumption => evaluator.resume place resumption
  | none, .send .none =>
      let result : Run (Option Value) := evaluator.next values
      return ((← result).map .ok).getD (.error .none)
  | none, .send value =>
      let code ← attributeOf evaluator values "send"
      return .ok (← evaluator.call code [value] [])
  | none, .raise fault => throw (.raised fault)

def afterDelegate (values : Value) (receiver : Receiver) (rest : List Task)
    (result : Except Value Value) : Run Progress := do
  match result with
  | .ok value => return .gives value (.delegate values receiver :: rest)
  | .error result =>
      receive evaluator receiver result
      return .tasks rest

/-- Forgets the failure that was dealt with last. -/
def forget : Run Unit := modify fun state => { state with handled := state.handled.drop 1 }

def forgetName (name : Option Text) : Run Unit := do
  match name with
  | some name =>
      let _ ← unbindAt (← targetScope name deepestScope (← presentScope)) name
  | none => pure ()

/-- A block before tasks, unless it is void. -/
def before (statements : List Statement) (tasks : List Task) : List Task :=
  match statements with
  | [] => tasks
  | statements => .block statements :: tasks

/-- Carries out the first task. -/
def carryOutTask (task : Task) (rest : List Task) : Run Progress := do
  match task with
  | .block [] => return .tasks rest
  | .block [statement] => carryOutStatement evaluator statement rest
  | .block (statement :: statements) =>
      carryOutStatement evaluator statement (.block statements :: rest)
  | .loop line condition body otherwise =>
      setLine line
      if ← truthOf evaluator (← evaluator.value condition) then
        return .tasks (.block body :: task :: rest)
      else return .tasks (before otherwise rest)
  | .forEach line target values body otherwise =>
      if line != 0 then setLine line
      match ← evaluator.next values with
      | some value =>
          assign evaluator target value
          return .tasks (.block body :: task :: rest)
      | none => return .tasks (before otherwise rest)
  | .attempt _ otherwise last =>
      if last.isEmpty then return .tasks (before otherwise rest)
      else return .tasks (before otherwise (.settled last :: rest))
  | .settled last => return .tasks (before last rest)
  | .resume leave =>
      match leave with
      | .raised _ => forget
      | _ => pure ()
      throw leave
  | .within manager =>
      let _ ← leaveManager evaluator manager none
      return .tasks rest
  | .enter line managers targets =>
      setLine line
      match managers, rest with
      | manager :: managers, body :: rest =>
          let manager ← evaluator.value manager
          let code ← managerRoutine evaluator manager "__enter__"
          let _ ← managerRoutine evaluator manager "__exit__"
          let value ← evaluator.call code [] []
          match targets.head?.join with
          | some target => assign evaluator target value
          | none => pure ()
          return .tasks (.enter line managers (targets.drop 1) :: body :: .within manager :: rest)
      | _, rest => return .tasks rest
  | .forget name =>
      forget
      forgetName name
      return .tasks rest
  | .receive receiver =>
      receive evaluator receiver .none
      return .tasks rest
  | .delegate values receiver =>
      afterDelegate evaluator values receiver rest (← goOnWith evaluator values (.send .none))

/-! Leaving the course. -/

/-- Whether a handler is for a fault. -/
def isHandled (types : Option Term) (fault : Value) : Run Bool := do
  match types with
  | none => return true
  | some term =>
      let types := typesIn 8 (← evaluator.value term)
      for type in types do
        if !(← isType type) || !(← isSubtype type (.type "BaseException")) then
          failType
            "catching classes that do not inherit from BaseException is not allowed"
      types.anyM fun type => isInstance fault type

def handlerFor? (fault : Value) : List Handler → Run (Option (Option Text × List Statement))
  | [] => return none
  | .handler line types name body :: rest => do
      setLine line
      if ← isHandled evaluator types fault then return some (name, body)
      else handlerFor? fault rest

/-- Notes that a fault is dealt with here. -/
def holdFault (fault : Value) : Run Unit := do
  modify fun state => { state with handled := fault :: state.handled }
  let level := (← get).frames.length - 1
  match ← faultAt? fault with
  | some (place, _) => changeFault place fun fault => { fault with level }
  | none => pure ()

/-- What is done at the end of an attempt before the course is left after all. -/
def lastTasks (last : List Statement) (leave : Leave) (rest : List Task) : Run Progress := do
  match leave with
  | .raised fault => holdFault fault
  | _ => pure ()
  return .tasks (.block last :: .resume leave :: rest)

/-- What is to be done when the course is left where these tasks are left. -/
def unwind : (leave : Leave) → (tasks : List Task) → Run Progress
  | .returned value, [] => return .done value
  | leave, [] => throw leave
  | .ended status, _ => throw (.ended status)
  | leave, task :: rest => do
      let instead (action : Run Progress) : Run Progress :=
        tryCatch action fun other => unwind other rest
      match task, leave with
      | .attempt handlers _ last, .raised fault =>
          let settled := if last.isEmpty then rest else .settled last :: rest
          let chosen : Run Progress := do
            match ← handlerFor? evaluator fault handlers with
            | some (name, body) =>
                holdFault fault
                match name with
                | some name => assignName name fault
                | none => pure ()
                return .tasks (.block body :: .forget name :: settled)
            | none =>
                if last.isEmpty then throw leave else lastTasks last leave rest
          instead chosen
      | .attempt _ _ last, leave | .settled last, leave =>
          if last.isEmpty then unwind leave rest else lastTasks last leave rest
      | .resume (.raised _), leave =>
          forget
          unwind leave rest
      | .forget name, leave =>
          forget
          forgetName name
          unwind leave rest
      | .within manager, leave =>
          let left : Run Progress := do
            match leave with
            | .raised fault =>
                holdFault fault
                let isOver ← tryCatch (leaveManager evaluator manager (some fault)) fun other => do
                  forget
                  throw other
                forget
                if isOver then return .tasks rest else throw leave
            | leave =>
                let _ ← leaveManager evaluator manager none
                throw leave
          instead left
      | .loop _ _ _ _, .breakOff | .forEach _ _ _ _ _, .breakOff => return .tasks rest
      | .loop _ _ _ _, .goOn | .forEach _ _ _ _ _, .goOn => return .tasks (task :: rest)
      | _, leave => unwind leave rest

/-- Carries out tasks up to a value that a series gives, or to the end. -/
def advance : (fuel : Nat) → (tasks : List Task) → Run (Value × Option (List Task))
  | 0, _ | _ + 1, [] => return (.none, none)
  | fuel + 1, task :: rest => do
      liftM (n := Run) (spend 1)
      let progress ← tryCatch (carryOutTask evaluator task rest) fun leave =>
        unwind evaluator leave rest
      match progress with
      | .tasks tasks => advance fuel tasks
      | .done value => return (value, none)
      | .gives value tasks => return (value, some tasks)

def performTasks (tasks : List Task) : Run Value := do
  return (← advance evaluator evaluator.limit tasks).1

/-! Series. -/

/-- Goes on with the tasks of a series. -/
def advanceSeries (series : Series) (resumption : Resumption) :
    Run (Value × Option (List Task)) := do
  let goOn (tasks : List Task) : Run (Value × Option (List Task)) :=
    advance evaluator evaluator.limit tasks
  let after (progress : Progress) : Run (Value × Option (List Task)) := do
    match progress with
    | .tasks tasks => goOn tasks
    | .done value => return (value, none)
    | .gives value tasks => return (value, some tasks)
  match series.tasks, resumption with
  | .receive receiver :: rest, .send value =>
      let received : Run Progress := do
        receive evaluator receiver value
        return .tasks rest
      after (← tryCatch received fun leave => unwind evaluator leave rest)
  | .delegate values receiver :: rest, resumption =>
      let delegated : Run Progress := do
        afterDelegate evaluator values receiver rest (← goOnWith evaluator values resumption)
      after (← tryCatch delegated fun leave => unwind evaluator leave rest)
  | tasks, .raise fault => after (← unwind evaluator (.raised fault) tasks)
  | tasks, .send _ => goOn tasks

/-- Goes on with a series, up to its next value or its result. -/
def resumeSeries (place : Nat) (resumption : Resumption) : Run (Except Value Value) := do
  match ← contentAt place with
  | .series series =>
      if series.isRunning then failValue "generator already executing"
      match series.tasks, resumption with
      | [], .send _ => return .error .none
      | [], .raise fault => throw (.raised fault)
      | _, .send .none | _, .raise _ => pure ()
      | _, .send _ =>
          if !series.isBegun then
            failType "can't send non-None value to a just-started generator"
      setContent place (.series { series with isBegun := true, isRunning := true })
      let settle (tasks : List Task) (line : Nat) : Run Unit :=
        setContent place (.series { series with tasks, line, isBegun := true, isRunning := false })
      let own : Run ((Value × Option (List Task)) × Nat) := do
        let result ← advanceSeries evaluator series resumption
        return (result, (← presentFrame).line)
      let frame : Frame :=
        ⟨series.name, series.path, series.line, series.scope, series.owner, series.first⟩
      let (result, line) ← tryCatch (withFrame frame own) fun leave => do
        settle [] series.line
        match leave with
        | .raised fault =>
            if ← isEnd fault then
              let place ← makeFault (.type "RuntimeError") [.text "generator raised StopIteration"]
              changeFault place fun other =>
                { other with cause := some fault, hidesContext := true }
              raiseFault place
            else throw leave
        | leave => throw leave
      match result with
      | (value, some tasks) =>
          settle tasks line
          return .ok value
      | (value, none) =>
          settle [] line
          return .error value
  | _ => failType "not a generator"

/-- The next value of what gives values one after the other, series among them. -/
def nextOf (value : Value) : Run (Option Value) := do
  match ← seriesAt? value with
  | some (place, _) =>
      liftM (n := Run) (spend 1)
      match ← evaluator.resume place (.send .none) with
      | .ok value => return some value
      | .error _ => return none
  | none => nextValue evaluator value

/-! All of it. -/

/-- Programs that nest without an end never end. -/
def endless {α : Type} : Run α :=
  let never : Step α := throw .late
  liftM (n := Run) never

/-- The ways to carry out what lies at most that many levels deep inside one another. -/
def Evaluator.ofDepth (host : Host) (limit : Nat) : (depth : Nat) → Evaluator
  | 0 => {
      host, limit
      value := fun _ => endless
      call := fun _ _ _ => endless
      next := fun _ => endless
      resume := fun _ _ => endless
      perform := fun _ => endless }
  | depth + 1 => {
      host, limit
      value := fun term => evaluate (ofDepth host limit depth) term
      call := fun code arguments named => callValue (ofDepth host limit depth) code arguments named
      next := fun value => nextOf (ofDepth host limit depth) value
      resume := fun place resumption => resumeSeries (ofDepth host limit depth) place resumption
      perform := fun tasks => performTasks (ofDepth host limit depth) tasks }

end ShaderCost.Script.Indented
