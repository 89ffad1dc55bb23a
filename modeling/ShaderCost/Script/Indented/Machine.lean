import ShaderCost.Script.Builtin
import ShaderCost.Script.Expression.Rich
import ShaderCost.Script.Indented.Syntax
import ShaderCost.Script.Indented.Value
import ShaderCost.Script.Roster
import ShaderCost.Script.Process

/-!
The state of a program under way. Everything that may change lies at a place: lists and tables,
scopes with the names that they bind, types and their members, files, and series that go on where
they stopped.
-/

namespace ShaderCost.Script.Indented

inductive ScopeKind where
  | module
  | routine
  | type
  /-- A scope of a comprehension. -/
  | inner
  deriving DecidableEq

structure Scope where
  names : Roster Value
  kind : ScopeKind
  /-- The names that belong to a routine though they may have no value yet. -/
  own : List Text
  /-- The names that are said to belong to the module, and those of a routine around. -/
  shared : List Text
  foreign : List Text
  outer : Option Nat

/-- Where in a program something happened. -/
structure Spot where
  path : Text
  line : Nat
  name : Text

structure Fault where
  type : Value
  arguments : List Value
  /-- The way to where it happened, the outermost call first, and how many calls are around the one
  that dealt with it. -/
  spots : List Spot
  level : Nat
  cause : Option Value
  /-- What was dealt with when this one came. -/
  context : Option Value
  hidesContext : Bool
  attributes : Roster Value

/-- A type of the program. -/
structure Kind where
  name : Text
  fullName : Text
  module : Text
  bases : List Value
  /-- The type and those that it has members from, in the order in which these are looked for. -/
  order : List Value
  members : Roster Value

/-- A routine of the program with what is around it. -/
structure Code where
  routine : Nat
  name : Text
  path : Text
  scope : Nat
  usual : List (Text × Value)
  /-- The type that the routine is a member of. -/
  owner : Option Nat
  attributes : Roster Value

/-- Where a file leads. -/
inductive Way where
  | closed
  | stream (stream : Stream)
  | memory (content : Text) (position : Nat)

/-- A file of octets, or a text that is used like one. -/
structure Handle where
  name : Value
  mode : Text
  isText : Bool
  way : Way
  mayRead : Bool
  mayWrite : Bool

/-- A file of characters above one of octets. -/
structure Sheet where
  below : Nat
  /-- What is held back, the last piece first, and its length. -/
  held : List Text
  heldLength : Nat
  /-- Whether every end of a line puts out what is held back. -/
  endsLines : Bool
  encoding : Text
  errors : Text
  /-- What line feeds are written as; without it all ends of lines are read as line feeds. -/
  ending : Option Text
  /-- Characters that were read ahead. -/
  ahead : Option Text

/-- The part of a table that is gone through. -/
inductive Side where
  | keys
  | values
  | entries
  deriving DecidableEq

/-- What gives values one after the other. -/
inductive Iteration where
  | items (values : List Value)
  | list (place index : Nat)
  | range (next step : Int) (left : Nat)
  | entries (table : Nat) (side : Side) (keys : List Text)
  | mapped (code : Value) (sources : List Value)
  | chosen (code source : Value)
  | joined (sources : List Value) (isStrict : Bool)
  | numbered (next : Int) (source : Value)
  | called (code last : Value)
  | indexed (object : Value) (next : Nat)

/-- What becomes of the value that a series gets when it goes on. -/
inductive Receiver where
  | nothing
  | targets (line : Nat) (targets : List Term)
  | result

/-- Why the course of a routine is left. -/
inductive Leave where
  | raised (fault : Value)
  | breakOff
  | goOn
  | returned (value : Value)
  | ended (status : Nat)

/-- What is left to be done in a routine. -/
inductive Task where
  | block (statements : List Statement)
  | loop (line : Nat) (condition : Term) (body otherwise : List Statement)
  | forEach (line : Nat) (target : Term) (values : Value) (body otherwise : List Statement)
  /-- What is done about failures of what comes before. -/
  | attempt (handlers : List Handler) (otherwise last : List Statement)
  | settled (last : List Statement)
  /-- Leaves the course after all. -/
  | resume (leave : Leave)
  /-- Leaves a manager, and those that were entered before it. -/
  | within (manager : Value)
  | enter (line : Nat) (managers : List Term) (targets : List (Option Term))
  /-- Forgets a failure that was dealt with, and its name. -/
  | forget (name : Option Text)
  | receive (receiver : Receiver)
  | delegate (values : Value) (receiver : Receiver)

/-- A routine that gives values one after the other. -/
structure Series where
  tasks : List Task
  scope : Nat
  name : Text
  path : Text
  owner : Option Nat
  first : Option Value
  line : Nat
  isBegun : Bool
  isRunning : Bool

structure Pattern where
  expression : Expression
  text : Text
  flags : Expression.Rich.Flags
  isOctets : Bool

/-- What was found in a text. -/
structure Found where
  subject : Text
  isOctets : Bool
  /-- Where groups begin and end. -/
  groups : Array (Option (Nat × Nat))
  names : List (Text × Nat)
  pattern : Nat

inductive Content where
  | list (items : Array Value)
  | buffer (octets : Text)
  | table (entries : Roster (Value × Value))
  | set (entries : Roster Value) (isFrozen : Bool)
  | range (start stop step : Int)
  | view (table : Nat) (side : Side)
  | scope (scope : Scope)
  | module (name : Text) (scope : Nat)
  | code (code : Code)
  | kind (kind : Kind)
  /-- A member of a type with its attributes and, where the type comes from one of the library,
  the value of that. -/
  | member (type : Value) (attributes : Roster Value) (core : Value)
  | fault (fault : Fault)
  | iterator (iteration : Iteration)
  | series (series : Series)
  | handle (handle : Handle)
  | sheet (sheet : Sheet)
  | pattern (pattern : Pattern)
  | found (found : Found)
  | property (read write delete : Value)
  /-- A routine that gets no member, or the type. -/
  | still (code : Value) (isOfType : Bool)
  /-- A value as a member of the types behind one of its own. -/
  | above (type object : Value)
  /-- A source of chance: words, and which of them is the next. -/
  | chance (words : Array UInt32) (next : Nat)
  /-- The names of what lies at a place, as a table. -/
  | names (owner : Nat)

instance : Inhabited Content := ⟨.list #[]⟩

/-- A call that is under way. -/
structure Frame where
  name : Text
  path : Text
  line : Nat
  scope : Nat
  owner : Option Nat
  first : Option Value

instance : Inhabited Frame := ⟨⟨[], [], 0, 0, none, none⟩⟩

structure State where
  routines : Array Routine
  cells : Array Content
  modules : Roster Value
  /-- The lines of files that calls are traced through. -/
  sources : List (Text × Array Text)
  frames : List Frame
  depth : Nat
  /-- How many calls go inside one another. -/
  deepest : Nat
  /-- The failures that are dealt with, the last one first. -/
  handled : List Value
  expressions : List (Text × Expression)
  /-- What is called at the end. -/
  lastCalls : List (Value × List Value × List (Text × Value))
  /-- What is called when a signal comes. -/
  handlers : List (Nat × Value)
  alarm : Option Nat
  /-- Whether assertions are checked. -/
  checks : Bool
  /-- How often the time was asked for. -/
  asked : Nat
  seed : UInt64

abbrev Run := ExceptT Leave (StateT State Step)

/-- What a program is carried out with. -/
structure Host where
  name : Text
  /-- Carries out another program in the place of this one, or tells why that cannot be. -/
  start : (program : Text) → (arguments : List Text) → Step FileError

/-- How a series goes on: with a value, or with a fault where it stopped. -/
inductive Resumption where
  | send (value : Value)
  | raise (fault : Value)

/-- The ways to carry out what lies inside. -/
structure Evaluator where
  value : Term → Run Value
  call : (code : Value) → (arguments : List Value) → (named : List (Text × Value)) → Run Value
  /-- The next value of what gives values one after the other. -/
  next : Value → Run (Option Value)
  /-- Goes on with a series, up to its next value or to the result that it ends with. -/
  resume : (series : Nat) → Resumption → Run (Except Value Value)
  /-- Does what is left to be done in a routine; the result is what that gives back. -/
  perform : List Task → Run Value
  /-- How often one thing is done at most. -/
  limit : Nat
  host : Host

/-! Places that are known from the start. -/

def placeOfMain : Nat := 0
def placeOfSystem : Nat := 1
def placeOfInput : Nat := 3
def placeOfOutput : Nat := 5
def placeOfProblems : Nat := 7

/-! Cells. -/

def contentAt (place : Nat) : Run Content := do return (← get).cells.getD place default

def setContent (place : Nat) (content : Content) : Run Unit := modify fun state =>
  { state with cells := state.cells.setIfInBounds place content }

def allocate (content : Content) : Run Nat := modifyGet fun state =>
  (state.cells.size, { state with cells := state.cells.push content })

def make (content : Content) : Run Value := do return .object (← allocate content)

/-- Works on what lies at a place. -/
def onContent {α : Type} (place : Nat) (work : Content → α × Content) : Run α :=
  modifyGet fun state =>
    let content := state.cells.getD place default
    let state := { state with cells := state.cells.setIfInBounds place default }
    let (result, content) := work content
    (result, { state with cells := state.cells.setIfInBounds place content })

def makeList (items : List Value) : Run Value := make (.list items.toArray)

/-! Names as tables. -/

/-- The names that something has values under. -/
def Content.ownNames : Content → Roster Value
  | .scope space => space.names
  | .member _ attributes _ => attributes
  | .fault known => known.attributes
  | .code known => known.attributes
  | _ => .empty

def Content.withNames (given : Roster Value) : Content → Content
  | .scope space => .scope { space with names := given }
  | .member type _ core => .member type given core
  | .fault known => .fault { known with attributes := given }
  | .code known => .code { known with attributes := given }
  | content => content

/-- The place of what has the names that a place stands for, if it stands for names. -/
def ownerOfNames? (place : Nat) : Run (Option Nat) := do
  match ← contentAt place with
  | .scope _ => return some place
  | .names owner => return some owner
  | _ => return none

/-- What lies at a place, names as a table. -/
def readableAt (place : Nat) : Run Content := do
  match ← contentAt place with
  | .scope scope => return table scope.names
  | .names owner => return table (← contentAt owner).ownNames
  | content => return content
where
  table (names : Roster Value) : Content :=
    .table (.ofEntries (names.entries.map fun (name, value) =>
      ('s' :: name, (.text name, value))))

/-! Faults. -/

/-- The way to where the program is. -/
def presentSpots : Run (List Spot) := do
  return ((← get).frames.map fun frame => (⟨frame.path, frame.line, frame.name⟩ : Spot)).reverse

def makeFault (type : Value) (arguments : List Value) : Run Nat :=
  allocate (.fault {
    type, arguments, spots := [], level := 0, cause := none, context := none
    hidesContext := false, attributes := .empty })

/-- The fault at a place, of which a member may be made. -/
def faultAt? (value : Value) : Run (Option (Nat × Fault)) := do
  match value with
  | .object place =>
      match ← contentAt place with
      | .fault fault => return some (place, fault)
      | _ => return none
  | _ => return none

/-- Raises a fault here. -/
def raiseFault {α : Type} (place : Nat) : Run α := do
  match ← contentAt place with
  | .fault fault =>
      let spots ← if fault.spots.isEmpty then presentSpots else pure fault.spots
      let context := match fault.context, (← get).handled with
        | none, .object other :: _ => if other = place then none else some (.object other)
        | context, _ => context
      setContent place (.fault { fault with spots, context })
  | _ => pure ()
  throw (.raised (.object place))

def raiseWith {α : Type} (type : Text) (arguments : List Value) : Run α := do
  raiseFault (← makeFault (.type type) arguments)

def fail {α : Type} (type message : Text) : Run α := raiseWith type [.text message]

def failType {α : Type} (message : Text) : Run α := fail "TypeError" message

def failValue {α : Type} (message : Text) : Run α := fail "ValueError" message

/-! Scopes. -/

def scopeAt (place : Nat) : Run Scope := do
  match ← contentAt place with
  | .scope scope => return scope
  | _ => return ⟨.empty, .module, [], [], [], none⟩

def presentFrame : Run Frame := do return (← get).frames.headD default

def presentScope : Run Nat := do return (← presentFrame).scope

def newScope (kind : ScopeKind) (own : List Text) (outer : Option Nat) : Run Nat :=
  allocate (.scope ⟨.empty, kind, own, [], [], outer⟩)

/-- Does something with a scope as the present one. -/
def withScope {α : Type} (place : Nat) (action : Run α) : Run α := do
  let before ← presentScope
  let change (scope : Nat) : Run Unit := modify fun state =>
    { state with frames := match state.frames with
      | frame :: frames => { frame with scope } :: frames
      | [] => [] }
  change place
  let result ← tryCatch action fun leave => do
    change before
    throw leave
  change before
  return result

/-- How many scopes are around one another at most. -/
def deepestScope : Nat := 256

/-- The scope of the module around a scope. -/
def moduleScope : (fuel : Nat) → (place : Nat) → Run Nat
  | 0, place => return place
  | fuel + 1, place => do
      let scope ← scopeAt place
      match scope.outer with
      | some outer => if scope.kind = .module then return place else moduleScope fuel outer
      | none => return place

def presentModule : Run Nat := do moduleScope deepestScope (← presentScope)

def bindAt (place : Nat) (name : Text) (value : Value) : Run Unit :=
  onContent place fun content => match content with
    | .scope scope => ((), .scope { scope with names := scope.names.insert name value })
    | content => ((), content)

def unbindAt (place : Nat) (name : Text) : Run Bool :=
  onContent place fun content => match content with
    | .scope scope =>
        (scope.names.has name, .scope { scope with names := scope.names.erase name })
    | content => (false, content)

/-- The routine around a scope that a name belongs to. -/
def ownerOf? (name : Text) : (fuel : Nat) → (place : Option Nat) → Run (Option Nat)
  | 0, _ | _ + 1, none => return none
  | fuel + 1, some place => do
      let scope ← scopeAt place
      if scope.kind = .routine && (scope.own.elem name || scope.names.has name) then
        return some place
      else ownerOf? name fuel scope.outer

/-- The scope in which a name gets its value. -/
def targetScope (name : Text) : (fuel : Nat) → (place : Nat) → Run Nat
  | 0, place => return place
  | fuel + 1, place => do
      let scope ← scopeAt place
      if scope.shared.elem name then moduleScope deepestScope place
      else if scope.foreign.elem name then
        return (← ownerOf? name deepestScope scope.outer).getD place
      else if scope.kind = .inner && !scope.own.elem name then
        match scope.outer with
        | some outer => targetScope name fuel outer
        | none => return place
      else return place

def assignName (name : Text) (value : Value) : Run Unit := do
  bindAt (← targetScope name deepestScope (← presentScope)) name value

/-- The value of a name in a scope and those around it. The last argument tells whether one of
them is a routine around the present one. -/
def findName (name : Text) : (fuel : Nat) → (place : Nat) → (isOuter : Bool) →
    Run (Option Value)
  | 0, _, _ => return none
  | fuel + 1, place, isOuter => do
      let scope ← scopeAt place
      let found := if isOuter && scope.kind = .type then none else scope.names.get? name
      if scope.shared.elem name then
        return (← scopeAt (← moduleScope deepestScope place)).names.get? name
      match found with
      | some value => return some value
      | none =>
          if scope.kind = .routine && scope.own.elem name then
            if isOuter then
              fail "NameError" ("cannot access free variable '".toList ++ name ++
                "' where it is not associated with a value in enclosing scope".toList)
            else
              fail "UnboundLocalError" ("cannot access local variable '".toList ++ name ++
                "' where it is not associated with a value".toList)
          match scope.outer with
          | some outer => findName name fuel outer (isOuter || scope.kind != .inner)
          | none => return none

def undefinedName {α : Type} (name : Text) : Run α :=
  fail "NameError" ("name '".toList ++ name ++ "' is not defined".toList)

def deleteName (name : Text) : Run Unit := do
  let target ← targetScope name deepestScope (← presentScope)
  if !(← unbindAt target name) then
    if (← scopeAt target).kind = .routine then
      fail "UnboundLocalError" ("cannot access local variable '".toList ++ name ++
        "' where it is not associated with a value".toList)
    else undefinedName name

/-! Frames. -/

def setLine (line : Nat) : Run Unit := modify fun state =>
  { state with frames := match state.frames with
    | frame :: frames => { frame with line } :: frames
    | [] => [] }

/-- Does something within a call. -/
def withFrame {α : Type} (frame : Frame) (action : Run α) : Run α := do
  let state ← get
  if state.deepest ≤ state.depth then
    fail "RecursionError" "maximum recursion depth exceeded"
  let leaveFrame : Run Unit := modify fun state =>
    { state with frames := state.frames.drop 1, depth := state.depth - 1 }
  modify fun state => { state with frames := frame :: state.frames, depth := state.depth + 1 }
  let result ← tryCatch action fun leave => do
    leaveFrame
    throw leave
  leaveFrame
  return result

end ShaderCost.Script.Indented
