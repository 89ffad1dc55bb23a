import ShaderCost.Binary64.Basic
import ShaderCost.Binary64.Decimal
import ShaderCost.Text.Basic
import ShaderCost.Text.Character
import ShaderCost.Text.Numeral
import ShaderCost.Text.Word

/-!
The figures that an offline compiler report gives for one stage. Measures are figures given as a
label, a colon and a value. A label may be written in any case. The first place where a label stands
with a value decides; a value there that cannot be stored leaves the figure as it was. Reading never
fails: a figure that the report does not give has the value zero, an empty text or false.
-/

namespace ShaderCost

structure Metrics where
  workRegisters : Nat := 0
  uniformRegisters : Nat := 0
  /-- Share of the arithmetic done at 16-bit precision, in percent. -/
  sixteenBitArithmetic : Binary64 := 0
  totalCycles : Binary64 := 0
  shortestPathCycles : Binary64 := 0
  longestPathCycles : Binary64 := 0
  /-- Code of the unit that limits the stage, such as `A`, `T`, `LS` or `V`. -/
  bottleneckUnit : Text := []
  architecture : Text := []
  stackSpilling : Bool := false
  uniformComputation : Bool := false
  sideEffects : Bool := false
  modifiesCoverage : Bool := false
  lateDepthTest : Bool := false
  lateDepthUpdate : Bool := false
  readsColorBuffer : Bool := false
  deriving DecidableEq, Inhabited

/-- The yes-or-no properties that a report states in words. -/
inductive Property where
  | uniformComputation
  | sideEffects
  | modifiesCoverage
  | lateDepthTest
  | lateDepthUpdate
  | readsColorBuffer
  deriving DecidableEq

namespace Property

/-- The order in which properties are shown. -/
def all : List Property :=
  [uniformComputation, sideEffects, modifiesCoverage, lateDepthTest, lateDepthUpdate,
    readsColorBuffer]

/-- The phrase by which a report states the property. -/
def phrase : Property → Text
  | uniformComputation => "Has uniform computation: true"
  | sideEffects => "Has side-effects: true"
  | modifiesCoverage => "Modifies coverage: true"
  | lateDepthTest => "Uses late ZS test: true"
  | lateDepthUpdate => "Uses late ZS update: true"
  | readsColorBuffer => "Reads color buffer: true"

def label : Property → Text
  | uniformComputation => "Uniform computation"
  | sideEffects => "Side effects"
  | modifiesCoverage => "Modifies coverage"
  | lateDepthTest => "Late ZS test"
  | lateDepthUpdate => "Late ZS update"
  | readsColorBuffer => "Reads color buffer"

end Property

/-- Whether the metrics have a property. -/
def Metrics.has (metrics : Metrics) : Property → Bool
  | .uniformComputation => metrics.uniformComputation
  | .sideEffects => metrics.sideEffects
  | .modifiesCoverage => metrics.modifiesCoverage
  | .lateDepthTest => metrics.lateDepthTest
  | .lateDepthUpdate => metrics.lateDepthUpdate
  | .readsColorBuffer => metrics.readsColorBuffer

inductive Measure where
  | workRegisters
  | uniformRegisters
  | sixteenBitArithmetic
  | totalCycles
  | shortestPathCycles
  | longestPathCycles
  | bottleneckUnit
  deriving DecidableEq

namespace Measure

open Text

def all : List Measure :=
  [workRegisters, uniformRegisters, sixteenBitArithmetic, totalCycles, shortestPathCycles,
    longestPathCycles, bottleneckUnit]

def label : Measure → Text
  | workRegisters => "Work registers"
  | uniformRegisters => "Uniform registers"
  | sixteenBitArithmetic => "16-bit arithmetic"
  | totalCycles => "Total instruction cycles"
  | shortestPathCycles => "Shortest path cycles"
  | longestPathCycles => "Longest path cycles"
  | bottleneckUnit => "Bound"

def isNumeralChar (c : Char) : Bool := isDecimalDigit c || c == '.'

/-- The characters that a value is made of. -/
def isValueChar : Measure → Char → Bool
  | workRegisters => isDecimalDigit
  | uniformRegisters => isDecimalDigit
  | sixteenBitArithmetic => isNumeralChar
  | totalCycles => isNumeralChar
  | shortestPathCycles => isNumeralChar
  | longestPathCycles => isNumeralChar
  | bottleneckUnit => isFoldedLetter

/-- What has to follow a value: the share is given in percent, the rest has no unit. -/
def unit : Measure → Text
  | sixteenBitArithmetic => "%"
  | _ => ""

/-- Whether a label may start after the given character: that of the bottleneck has to start a
word. -/
def startsAfter : Measure → Option Char → Bool
  | bottleneckUnit, some before => !isWord before
  | _, _ => true

/-- The value after a label that stands right here. -/
def valueHere? (measure : Measure) (text : Text) : Option Text := do
  let afterLabel ← afterFolded? measure.label text
  let afterColon ← after? ":" (trimStart afterLabel)
  let value := (trimStart afterColon).takeWhile measure.isValueChar
  let behind := (trimStart afterColon).dropWhile measure.isValueChar
  if value.isEmpty then none
  else if measure.unit.isEmpty then some value
  else (after? measure.unit (trimStart behind)).map fun _ => value

/-- The value at the first place where the label stands with one. -/
def valueAfter? (measure : Measure) (before : Option Char) : Text → Option Text
  | [] => none
  | c :: rest =>
      match if measure.startsAfter before then measure.valueHere? (c :: rest) else none with
      | some value => some value
      | none => measure.valueAfter? (some c) rest

def value? (measure : Measure) (report : Text) : Option Text := measure.valueAfter? none report

/-- The count that a value spells, when it is a register count that fits 32 bits. -/
def count? (value : Text) : Option Nat := natBelow? (twoTo 32) value

/-- The finite number that a value spells. -/
def number? (value : Text) : Option Binary64 :=
  (Binary64.ofText? value).filter Binary64.isFinite

/-- Stores a value in its figure; one that does not read as the figure's kind changes nothing. -/
def store (measure : Measure) (value : Text) (metrics : Metrics) : Metrics :=
  match measure with
  | workRegisters => { metrics with
      workRegisters := (count? value).getD metrics.workRegisters }
  | uniformRegisters => { metrics with
      uniformRegisters := (count? value).getD metrics.uniformRegisters }
  | sixteenBitArithmetic => { metrics with
      sixteenBitArithmetic := (number? value).getD metrics.sixteenBitArithmetic }
  | totalCycles => { metrics with
      totalCycles := (number? value).getD metrics.totalCycles }
  | shortestPathCycles => { metrics with
      shortestPathCycles := (number? value).getD metrics.shortestPathCycles }
  | longestPathCycles => { metrics with
      longestPathCycles := (number? value).getD metrics.longestPathCycles }
  | bottleneckUnit => { metrics with bottleneckUnit := toUpper value }

/-- Takes one measure from a report. -/
def read (report : Text) (metrics : Metrics) (measure : Measure) : Metrics :=
  match measure.value? report with
  | some value => measure.store value metrics
  | none => metrics

end Measure

end ShaderCost

namespace ShaderCost.Metrics

/-- Architectures that a report may name, the earlier one being preferred. -/
def architectures : List Text := ["Bifrost", "Valhall", "Midgard"]

def architectureOf (report : Text) : Text :=
  (architectures.find? fun name => Text.contains name report).getD []

def states (report : Text) (property : Property) : Bool := Text.contains property.phrase report

/-- A report speaks of spilling in its own words, and only one wording denies it. -/
def statesSpilling (report : Text) : Bool :=
  Text.contains "Stack spilling" report && !Text.contains "Stack spilling: false" report

/-- Takes the given measures from a report, in order. -/
def readMeasures (measures : List Measure) (report : Text) : Metrics :=
  measures.foldl (Measure.read report) {}

def ofReport (report : Text) : Metrics :=
  { readMeasures Measure.all report with
    architecture := architectureOf report
    stackSpilling := statesSpilling report
    uniformComputation := states report .uniformComputation
    sideEffects := states report .sideEffects
    modifiesCoverage := states report .modifiesCoverage
    lateDepthTest := states report .lateDepthTest
    lateDepthUpdate := states report .lateDepthUpdate
    readsColorBuffer := states report .readsColorBuffer }

end ShaderCost.Metrics
