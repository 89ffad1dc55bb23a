import Mathlib.Data.List.Perm.Basic
import ShaderCost.Metrics

/-!
The figures of a report one by one. Each measure owns one figure and changes no other, so that the
measures can be taken in any order, and what a report gives for one of them depends on nothing but
the value that stands behind its label.
-/

namespace ShaderCost

/-- What one measure gives: a register count, a number, or the code of a unit. -/
inductive Figure where
  | count (value : Nat)
  | number (value : Binary64)
  | unit (value : Text)
  deriving DecidableEq

namespace Metrics

def figure (metrics : Metrics) : Measure → Figure
  | .workRegisters => .count metrics.workRegisters
  | .uniformRegisters => .count metrics.uniformRegisters
  | .sixteenBitArithmetic => .number metrics.sixteenBitArithmetic
  | .totalCycles => .number metrics.totalCycles
  | .shortestPathCycles => .number metrics.shortestPathCycles
  | .longestPathCycles => .number metrics.longestPathCycles
  | .bottleneckUnit => .unit metrics.bottleneckUnit

/-- The metrics with the figure of one measure as it is before anything is read. -/
def without (metrics : Metrics) : Measure → Metrics
  | .workRegisters => { metrics with workRegisters := 0 }
  | .uniformRegisters => { metrics with uniformRegisters := 0 }
  | .sixteenBitArithmetic => { metrics with sixteenBitArithmetic := 0 }
  | .totalCycles => { metrics with totalCycles := 0 }
  | .shortestPathCycles => { metrics with shortestPathCycles := 0 }
  | .longestPathCycles => { metrics with longestPathCycles := 0 }
  | .bottleneckUnit => { metrics with bottleneckUnit := [] }

theorem without_figure (metrics : Metrics) (measure : Measure) :
    (metrics.without measure).figure measure = ({} : Metrics).figure measure := by
  cases measure <;> rfl

theorem without_other (metrics : Metrics) {measure other : Measure} (apart : other ≠ measure) :
    (metrics.without measure).figure other = metrics.figure other := by
  cases measure <;> cases other <;> first | rfl | exact absurd rfl apart

theorem without_nothing (measure : Measure) : ({} : Metrics).without measure = {} := by
  cases measure <;> rfl

end Metrics

namespace Measure

/-- Storing a value settles the figure of its measure by what that figure was before. -/
theorem store_figure {before other : Metrics} {measure : Measure}
    (same : before.figure measure = other.figure measure) (value : Text) :
    (measure.store value before).figure measure = (measure.store value other).figure measure := by
  cases measure <;> simp only [Metrics.figure, store, Figure.count.injEq, Figure.number.injEq]
    at same ⊢ <;> rw [same]

theorem store_own (measure : Measure) (value : Text) (metrics : Metrics) :
    (measure.store value metrics).without measure = metrics.without measure := by
  cases measure <;> rfl

theorem store_other {measure other : Measure} (apart : measure ≠ other) (value : Text)
    (metrics : Metrics) :
    (measure.store value metrics).without other = measure.store value (metrics.without other) := by
  cases measure <;> cases other <;> first | rfl | exact absurd rfl apart

theorem store_comm {measure other : Measure} (apart : measure ≠ other) (value text : Text)
    (metrics : Metrics) :
    other.store text (measure.store value metrics) =
      measure.store value (other.store text metrics) := by
  cases measure <;> cases other <;> first | rfl | exact absurd rfl apart

theorem read_own (report : Text) (metrics : Metrics) (measure : Measure) :
    (measure.read report metrics).without measure = metrics.without measure := by
  rw [read]
  split
  · exact store_own measure _ metrics
  · rfl

theorem read_other {measure other : Measure} (apart : measure ≠ other) (report : Text)
    (metrics : Metrics) :
    (read report metrics measure).without other = read report (metrics.without other) measure := by
  rw [read, read]
  split
  · exact store_other apart _ metrics
  · rfl

/-- Two measures can be taken one before the other or the other way around, whether they stand in
the report or not and whether their values can be stored or not. -/
theorem read_comm (report : Text) (metrics : Metrics) (measure other : Measure) :
    read report (read report metrics measure) other =
      read report (read report metrics other) measure := by
  by_cases apart : measure = other
  · rw [apart]
  · simp only [read]
    cases measure.value? report with
    | none => rfl
    | some value =>
        cases other.value? report with
        | none => rfl
        | some text => exact store_comm apart value text metrics

/-- The figure that a value gives on its own, or that is there without one. -/
def figureOf (measure : Measure) (value : Option Text) : Figure :=
  (value.elim {} fun text => measure.store text {} : Metrics).figure measure

theorem read_figure {metrics : Metrics} {measure : Measure}
    (untouched : metrics.figure measure = ({} : Metrics).figure measure) (report : Text) :
    (read report metrics measure).figure measure = measure.figureOf (measure.value? report) := by
  rw [read, figureOf]
  cases measure.value? report with
  | none => exact untouched
  | some value => exact store_figure untouched value

end Measure

namespace Metrics

theorem read_measures_perm {order others : List Measure} (same : order.Perm others)
    (report : Text) : readMeasures order report = readMeasures others report :=
  same.foldl_eq' (fun measure _ other _ metrics => Measure.read_comm report metrics measure other) {}

/-- A measure that is not taken keeps its figure as it is before anything is read. -/
theorem read_measures_absent {order : List Measure} {measure : Measure} (absent : measure ∉ order)
    (report : Text) :
    (readMeasures order report).without measure = readMeasures order report := by
  have folded : ∀ metrics, (order.foldl (Measure.read report) metrics).without measure =
      order.foldl (Measure.read report) (metrics.without measure) := by
    induction order with
    | nil => exact fun metrics => rfl
    | cons first order induction =>
        rw [List.mem_cons, not_or] at absent
        intro metrics
        rw [List.foldl_cons, List.foldl_cons, induction absent.2,
          Measure.read_other (Ne.symm absent.1)]
  rw [readMeasures, folded, without_nothing]

/-- Taking a measure can be put off until all others have been taken. -/
theorem read_measures_last {order : List Measure} {measure : Measure} (member : measure ∈ order)
    (report : Text) : readMeasures order report =
      measure.read report (readMeasures (order.erase measure) report) := by
  have later : order.Perm (order.erase measure ++ [measure]) :=
    (List.perm_cons_erase member).trans (List.perm_append_singleton measure _).symm
  rw [read_measures_perm later, readMeasures, List.foldl_append]
  rfl

/-- Leaving a measure out of an order without repetition gives up its figure and nothing else. -/
theorem read_measures_erase {order : List Measure} (distinct : order.Nodup) {measure : Measure}
    (member : measure ∈ order) (report : Text) :
    readMeasures (order.erase measure) report = (readMeasures order report).without measure := by
  rw [read_measures_last member, Measure.read_own,
    read_measures_absent fun again => (distinct.mem_erase_iff.mp again).1 rfl]

theorem mem_all (measure : Measure) : measure ∈ Measure.all := by
  cases measure <;> decide

theorem of_report_figure (report : Text) (measure : Measure) :
    (ofReport report).figure measure = measure.figureOf (measure.value? report) := by
  have distinct : Measure.all.Nodup := by decide
  have untouched : (readMeasures (Measure.all.erase measure) report).figure measure =
      ({} : Metrics).figure measure := by
    rw [read_measures_erase distinct (mem_all measure), without_figure]
  have taken : (ofReport report).figure measure =
      (readMeasures Measure.all report).figure measure := by
    cases measure <;> rfl
  rw [taken, read_measures_last (mem_all measure), Measure.read_figure untouched]

/-- The metrics of a report whose measures are taken in some order. What else it states is looked
up on its own. -/
def ofReportBy (order : List Measure) (report : Text) : Metrics :=
  { readMeasures order report with
    architecture := architectureOf report
    stackSpilling := statesSpilling report
    uniformComputation := states report .uniformComputation
    sideEffects := states report .sideEffects
    modifiesCoverage := states report .modifiesCoverage
    lateDepthTest := states report .lateDepthTest
    lateDepthUpdate := states report .lateDepthUpdate
    readsColorBuffer := states report .readsColorBuffer }

/-- All measures give the same metrics in whichever order they are taken. A measure that is left
out takes nothing with it but its own figure, which is then what it is before anything is read. -/
theorem measures_independent (report : Text) {order : List Measure}
    (same : order.Perm Measure.all) :
    ofReportBy order report = ofReport report ∧
      ∀ measure, ofReportBy (order.erase measure) report = (ofReport report).without measure ∧
        (ofReportBy (order.erase measure) report).figure measure =
          ({} : Metrics).figure measure := by
  have distinct : order.Nodup := same.nodup_iff.mpr (by decide)
  have whole : ofReportBy order report = ofReport report := by
    rw [ofReportBy, read_measures_perm same]
    rfl
  refine ⟨whole, ?_⟩
  intro measure
  have erased : ofReportBy (order.erase measure) report = (ofReport report).without measure := by
    rw [ofReportBy, read_measures_erase distinct (same.mem_iff.mpr (mem_all measure)),
      read_measures_perm same]
    cases measure <;> rfl
  exact ⟨erased, by rw [erased, without_figure]⟩

/-- A report with a value that is no number, one that is, and two measures missing. -/
def mixedReport : Text :=
  "Work registers: 12\nTotal instruction cycles: 1.2.3\nShortest path cycles: 4\nBound: ls"

/-- In the opposite order the mixed report gives the same metrics, and without its shortest path
all figures but that one. -/
theorem measures_independent_reversed :
    Measure.all.reverse.Perm Measure.all ∧
      ofReportBy Measure.all.reverse mixedReport = ofReport mixedReport ∧
      (ofReportBy (Measure.all.reverse.erase .shortestPathCycles) mixedReport).figure .totalCycles =
        .number 0 ∧
      (ofReportBy (Measure.all.reverse.erase .shortestPathCycles) mixedReport).figure .bottleneckUnit =
        .unit "LS" ∧
      (ofReportBy (Measure.all.reverse.erase .shortestPathCycles) mixedReport).figure
        .shortestPathCycles ≠ (ofReport mixedReport).figure .shortestPathCycles := by
  have reversed : Measure.all.reverse.Perm Measure.all := List.reverse_perm Measure.all
  obtain ⟨whole, erased⟩ := measures_independent mixedReport reversed
  obtain ⟨others, own⟩ := erased .shortestPathCycles
  refine ⟨reversed, whole, ?_, ?_, ?_⟩
  · have apart : Measure.totalCycles ≠ .shortestPathCycles := by decide
    rw [others, without_other _ apart, of_report_figure]
    decide +kernel
  · have apart : Measure.bottleneckUnit ≠ .shortestPathCycles := by decide
    rw [others, without_other _ apart, of_report_figure]
    decide +kernel
  · rw [own, of_report_figure]
    decide +kernel

end Metrics

end ShaderCost
