import ShaderCost.Metrics

/-!
Optimisation suggestions. A fixed table of rules looks at the metrics of both stages; every rule
that applies gives one suggestion. Readers see them ranked by priority.
-/

namespace ShaderCost

inductive Priority where
  | low
  | medium
  | high
  | critical
  deriving DecidableEq

namespace Priority

def level : Priority → Nat
  | low => 0
  | medium => 1
  | high => 2
  | critical => 3

def label : Priority → Text
  | low => "LOW"
  | medium => "MEDIUM"
  | high => "HIGH"
  | critical => "CRITICAL"

def name : Priority → Text
  | low => "Low"
  | medium => "Medium"
  | high => "High"
  | critical => "Critical"

def icon : Priority → Text
  | low => "🟢"
  | medium => "🟡"
  | high => "🟠"
  | critical => "🔴"

end Priority

structure Suggestion where
  priority : Priority
  category : Text
  issue : Text
  remedy : Text
  impact : Text
  deriving DecidableEq

/-- A suggestion and the condition, on the vertex and the fragment metrics, under which it is
made. -/
structure Rule extends Suggestion where
  applies : Metrics → Metrics → Bool

namespace Rule

/-- Work registers beyond this count halve the threads that run at once. -/
def registerBudget : Nat := 32

/-- Fifty percent. -/
def precisionShare : Binary64 := Binary64.ofNat 50

def overRegisterBudget (vertex fragment : Metrics) : Bool :=
  registerBudget < vertex.workRegisters || registerBudget < fragment.workRegisters

def lowPrecisionShare (_ fragment : Metrics) : Bool :=
  fragment.sixteenBitArithmetic.lt precisionShare

def spills (vertex fragment : Metrics) : Bool := vertex.stackSpilling || fragment.stackSpilling

def boundBy (unit : Text) (_ fragment : Metrics) : Bool := fragment.bottleneckUnit == unit

def lateDepth (_ fragment : Metrics) : Bool := fragment.lateDepthTest || fragment.lateDepthUpdate

def hasSideEffects (_ fragment : Metrics) : Bool := fragment.sideEffects

/-- All rules, in the order in which their suggestions are made. -/
def all : List Rule :=
  [ { priority := .high
      category := "Register optimization"
      issue :=
        "Work register usage exceeds 32, which halves the threads each shader core can run " ++
        "concurrently."
      remedy :=
        "Shorten variable lifetimes, split long computations, and avoid large local arrays or " ++
        "deeply unrolled loops."
      impact :=
        "Doubles thread occupancy and improves latency hiding."
      applies := overRegisterBudget },
    { priority := .medium
      category := "Precision optimization"
      issue :=
        "Less than half of the fragment arithmetic runs at 16-bit precision."
      remedy :=
        "Declare colors, normals and UV math as mediump (half) where full precision is not " ++
        "required."
      impact :=
        "Up to twice the arithmetic throughput and lower register usage."
      applies := lowPrecisionShare },
    { priority := .critical
      category := "Memory optimization"
      issue :=
        "Register pressure forces the shader to spill to stack memory."
      remedy :=
        "Reduce live variables, remove dynamically indexed arrays, and simplify control flow " ++
        "so values fit in registers."
      impact :=
        "Eliminates slow memory round trips that stall every thread."
      applies := spills },
    { priority := .high
      category := "Arithmetic optimization"
      issue :=
        "The fragment shader is bound by the arithmetic unit."
      remedy :=
        "Move per-pixel constants to the vertex shader or uniforms, use cheaper " ++
        "approximations of transcendental functions, and bake lookups into textures."
      impact :=
        "Shorter arithmetic critical path and higher fill rate."
      applies := boundBy "A" },
    { priority := .high
      category := "Texture optimization"
      issue :=
        "The fragment shader is bound by the texture unit."
      remedy :=
        "Reduce the number of samples, use mipmaps and compressed formats, and prefer " ++
        "bilinear over trilinear or anisotropic filtering."
      impact :=
        "Fewer texture cycles per pixel and lower memory bandwidth."
      applies := boundBy "T" },
    { priority := .medium
      category := "Memory-access optimization"
      issue :=
        "The fragment shader is bound by the load/store unit."
      remedy :=
        "Pack uniform and buffer data, avoid scattered buffer reads, and cache repeated loads " ++
        "in local variables."
      impact :=
        "Fewer load/store cycles and less memory traffic."
      applies := boundBy "LS" },
    { priority := .high
      category := "Depth-test optimization"
      issue :=
        "The fragment shader forces late depth/stencil testing or updates."
      remedy :=
        "Avoid discard, alpha-to-coverage and depth writes from the shader so early ZS " ++
        "testing can cull hidden fragments."
      impact :=
        "Hidden fragments are rejected before shading, reducing overdraw cost."
      applies := lateDepth },
    { priority := .medium
      category := "Side-effect optimization"
      issue :=
        "The fragment shader has side effects such as image or buffer stores."
      remedy :=
        "Move writes to a compute pass or guard them so the driver can keep hidden surface " ++
        "removal enabled."
      impact :=
        "Restores early fragment culling and reduces wasted shading."
      applies := hasSideEffects } ]

end Rule

namespace Suggestion

/-- One suggestion for each rule that applies. -/
def forMetrics (vertex fragment : Metrics) : List Suggestion :=
  (Rule.all.filter fun rule => rule.applies vertex fragment).map Rule.toSuggestion

/-- Highest priority first; suggestions of one priority keep their order. -/
def rank (suggestions : List Suggestion) : List Suggestion :=
  suggestions.mergeSort fun left right => right.priority.level ≤ left.priority.level

end Suggestion

end ShaderCost
